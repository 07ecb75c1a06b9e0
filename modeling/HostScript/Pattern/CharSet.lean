import HostScript.Text.Case
import HostScript.Text.Words
import HostScript.Text.Alphabetic

/-! # Sets of characters in patterns

A set is described by the operations of a character class: ranges, unions,
intersections, complements, and the closure under change of case. -/

namespace HostScript.Pattern

open HostScript.Text

/-- A set of characters. -/
inductive CharSet where
  | ranges (r : Ranges)
  | union (s t : CharSet)
  | inter (s t : CharSet)
  | compl (s : CharSet)
  /-- The characters that differ from a member only by case. -/
  | anyCase (s : CharSet)
  /-- The characters that differ from a member only by the case of an ASCII letter. -/
  | anyAsciiCase (s : CharSet)

/-- The characters with the same representative `f` of their case class. -/
def caseClass (f : Char) : List Char :=
  f :: foldRuns.toList.filterMap fun r =>
    let n := Int.toNat ((f.toNat : Int) - r.distance)
    if r.image? n = some f.toNat then some (Char.ofNat n) else none

namespace CharSet

/-- The character belongs to the set. -/
def contains : CharSet → Char → Bool
  | .ranges r, c => r.contains c
  | .union s t, c => s.contains c || t.contains c
  | .inter s t, c => s.contains c && t.contains c
  | .compl s, c => !(s.contains c)
  | .anyCase s, c => s.contains c || (caseClass (foldChar c)).any s.contains
  | .anyAsciiCase s, c => s.contains c || s.contains c.toLower || s.contains c.toUpper

/-- The set of one character. -/
def single (c : Char) : CharSet := .ranges #[(c.toNat, c.toNat)]

/-- The set of the characters from `a` to `b`. -/
def range (a b : Char) : CharSet := .ranges #[(a.toNat, b.toNat)]

/-- No character. -/
def empty : CharSet := .ranges #[]

/-- Every character. -/
def full : CharSet := .ranges #[(0, 0x10FFFF)]

/-- Characters in one set but not in the other. -/
def difference (s t : CharSet) : CharSet := .inter s (.compl t)

/-- Characters in exactly one of two sets. -/
def symmetricDifference (s t : CharSet) : CharSet :=
  .union (s.difference t) (t.difference s)

/-- The set or its complement. -/
def negatedIf (negated : Bool) (s : CharSet) : CharSet := if negated then .compl s else s

@[simp] theorem contains_compl (s : CharSet) (c : Char) :
    (compl s).contains c = !(s.contains c) := rfl

@[simp] theorem contains_union (s t : CharSet) (c : Char) :
    (union s t).contains c = (s.contains c || t.contains c) := rfl

end CharSet

/-- The classes written by one letter behind a backslash. -/
inductive LetterClass where
  | digit | space | word
  deriving DecidableEq, Repr

/-- The members of a letter class, among all characters or among ASCII. -/
def LetterClass.set (unicode : Bool) : LetterClass → CharSet
  | .digit => .ranges (if unicode then digitRanges else #[(48, 57)])
  | .space => .ranges (if unicode then blankRanges else #[(9, 13), (32, 32)])
  | .word => .ranges (if unicode then wordRanges else #[(48, 57), (65, 90), (95, 95), (97, 122)])

/-- The code points of a class written by an ASCII class name. -/
def namedClass? : String → Option Ranges
  | "alnum" => some #[(48, 57), (65, 90), (97, 122)]
  | "alpha" => some #[(65, 90), (97, 122)]
  | "ascii" => some #[(0, 127)]
  | "blank" => some #[(9, 9), (32, 32)]
  | "cntrl" => some #[(0, 31), (127, 127)]
  | "digit" => some #[(48, 57)]
  | "graph" => some #[(33, 126)]
  | "lower" => some #[(97, 122)]
  | "print" => some #[(32, 126)]
  | "punct" => some #[(33, 47), (58, 64), (91, 96), (123, 126)]
  | "space" => some #[(9, 13), (32, 32)]
  | "upper" => some #[(65, 90)]
  | "word" => some #[(48, 57), (65, 90), (95, 95), (97, 122)]
  | "xdigit" => some #[(48, 57), (65, 70), (97, 102)]
  | _ => none

end HostScript.Pattern
