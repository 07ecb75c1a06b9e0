import HostScript.Pattern.CharSet
import HostScript.Pattern.Problem

/-! # Patterns as they are written

The tree of a pattern before its flags take effect. A flag group inside a
sequence changes the flags for everything behind it up to the end of the
enclosing group. -/

namespace HostScript.Pattern

/-- Flags that change how a pattern is understood. -/
inductive Flag where
  | ignoreCase | multiLine | dotAll | swapGreed | unicode | carriageReturn | ignoreBlanks
  deriving DecidableEq, Repr

/-- Flags that are set and flags that are cleared. -/
structure FlagChange where
  set : List Flag := []
  cleared : List Flag := []
  deriving Repr

/-- What a change says about a flag. -/
def FlagChange.value? (c : FlagChange) (f : Flag) : Option Bool :=
  if c.set.contains f then some true
  else if c.cleared.contains f then some false
  else none

/-- Conditions on a place in the text. -/
inductive Anchor where
  | caret | dollar | textStart | textEnd
  | boundary | notBoundary
  | wordStart | wordEnd | wordStartHalf | wordEndHalf
  deriving DecidableEq, Repr

/-- How two character classes are combined. -/
inductive ClassOp where
  | intersection | difference | symmetricDifference
  deriving DecidableEq, Repr

/-- A character property: a name, or a name with a value. -/
structure PropertyQuery where
  name : String
  value : Option String := none
  negated : Bool := false
  deriving Repr

/-- A character as it is written. -/
structure Literal where
  char : Char
  /-- It is written by two hexadecimal digits, the way a byte is written. -/
  isByte : Bool := false
  span : Span
  deriving Repr

mutual

/-- A member of a character class. -/
inductive ClassItem where
  | char (c : Literal)
  | range (a b : Literal)
  | named (r : Text.Ranges) (negated : Bool) (span : Span)
  | letter (k : LetterClass) (negated : Bool) (span : Span)
  | property (q : PropertyQuery) (span : Span)
  | bracketed (negated : Bool) (body : ClassBody) (span : Span)

/-- The inside of a character class: members that are read from `start` on, or two classes
combined. -/
inductive ClassBody where
  | items (start : Point) (members : List ClassItem)
  | combine (op : ClassOp) (left right : ClassBody)

end

/-- A pattern. -/
inductive Tree where
  | empty (span : Span)
  | flags (change : FlagChange) (span : Span)
  | char (c : Literal)
  | dot (span : Span)
  | anchor (a : Anchor) (span : Span)
  | letter (k : LetterClass) (negated : Bool) (span : Span)
  | property (q : PropertyQuery) (span : Span)
  | bracketed (negated : Bool) (body : ClassBody) (span : Span)
  | repetition (least : Nat) (most : Option Nat) (greedy : Bool) (sub : Tree) (span : Span)
  | capture (index : Nat) (sub : Tree) (span : Span)
  | group (change : FlagChange) (sub : Tree) (span : Span)
  | concat (subs : List Tree) (span : Span)
  | alternation (subs : List Tree) (span : Span)

/-- The part of the pattern that a tree was read from. -/
def Tree.span : Tree → Span
  | .empty s | .flags _ s | .dot s | .anchor _ s | .letter _ _ s | .property _ s
  | .bracketed _ _ s | .repetition _ _ _ _ s | .capture _ _ s | .group _ _ s
  | .concat _ s | .alternation _ s => s
  | .char c => c.span

/-- The part of the pattern that a member of a class was read from. -/
def ClassItem.span : ClassItem → Span
  | .char c => c.span
  | .range a b => ⟨a.span.first, b.span.last⟩
  | .named _ _ s | .letter _ _ s | .property _ s | .bracketed _ _ s => s

/-- The part of the pattern that the inside of a class was read from. -/
def ClassBody.span : ClassBody → Span
  | .items start members =>
    match members.head?, members.getLast? with
    | some a, some b => ⟨a.span.first, b.span.last⟩
    | _, _ => ⟨start, start⟩
  | .combine _ left right => ⟨left.span.first, right.span.last⟩

end HostScript.Pattern
