import HostScript.Number.Reading
import HostScript.Pattern.Machine
import HostScript.Pattern.Nesting
import HostScript.Pattern.Reading
import HostScript.Pattern.Size

/-! # Searching and replacing with patterns

Matches are found from the left and do not overlap; an empty match right behind
the match before it does not count. A replacement text may refer to the groups
of a match by number or by name. -/

namespace HostScript.Pattern

/-- A pattern that was read, with its flags resolved. -/
def readNode (cs : List Char) : Except PatternError (Parsed × Node) := do
  let parsed ← readPattern cs
  match parsed.tree.tooDeep? maxNesting with
  | some span => .error ⟨.nestedTooDeep maxNesting, span⟩
  | none =>
    let (node, _) ← parsed.tree.resolve {}
    return (parsed, node)

/-- The matcher of a pattern, or the report of what is wrong with it. -/
def compile (pattern : String) : Except String Matcher :=
  let cs := pattern.toList
  match readNode cs with
  | .error e => .error (e.report cs)
  | .ok (parsed, node) =>
    if node.fits then .ok (.ofNode node parsed.groups parsed.names)
    else .error s!"Compiled regex exceeds size limit of {maxAutomatonBytes} bytes."

/-- The pattern matches somewhere in the text. -/
def Matcher.matches (p : Matcher) (text : String) : Bool :=
  (p.find? text.toList.toArray 0).isSome

/-- The next match that starts at `i` or later; an empty match that ends at `lastEnd` is
passed over. -/
def nextMatch? (p : Matcher) (text : Array Char) (i : Nat) (lastEnd : Option Nat) :
    Option (Slots × Nat × Nat) := do
  let slots ← p.find? text i
  let (a, b) ← groupBounds? slots 0
  if a = b && lastEnd = some b then
    let slots ← p.find? text (i + 1)
    let (a, b) ← groupBounds? slots 0
    return (slots, a, b)
  else return (slots, a, b)

/-- The matches from the place `i` on. -/
def matchesFrom (p : Matcher) (text : Array Char) :
    Nat → (i : Nat) → (lastEnd : Option Nat) → List (Slots × Nat × Nat)
  | 0, _, _ => []
  | n + 1, i, lastEnd =>
    match nextMatch? p text i lastEnd with
    | none => []
    | some (slots, a, b) => (slots, a, b) :: matchesFrom p text n b (some b)

/-- Every match in the text, from the left. -/
def Matcher.allMatches (p : Matcher) (text : Array Char) : List (Slots × Nat × Nat) :=
  matchesFrom p text (2 * text.size + 2) 0 none

/-- The characters of the text from `a` up to `b`. -/
def slice (text : Array Char) (a b : Nat) : List Char :=
  (text.extract a b).toList

/-- The text of a group of a match. -/
def groupText (text : Array Char) (slots : Slots) (index : Nat) : List Char :=
  match groupBounds? slots index with
  | some (a, b) => slice text a b
  | none => []

/-- A character of a group reference without braces. -/
def isReferenceChar (c : Char) : Bool := c.isAlphanum || c == '_'

/-- The text of the group with the given number or name; a group that does not exist is
empty. -/
def referenceText (p : Matcher) (text : Array Char) (slots : Slots) (name : List Char) :
    List Char :=
  match Number.wordOf? (String.ofList name) with
  | some index => groupText text slots index
  | none =>
    match p.names.find? fun e => e.1 == String.ofList name with
    | some (_, index) => groupText text slots index
    | none => []

/-- The replacement text with its group references replaced. -/
def expand (p : Matcher) (text : Array Char) (slots : Slots) :
    Nat → (replacement : List Char) → List Char
  | 0, cs => cs
  | _, [] => []
  | n + 1, c :: rest =>
    if c != '$' then c :: expand p text slots n rest
    else match rest with
      | [] => ['$']
      | '$' :: rest => '$' :: expand p text slots n rest
      | '{' :: inner =>
        match inner.dropWhile (· != '}') with
        | [] => '$' :: expand p text slots n rest
        | _ :: behind =>
          referenceText p text slots (inner.takeWhile (· != '}')) ++
            expand p text slots n behind
      | _ =>
        let name := rest.takeWhile isReferenceChar
        if name.isEmpty then '$' :: expand p text slots n rest
        else referenceText p text slots name ++
          expand p text slots n (rest.dropWhile isReferenceChar)

/-- The text from `i` on with the given matches replaced. -/
def replaceFrom (p : Matcher) (text : Array Char) (replacement : List Char) (i : Nat) :
    List (Slots × Nat × Nat) → List Char
  | [] => slice text i text.size
  | (slots, a, b) :: rest =>
    slice text i a ++ expand p text slots replacement.length replacement ++
      replaceFrom p text replacement b rest

/-- The text with every match replaced. -/
def Matcher.replaceAll (p : Matcher) (text replacement : String) : String :=
  let chars := text.toList.toArray
  String.ofList (replaceFrom p chars replacement.toList 0 (p.allMatches chars))

end HostScript.Pattern
