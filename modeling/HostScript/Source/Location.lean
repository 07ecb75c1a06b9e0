/-! # Positions in a source text

A position counts lines and columns from one and bytes from zero. Line zero
stands for "not known". Positions move forward one character at a time, so the
position of any point is determined by the text before it.

Main statement: `Location.afterAll_append`, moving over two texts in turn is
moving over their concatenation. -/

namespace HostScript

/-- A position in a source text; `line = 0` means that the position is not known. -/
structure Location where
  line : Nat := 0
  column : Nat := 0
  offset : Nat := 0
  deriving DecidableEq, Repr, Inhabited

namespace Location

/-- The position that stands for "not known". -/
def unknown : Location := {}

/-- The position of the first character of a text. -/
def start : Location := ⟨1, 1, 0⟩

/-- The position refers to a place in a text. -/
def isKnown (l : Location) : Bool := 0 < l.line

/-- The position after the character `c`, when `c` stands at `l`. -/
def after (l : Location) (c : Char) : Location :=
  if c = '\n' then ⟨l.line + 1, 1, l.offset + c.utf8Size⟩
  else ⟨l.line, l.column + 1, l.offset + c.utf8Size⟩

/-- The position after the text `cs`, when `cs` starts at `l`. -/
def afterAll (l : Location) (cs : List Char) : Location :=
  cs.foldl after l

@[simp] theorem afterAll_nil (l : Location) : l.afterAll [] = l := rfl

@[simp] theorem afterAll_cons (l : Location) (c : Char) (cs : List Char) :
    l.afterAll (c :: cs) = (l.after c).afterAll cs := rfl

theorem afterAll_append (l : Location) (as bs : List Char) :
    l.afterAll (as ++ bs) = (l.afterAll as).afterAll bs :=
  List.foldl_append

/-- The words that point to the position, appended to a message; nothing when it is
not known. -/
def describe (l : Location) : String :=
  if l.isKnown then s!" at line {l.line}, column {l.column}" else ""

end Location

end HostScript
