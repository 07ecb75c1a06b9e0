import HostScript.Text.Ranges

/-! # Tables whose rows carry names

A property of characters, or a value of such a property, is asked for by name.
A row of a catalogue holds all names of one thing, the short name first, and
its characters. The names stand in loose form: small letters without
separators.

## Implementation notes

A leading `is` of a name as it is written means nothing and is dropped, unless
only the letter `c` follows it: `isc` is the short name of a property. -/

namespace HostScript.Text

/-- The loose form of a written name: a leading `is`, spaces, low lines, hyphens and characters
beyond ASCII are dropped, and capitals become small letters. -/
def looseName (s : String) : String :=
  match s.toList with
  | a :: b :: rest =>
    if a.toLower = 'i' ∧ b.toLower = 's' then
      let name := loose rest
      if name = ['c'] then "isc" else String.ofList name
    else String.ofList (loose (a :: b :: rest))
  | cs => String.ofList (loose cs)
where
  /-- The characters of a name that count. -/
  loose (cs : List Char) : List Char :=
    (cs.filter fun c => c.toNat < 128 && c != ' ' && c != '_' && c != '-').map Char.toLower

/-- The names of a row. -/
def namesOf (names : String) : List String := names.splitOn " "

/-- The first row of a table that has the given name. -/
def findNamed {α : Type} (table : List (String × α)) (name : String) : Option α :=
  (table.find? fun row => (namesOf row.1).contains name).map Prod.snd

/-- Rows of names and characters. -/
abbrev Catalogue := List (String × String)

namespace Catalogue

/-- The characters of the row with the given name, as they stand in the table. -/
def named? (table : Catalogue) (name : String) : Option String :=
  findNamed table name

/-- The characters of the row with the given name. -/
def ranges? (table : Catalogue) (name : String) : Option Ranges :=
  (table.named? name).map .ofText

/-- The short name of the row with the given name. -/
def shortName? (table : Catalogue) (name : String) : Option String :=
  (table.find? fun row => (namesOf row.1).contains name).bind fun row => (namesOf row.1).head?

/-- The characters of all rows together. -/
def allRanges (table : Catalogue) : Ranges :=
  table.foldl (fun r row => r ++ .ofText row.2) #[]

end Catalogue

end HostScript.Text
