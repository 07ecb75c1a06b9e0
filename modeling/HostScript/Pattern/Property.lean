import HostScript.Pattern.Tree
import HostScript.Text.Ages
import HostScript.Text.Breaks
import HostScript.Text.Categories
import HostScript.Text.PropertyNames
import HostScript.Text.ScriptExtensions

/-! # Character properties in patterns

A query is a name, or the name of a property with a value. A name alone is that
of a property, of a general category or of a script, and is sought in this
order. A value is sought in the tables of its property.

## Implementation notes

Three short names of properties are also those of general categories, and
standing alone they mean the category. A known name with no characters is
refused like an unknown value. -/

namespace HostScript.Pattern

open HostScript.Text

/-- The characters of a value that was found; there must be some. -/
def valueMembers (found : Option Ranges) : Except Problem CharSet :=
  match found with
  | some r => if r.isEmpty then .error .propertyValueUnknown else .ok (.ranges r)
  | none => .error .propertyValueUnknown

/-- The characters that serve a script: those that are listed with it, and its own characters
that are not listed. -/
def scriptExtensionSet (name : String) : Except Problem CharSet :=
  match scriptTable.shortName? name with
  | none => .error .propertyValueUnknown
  | some short => do
    let own ← valueMembers (script? short)
    return .union (.ranges (sharedBy short)) (own.difference (.ranges sharedTable.allRanges))

/-- Names that stand for a general category when they stand alone. -/
def isCategoryFirst (name : String) : Bool := name == "cf" || name == "sc" || name == "lc"

/-- The characters that a name alone asks for. -/
def nameSet (name : String) : Except Problem CharSet :=
  match if isCategoryFirst name then none else property? name with
  | some r => .ok (.ranges r)
  | none =>
    if isOtherProperty name && !(isCategoryFirst name) then .error .propertyUnknown
    else match category? name with
      | some r => valueMembers (some r)
      | none => match script? name with
        | some r => valueMembers (some r)
        | none => .error .propertyUnknown

/-- The characters for which a property has a value. -/
def valueSet (name value : String) : Except Problem CharSet :=
  match name with
  | "gc" | "generalcategory" => valueMembers (category? value)
  | "sc" | "script" => valueMembers (script? value)
  | "scx" | "scriptextensions" => scriptExtensionSet value
  | "age" => valueMembers (age? value)
  | "gcb" | "graphemeclusterbreak" => valueMembers (clusterBreakTable.ranges? value)
  | "wb" | "wordbreak" => valueMembers (wordBreakTable.ranges? value)
  | "sb" | "sentencebreak" => valueMembers (sentenceBreakTable.ranges? value)
  | _ =>
    if (propertyTable.named? name).isSome || isOtherProperty name then
      .error .propertyValueUnknown
    else .error .propertyUnknown

/-- The characters that a property query asks for, negation aside. -/
def PropertyQuery.set (q : PropertyQuery) : Except Problem CharSet :=
  match q.value with
  | none => nameSet (looseName q.name)
  | some value => valueSet (looseName q.name) (looseName value)

end HostScript.Pattern
