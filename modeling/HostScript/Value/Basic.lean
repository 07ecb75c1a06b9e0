import HostScript.Source.Tree

/-! # Values and the heap

Scalars are values in their own right; arrays and objects live on a heap, and a
value refers to them by address. Two values with the same address are the same
collection, so a change made through one is seen through the other.

An object is a list of fields in the order in which their keys were first
written. -/

namespace HostScript

/-- The place of a collection on the heap. -/
abbrev Address := Nat

/-- A value of the language. -/
inductive Value where
  | undefined
  | null
  | bool (b : Bool)
  | number (x : Float)
  | text (s : String)
  | array (a : Address)
  | object (a : Address)
  deriving DecidableEq, Inhabited

/-- The value of a constant. -/
def Literal.toValue : Literal → Value
  | .undefined => .undefined
  | .null => .null
  | .bool b => .bool b
  | .number x => .number x
  | .text s => .text s

/-- The fields of an object, in the order in which their keys were first written. -/
abbrev Fields := Array (String × Value)

namespace Fields

/-- The value of the field `key`. -/
def get? (f : Fields) (key : String) : Option Value :=
  (f.find? fun e => e.1 == key).map Prod.snd

/-- Write a field: an existing key keeps its position, a new one comes last. -/
def insert (f : Fields) (key : String) (v : Value) : Fields :=
  match f.findIdx? fun e => e.1 == key with
  | some i => f.setIfInBounds i (key, v)
  | none => f.push (key, v)

/-- Write fields one after the other. -/
def insertAll (f : Fields) (es : List (String × Value)) : Fields :=
  es.foldl (fun f e => f.insert e.1 e.2) f

/-- The keys in their order. -/
def keys (f : Fields) : List String := f.toList.map Prod.fst

end Fields

/-- A collection. -/
inductive Collection where
  | array (items : Array Value)
  | object (fields : Fields)
  deriving Inhabited

/-- The collections that exist, by address. -/
structure Heap where
  cells : Array Collection := #[]

namespace Heap

/-- Put a new collection on the heap. -/
def add (h : Heap) (c : Collection) : Address × Heap :=
  (h.cells.size, ⟨h.cells.push c⟩)

/-- A new array. -/
def newArray (h : Heap) (items : Array Value) : Value × Heap :=
  let (a, h) := h.add (.array items)
  (.array a, h)

/-- A new object with the given fields, written one after the other. -/
def newObject (h : Heap) (entries : List (String × Value)) : Value × Heap :=
  let (a, h) := h.add (.object (Fields.insertAll #[] entries))
  (.object a, h)

/-- The items of the array at an address; none if there is no array. -/
def items (h : Heap) (a : Address) : Array Value :=
  match h.cells[a]? with
  | some (.array items) => items
  | _ => #[]

/-- The fields of the object at an address; none if there is no object. -/
def fields (h : Heap) (a : Address) : Fields :=
  match h.cells[a]? with
  | some (.object fields) => fields
  | _ => #[]

/-- Replace the collection at an address. -/
def replace (h : Heap) (a : Address) (c : Collection) : Heap :=
  ⟨h.cells.setIfInBounds a c⟩

/-- Change the items of the array at an address. The cell is emptied while its items
change, so that they change in place. -/
def modifyItems (h : Heap) (a : Address) (f : Array Value → Array Value) : Heap :=
  match h with
  | ⟨cells⟩ => ⟨cells.modify a fun
    | .array items => .array (f items)
    | c => c⟩

/-- Change the fields of the object at an address. -/
def modifyFields (h : Heap) (a : Address) (f : Fields → Fields) : Heap :=
  match h with
  | ⟨cells⟩ => ⟨cells.modify a fun
    | .object fields => .object (f fields)
    | c => c⟩

end Heap

namespace Value

/-- The name of a value's type. -/
def typeName : Value → String
  | .undefined => "undefined"
  | .null => "null"
  | .bool _ => "boolean"
  | .number _ => "number"
  | .text _ => "string"
  | .array _ => "array"
  | .object _ => "object"

/-- Whether a condition with this value holds: not for `undefined`, `null`, `false`, zero,
not-a-number and the empty text. -/
def isTruthy : Value → Bool
  | .undefined => false
  | .null => false
  | .bool b => b
  | .number x => x != 0.0 && !x.isNaN
  | .text s => s != ""
  | .array _ => true
  | .object _ => true

/-- The value is an object. -/
def isObject : Value → Bool
  | .object _ => true
  | _ => false

/-- Equality without conversion; collections are equal when they are the same one. -/
def strictEq : Value → Value → Bool
  | .undefined, .undefined => true
  | .null, .null => true
  | .bool a, .bool b => a == b
  | .number x, .number y => x == y
  | .text s, .text t => s == t
  | .array a, .array b => a == b
  | .object a, .object b => a == b
  | _, _ => false

end Value

end HostScript
