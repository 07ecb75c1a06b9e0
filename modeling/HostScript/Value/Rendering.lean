import HostScript.Document.Basic
import HostScript.Number.Reading
import HostScript.Text.Alphabetic
import HostScript.Text.Quoted
import HostScript.Value.Basic

/-! # Values as numbers, texts and documents

A collection is written as the document that unfolds it. A collection inside
itself is replaced by a placeholder, and so is one that lies too deep, so every
value has a finite document. -/

namespace HostScript

/-- Written in place of a collection that contains itself. -/
def circularText : String := "[Circular]"

/-- Written in place of a collection that lies too deep. -/
def tooDeepText : String := "[...]"

/-- The number of collections that nest in a rendering. -/
def maxRenderDepth : Nat := 128

namespace Heap

/-- The document of a value inside the collections `path`, with `room` levels left. -/
def documentWithin (h : Heap) : (room : Nat) → (path : List Address) → Value → Document
  | _, _, .undefined => .null
  | _, _, .null => .null
  | _, _, .bool b => .bool b
  | _, _, .number x => .number x
  | _, _, .text s => .text s
  | 0, path, .array a =>
    .text (if path.contains a then circularText else tooDeepText)
  | 0, path, .object a =>
    .text (if path.contains a then circularText else tooDeepText)
  | room + 1, path, .array a =>
    if path.contains a then .text circularText
    else .list ((h.items a).toList.map fun v => h.documentWithin room (a :: path) v)
  | room + 1, path, .object a =>
    if path.contains a then .text circularText
    else .record ((h.fields a).toList.map fun e =>
      (e.1, h.documentWithin room (a :: path) e.2))

/-- Writing a value inside the collections `path`, with `room` levels left, looks into an object. -/
def looksIntoWithin (h : Heap) (object : Address) :
    (room : Nat) → (path : List Address) → Value → Bool
  | 0, _, _ => false
  | room + 1, path, .array a =>
    !path.contains a && (h.items a).toList.any fun v => h.looksIntoWithin object room (a :: path) v
  | room + 1, path, .object a =>
    !path.contains a && (a == object ||
      (h.fields a).toList.any fun e => h.looksIntoWithin object room (a :: path) e.2)
  | _ + 1, _, _ => false

/-- Writing a value looks into an object. -/
def looksInto (h : Heap) (object : Address) (v : Value) : Bool :=
  h.looksIntoWithin object maxRenderDepth [] v

/-- The document of a value. -/
def document (h : Heap) (v : Value) : Document :=
  h.documentWithin maxRenderDepth [] v

/-- The text of the document of a value. -/
def documentText (h : Heap) (v : Value) : String :=
  (h.document v).toText

/-- The text of a value when it is printed or joined to a text. -/
def display (h : Heap) : Value → String
  | .undefined => "undefined"
  | .null => "null"
  | .bool true => "true"
  | .bool false => "false"
  | .number x => Number.display x
  | .text s => s
  | .array a => h.documentText (.array a)
  | .object a => h.documentText (.object a)

/-- The text of a value for inspection. -/
def inspect (h : Heap) : Value → String
  | .undefined => "Undefined"
  | .null => "Null"
  | .bool true => "Bool(true)"
  | .bool false => "Bool(false)"
  | .number x => "Number(" ++ Number.text .exact x ++ ")"
  | .text s => "Str(" ++ Text.quoted s ++ ")"
  | .array a => "Array(" ++ h.documentText (.array a) ++ ")"
  | .object a => "Object(" ++ h.documentText (.object a) ++ ")"

/-- The elements that a loop over a value visits: the items of an array, the keys of an
object, the characters of a text. -/
def elements? (h : Heap) : Value → Option (Array Value)
  | .array a => some (h.items a)
  | .object a => some ((h.fields a).map fun e => .text e.1)
  | .text s => some (s.toList.map fun c => Value.text (String.singleton c)).toArray
  | _ => none

mutual

/-- Put a document on the heap as a value. -/
def ofDocument (h : Heap) : Document → Value × Heap
  | .null => (.null, h)
  | .bool b => (.bool b, h)
  | .number x => (.number x, h)
  | .text s => (.text s, h)
  | .list items =>
    let (values, h) := h.ofDocuments items
    h.newArray values.toArray
  | .record entries =>
    let (fields, h) := h.ofEntries entries
    h.newObject fields

/-- Put documents on the heap one after the other. -/
def ofDocuments (h : Heap) : List Document → List Value × Heap
  | [] => ([], h)
  | d :: rest =>
    let (v, h) := h.ofDocument d
    let (vs, h) := h.ofDocuments rest
    (v :: vs, h)

/-- Put the entries of a record on the heap one after the other. -/
def ofEntries (h : Heap) : List (String × Document) → List (String × Value) × Heap
  | [] => ([], h)
  | (k, d) :: rest =>
    let (v, h) := h.ofDocument d
    let (vs, h) := h.ofEntries rest
    ((k, v) :: vs, h)

end

end Heap

/-- The number that a value stands for; a text is read without the blanks at its ends, and
what is no number counts as zero. -/
def Value.toNumber : Value → Float
  | .number x => x
  | .bool true => 1.0
  | .bool false => 0.0
  | .text s => (Number.ofText? (Text.trimBlanks s.toList)).getD 0.0
  | _ => 0.0

end HostScript
