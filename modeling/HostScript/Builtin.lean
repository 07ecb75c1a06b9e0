import HostScript.Document.Reading
import HostScript.Pattern.Replacement
import HostScript.Text.Search
import HostScript.Value.Operators

/-! # Functions of the language

The functions that every script can call. A function gets the values of its
arguments and looks at the heap, and decides on an effect or on the text of an
error. Only the effect changes the heap, so a function that fails leaves it as
it was. -/

namespace HostScript

/-- The functions that every script can call. -/
inductive Builtin where
  | len | str | num | int | floor | ceil | round
  | magnitude | least | greatest | upper | lower | trim | split
  | join | contains | replace | matchesPattern | push | pop | keys
  | values | range | typeName | json | parseJson | now
  deriving DecidableEq, Repr

namespace Builtin

/-- The name under which a script calls a function. -/
def name : Builtin → String
  | .len => "len"
  | .str => "str"
  | .num => "num"
  | .int => "int"
  | .floor => "floor"
  | .ceil => "ceil"
  | .round => "round"
  | .magnitude => "abs"
  | .least => "min"
  | .greatest => "max"
  | .upper => "upper"
  | .lower => "lower"
  | .trim => "trim"
  | .split => "split"
  | .join => "join"
  | .contains => "contains"
  | .replace => "replace"
  | .matchesPattern => "matches"
  | .push => "push"
  | .pop => "pop"
  | .keys => "keys"
  | .values => "values"
  | .range => "range"
  | .typeName => "type"
  | .json => "json"
  | .parseJson => "parse_json"
  | .now => "now"

/-- Every function. -/
def all : List Builtin :=
  [.len, .str, .num, .int, .floor, .ceil, .round, .magnitude, .least, .greatest, .upper,
   .lower, .trim, .split, .join, .contains, .replace, .matchesPattern, .push, .pop,
   .keys, .values, .range, .typeName, .json, .parseJson, .now]

/-- The function with the given name. -/
def ofName? (s : String) : Option Builtin :=
  all.find? fun b => b.name == s

/-- Every name is found again. -/
@[simp] theorem ofName?_name (b : Builtin) : ofName? b.name = some b := by
  cases b <;> decide

/-- The argument at a position; `undefined` when it is missing. -/
def argument (args : List Value) (i : Nat) : Value :=
  args.getD i .undefined

/-- The error for a missing argument. -/
def missing (b : Builtin) (i : Nat) : String :=
  s!"{b.name}: argument {i} missing"

/-- The text of an argument that has to be there. -/
def textArgument (b : Builtin) (h : Heap) (args : List Value) (i : Nat) : Except String String :=
  match args[i]? with
  | some v => .ok (h.display v)
  | none => .error (b.missing i)

/-- The number of an argument that has to be there. -/
def numberArgument (b : Builtin) (args : List Value) (i : Nat) : Except String Float :=
  match args[i]? with
  | some v => .ok v.toNumber
  | none => .error (b.missing i)

/-- The address of the array that has to be the first argument. -/
def arrayArgument (b : Builtin) (args : List Value) : Except String Address :=
  match argument args 0 with
  | .array a => .ok a
  | _ => .error s!"{b.name}: expected an array"

/-- The address of the object that has to be the first argument. -/
def objectArgument (b : Builtin) (args : List Value) : Except String Address :=
  match argument args 0 with
  | .object a => .ok a
  | _ => .error s!"{b.name}: expected an object"

/-- The matcher of a pattern argument that has to be there. -/
def patternArgument (b : Builtin) (h : Heap) (args : List Value) (i : Nat) :
    Except String Pattern.Matcher := do
  let pattern ← b.textArgument h args i
  match Pattern.compile pattern with
  | .ok p => return p
  | .error report => .error s!"{b.name}: invalid pattern: {report}"

/-- The number of elements that a range may have. -/
def maxRange : Nat := 1000000

/-- The numbers from `x` on in steps, up to but without `stop`; nothing if there are more
than `room`. -/
def rangeFrom (stop step : Float) : (room : Nat) → Float → Array Value → Option (Array Value)
  | room, x, done =>
    if (step > 0.0 && x < stop) || (step < 0.0 && x > stop) then
      match room with
      | 0 => none
      | room + 1 => rangeFrom stop step room (x + step) (done.push (.number x))
    else some done

/-- The bounds and the step of a range. -/
def rangeBounds (b : Builtin) (args : List Value) : Except String (Float × Float × Float) :=
  match args with
  | [] => .error (b.missing 0)
  | [stop] => .ok (0.0, stop.toNumber, 1.0)
  | [start, stop] => .ok (start.toNumber, stop.toNumber, 1.0)
  | start :: stop :: step :: _ => .ok (start.toNumber, stop.toNumber, step.toNumber)

/-- The items of a range. -/
def rangeItems (b : Builtin) (args : List Value) : Except String (Array Value) := do
  let (start, stop, step) ← b.rangeBounds args
  if step == 0.0 || step.isNaN then .error s!"{b.name}: step must be non-zero"
  else match rangeFrom stop step maxRange start #[] with
    | some items => return items
    | none => .error s!"{b.name}: more than {maxRange} elements"

/-- The numbers that `min` and `max` compare: the items of an only array, or the
arguments. -/
def comparedNumbers (h : Heap) (args : List Value) : List Float :=
  match args with
  | [.array a] => (h.items a).toList.map Value.toNumber
  | _ => args.map Value.toNumber

/-- Combine numbers from the left; `undefined` when there are none. -/
def combine (f : Float → Float → Float) : List Float → Value
  | [] => .undefined
  | x :: rest => .number (rest.foldl f x)

/-- The number of characters, items or fields. -/
def size (h : Heap) : Value → Nat
  | .text s => s.length
  | .array a => (h.items a).size
  | .object a => (h.fields a).size
  | _ => 0

/-- The pieces of a text as values. -/
def pieces (s sep : String) : Array Value :=
  ((Text.splitOn sep.toList s.toList).map fun p => Value.text (String.ofList p)).toArray

/-- The texts of the items joined by a separator. -/
def joined (h : Heap) (items : Array Value) (sep : String) : String :=
  String.ofList (Text.joinWith sep.toList (items.toList.map fun v => (h.display v).toList))

/-- The needle occurs in a text, among the items of an array, or among the keys of an
object. -/
def occurs (h : Heap) (needle : Value) : Value → Bool
  | .text s => Text.occursIn (h.display needle).toList s.toList
  | .array a => (h.items a).any (·.strictEq needle)
  | .object a => ((h.fields a).get? (h.display needle)).isSome
  | _ => false

/-- What a call does to the heap. -/
inductive Effect where
  /-- Nothing; the value is returned. -/
  | value (v : Value)
  /-- Return a new array. -/
  | newArray (items : Array Value)
  /-- Return the value of a document. -/
  | newDocument (d : Document)
  /-- Add items at the end of an array and return its size. -/
  | append (a : Address) (items : List Value)
  /-- Remove the last item of an array and return it. -/
  | removeLast (a : Address)

/-- Carry out an effect. -/
def Effect.run (h : Heap) : Effect → Value × Heap
  | .value v => (v, h)
  | .newArray items => h.newArray items
  | .newDocument d => h.ofDocument d
  | .append a items =>
    let size := (h.items a).size + items.length
    (.number (Number.ofNat size), h.modifyItems a (· ++ items.toArray))
  | .removeLast a =>
    let last := (h.items a).back?.getD .undefined
    (last, h.modifyItems a (·.pop))

/-- The effect of a call at the wall-clock time `wallClock` in milliseconds. -/
def effect (b : Builtin) (wallClock : Nat) (args : List Value) (h : Heap) :
    Except String Effect :=
  let first := argument args 0
  let number (f : Float → Float) : Except String Effect := do
    return .value (.number (f (← b.numberArgument args 0)))
  let text (f : String → String) : Except String Effect := do
    return .value (.text (f (← b.textArgument h args 0)))
  match b with
  | .str => .ok (.value (.text (h.display first)))
  | .num => .ok (.value (.number first.toNumber))
  | .int => .ok (.value (.number (Number.trunc first.toNumber)))
  | .typeName => .ok (.value (.text first.typeName))
  | .json => .ok (.value (.text (h.documentText first)))
  | .parseJson => do
    let source ← b.textArgument h args 0
    match Document.read source with
    | .ok d => return .newDocument d
    | .error e => .error s!"{b.name}: {e.message}"
  | .floor => number Number.floor
  | .ceil => number Number.ceil
  | .round => number Number.round
  | .magnitude => number Number.magnitude
  | .least => .ok (.value (combine Number.least (comparedNumbers h args)))
  | .greatest => .ok (.value (combine Number.greatest (comparedNumbers h args)))
  | .range => do return .newArray (← b.rangeItems args)
  | .now => .ok (.value (.number (Number.ofNat wallClock)))
  | .len => .ok (.value (.number (Number.ofNat (size h first))))
  | .upper => text Text.toUpper
  | .lower => text Text.toLower
  | .trim => text Text.trim
  | .split => do
    let s ← b.textArgument h args 0
    let sep := (args[1]?.map h.display).getD ""
    return .newArray (pieces s sep)
  | .join => do
    let a ← b.arrayArgument args
    let sep := (args[1]?.map h.display).getD ","
    return .value (.text (joined h (h.items a) sep))
  | .contains => .ok (.value (.bool (occurs h (argument args 1) first)))
  | .replace => do
    let s ← b.textArgument h args 0
    let p ← b.patternArgument h args 1
    let replacement := (args[2]?.map h.display).getD ""
    return .value (.text (p.replaceAll s replacement))
  | .matchesPattern => do
    let s ← b.textArgument h args 0
    let p ← b.patternArgument h args 1
    return .value (.bool (p.matches s))
  | .push => do return .append (← b.arrayArgument args) (args.drop 1)
  | .pop => do return .removeLast (← b.arrayArgument args)
  | .keys => do
    let a ← b.objectArgument args
    return .newArray ((h.fields a).map fun e => .text e.1)
  | .values => do
    let a ← b.objectArgument args
    return .newArray ((h.fields a).map fun e => e.2)

/-- Call a function: its value or error, and the heap after it. -/
def call (b : Builtin) (wallClock : Nat) (args : List Value) (h : Heap) :
    Except String Value × Heap :=
  match b.effect wallClock args h with
  | .ok e =>
    let (v, h) := e.run h
    (.ok v, h)
  | .error m => (.error m, h)

end Builtin

end HostScript
