import HostScript.Fault
import HostScript.Value.Rendering

/-! # Operators and access

`+` joins when one side is a text and adds otherwise. Other arithmetic converts
both sides to numbers, and division or remainder by zero gives zero. Equality
converts nothing. Texts are ordered by code points, everything else as
numbers. -/

namespace HostScript.Heap

/-- How two values are ordered, if they are. -/
def order? (l r : Value) : Option Ordering :=
  match l, r with
  | .text a, .text b => some (if a < b then .lt else if a = b then .eq else .gt)
  | _, _ =>
    let x := l.toNumber
    let y := r.toNumber
    if x < y then some .lt else if x == y then some .eq else if y < x then some .gt else none

/-- Apply a binary operator. The two operators that may skip their right side have no value
here. -/
def binary (h : Heap) (op : BinaryOp) (l r : Value) : Except Fault Value :=
  let num (f : Float → Float → Float) : Except Fault Value :=
    .ok (.number (f l.toNumber r.toNumber))
  let test (p : Ordering → Bool) : Except Fault Value :=
    .ok (.bool ((order? l r).any p))
  match op with
  | .add =>
    match l, r with
    | .text a, _ => .ok (.text (a ++ h.display r))
    | _, .text b => .ok (.text (h.display l ++ b))
    | _, _ => num (· + ·)
  | .sub => num (· - ·)
  | .mul => num (· * ·)
  | .div => num fun a b => if b == 0.0 then 0.0 else a / b
  | .rem => num fun a b => if b == 0.0 then 0.0 else Number.remainder a b
  | .eq => .ok (.bool (l.strictEq r))
  | .ne => .ok (.bool (!(l.strictEq r)))
  | .lt => test (· == .lt)
  | .le => test (· != .gt)
  | .gt => test (· == .gt)
  | .ge => test (· != .lt)
  | .both => .error (.runtime s!"operator '{op.text}' must be evaluated lazily")
  | .either => .error (.runtime s!"operator '{op.text}' must be evaluated lazily")

/-- The value of a unary operator. -/
def unary (op : UnaryOp) (v : Value) : Value :=
  match op with
  | .neg => .number (-v.toNumber)
  | .not => .bool (!v.isTruthy)

/-- The member `key` of a value. `undefined` and `null` have no members; other scalars have
none but the length of a text. -/
def member (h : Heap) (base : Value) (key : String) : Except Fault Value :=
  match base with
  | .undefined => .error (.runtime s!"cannot read property '{key}' of {base.typeName}")
  | .null => .error (.runtime s!"cannot read property '{key}' of {base.typeName}")
  | .object a => .ok (((h.fields a).get? key).getD .undefined)
  | .array a =>
    .ok (if key = "length" then .number (Number.ofNat (h.items a).size) else .undefined)
  | .text s => .ok (if key = "length" then .number (Number.ofNat s.length) else .undefined)
  | _ => .ok .undefined

/-- The position that an index value denotes: a whole number that is not negative. -/
def position? (index : Value) : Option Nat :=
  match Number.whole? index.toNumber with
  | some (.ofNat n) => some n
  | _ => none

/-- The element of a value at an index; `undefined` when there is none. -/
def index (h : Heap) (base index : Value) : Value :=
  match base with
  | .array a => ((position? index).bind fun i => (h.items a)[i]?).getD .undefined
  | .text s =>
    match (position? index).bind fun i => s.toList[i]? with
    | some c => .text (String.singleton c)
    | none => .undefined
  | .object a => ((h.fields a).get? (h.display index)).getD .undefined
  | _ => .undefined

/-- A place on the heap that an assignment can write to. -/
inductive Slot where
  | field (a : Address) (key : String)
  | item (a : Address) (i : Nat)
  deriving DecidableEq, Repr

/-- The place of the member `key` of a value. -/
def memberSlot (base : Value) (key : String) : Except Fault Slot :=
  match base with
  | .object a => .ok (.field a key)
  | other => .error (.runtime s!"cannot set property '{key}' on {other.typeName}")

/-- The place of the element of a value at an index. An array has the places of its items
and the one behind the last item. -/
def indexSlot (h : Heap) (base index : Value) : Except Fault Slot :=
  match base with
  | .array a =>
    let size := (h.items a).size
    match (position? index).filter (· ≤ size) with
    | some i => .ok (.item a i)
    | none =>
      .error (.runtime s!"array index {h.display index} out of range (length {size})")
  | .object a => .ok (.field a (h.display index))
  | other => .error (.runtime s!"cannot index into {other.typeName}")

/-- Write an array at a position: an item is replaced, and the position behind the last
item adds one. -/
def putItem (items : Array Value) (i : Nat) (v : Value) : Array Value :=
  if i = items.size then items.push v else items.setIfInBounds i v

/-- Write a value to a place. -/
def write (h : Heap) (slot : Slot) (v : Value) : Heap :=
  match slot with
  | .field a key => h.modifyFields a (·.insert key v)
  | .item a i => h.modifyItems a (putItem · i v)

end HostScript.Heap
