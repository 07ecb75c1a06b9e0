/-! # Sets of characters as ranges of code points

A character property of a text standard is a list of closed intervals of code
points. The tables of this folder are written in hexadecimal, one interval
after another, and are read once into `Ranges`.

## Implementation notes

Membership scans the intervals from the left. The tables list the intervals in
increasing order, so the characters that scripts use most are found first. -/

namespace HostScript.Text

/-- Closed intervals of code points, each written as its first and last member. -/
abbrev Ranges := Array (Nat × Nat)

namespace Ranges

/-- The code point `n` lies in one of the intervals. -/
def containsCode (r : Ranges) (n : Nat) : Bool :=
  r.any fun p => p.1 ≤ n && n ≤ p.2

/-- The character `c` lies in one of the intervals. -/
def contains (r : Ranges) (c : Char) : Bool :=
  r.containsCode c.toNat

/-- Membership is membership in some interval. -/
theorem containsCode_iff (r : Ranges) (n : Nat) :
    r.containsCode n = true ↔ ∃ p ∈ r, p.1 ≤ n ∧ n ≤ p.2 := by
  rw [containsCode, Array.any_eq_true']; simp

end Ranges

/-- The value of a hexadecimal digit. -/
def hexDigit? (c : Char) : Option Nat :=
  if '0' ≤ c ∧ c ≤ '9' then some (c.toNat - 48)
  else if 'a' ≤ c ∧ c ≤ 'f' then some (c.toNat - 87)
  else if 'A' ≤ c ∧ c ≤ 'F' then some (c.toNat - 55)
  else none

/-- The number written by a run of hexadecimal digits; other characters are passed over. -/
def hexNumber (cs : List Char) : Nat :=
  cs.foldl (fun n c => match hexDigit? c with | some d => 16 * n + d | none => n) 0

/-- The interval written `lo-hi`, or the single code point written `lo`. -/
def readRange (cs : List Char) : Nat × Nat :=
  let lo := hexNumber (cs.takeWhile (· != '-'))
  match cs.dropWhile (· != '-') with
  | [] => (lo, lo)
  | _ :: hi => (lo, hexNumber hi)

/-- Read a table of intervals separated by blanks and line breaks. -/
def Ranges.ofText (table : String) : Ranges :=
  ((table.toList.splitBy fun a b => (a == ' ' || a == '\n') == (b == ' ' || b == '\n')).filter
    fun word => word.any fun c => c != ' ' && c != '\n').map readRange |>.toArray

end HostScript.Text
