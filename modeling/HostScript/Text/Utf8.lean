/-! # Reading UTF-8

Bytes are read as characters from the left. Bytes that are no character are
replaced: the longest start of a character that the bytes hold, or else one
byte, becomes one replacement character. -/

namespace HostScript.Text

/-- Shown in place of bytes that are no character. -/
def replacementChar : Char := Char.ofNat 0xFFFD

/-- The byte continues a character. -/
def isContinuation (b : UInt8) : Bool := 0x80 ≤ b && b ≤ 0xBF

/-- How the first byte of a character of several bytes goes on: the number of further bytes,
the range of the second byte, and the bits of the first byte that count. -/
def leadByte? (b : UInt8) : Option (Nat × (UInt8 × UInt8) × Nat) :=
  if 0xC2 ≤ b && b ≤ 0xDF then some (1, (0x80, 0xBF), b.toNat - 0xC0)
  else if b = 0xE0 then some (2, (0xA0, 0xBF), 0)
  else if b = 0xED then some (2, (0x80, 0x9F), 0xD)
  else if 0xE1 ≤ b && b ≤ 0xEF then some (2, (0x80, 0xBF), b.toNat - 0xE0)
  else if b = 0xF0 then some (3, (0x90, 0xBF), 0)
  else if b = 0xF4 then some (3, (0x80, 0x8F), 4)
  else if 0xF1 ≤ b && b ≤ 0xF3 then some (3, (0x80, 0xBF), b.toNat - 0xF0)
  else none

/-- Read up to `n` continuation bytes; the value so far grows by six bits with each. The
result is empty when the bytes end too early. -/
def readTail : (n : Nat) → (value : Nat) → List UInt8 → Option Nat × List UInt8
  | 0, value, bs => (some value, bs)
  | _ + 1, _, [] => (none, [])
  | n + 1, value, b :: bs =>
    if isContinuation b then readTail n (value * 64 + (b.toNat - 0x80)) bs else (none, b :: bs)

/-- The first character, or the replacement of what is none, and the bytes that follow;
`b` is the first byte. -/
def readChar (b : UInt8) (bs : List UInt8) : Char × List UInt8 :=
  if b < 0x80 then (Char.ofNat b.toNat, bs)
  else match leadByte? b, bs with
    | some (n, (low, high), value), c :: rest =>
      if low ≤ c && c ≤ high then
        let (result, rest) := readTail (n - 1) (value * 64 + (c.toNat - 0x80)) rest
        (match result with
          | some code => Char.ofNat code
          | none => replacementChar, rest)
      else (replacementChar, bs)
    | _, _ => (replacementChar, bs)

/-- The characters of bytes, at most `fuel` of them. -/
def charsWithin : (fuel : Nat) → List UInt8 → List Char
  | 0, _ => []
  | _ + 1, [] => []
  | fuel + 1, b :: bs =>
    let (c, rest) := readChar b bs
    c :: charsWithin fuel rest

/-- The text of bytes, with replacements for what is no character. Each character takes a
byte, so there are no more characters than bytes. -/
def ofBytesReplacing (bytes : ByteArray) : String :=
  let bs := bytes.data.toList
  String.ofList (charsWithin bs.length bs)

end HostScript.Text
