import HostScript.Number.Layout

/-! # Documents

A document is a tree of constants, lists and records in a compact text format.
This module holds the tree and the text it is written as. -/

namespace HostScript

/-- A document. -/
inductive Document where
  | null
  | bool (b : Bool)
  | number (x : Float)
  | text (s : String)
  | list (items : List Document)
  | record (entries : List (String × Document))

namespace Document

/-- The two hexadecimal digits of a number below 256. -/
def hexPair (n : Nat) : List Char :=
  [Nat.digitChar (n / 16 % 16), Nat.digitChar (n % 16)]

/-- One character inside a text. -/
def writeChar (c : Char) : List Char :=
  if c == '"' then ['\\', '"']
  else if c == '\\' then ['\\', '\\']
  else if c == '\n' then ['\\', 'n']
  else if c == '\r' then ['\\', 'r']
  else if c == '\t' then ['\\', 't']
  else if c.toNat = 8 then ['\\', 'b']
  else if c.toNat = 12 then ['\\', 'f']
  else if c.toNat < 32 then ['\\', 'u', '0', '0'] ++ hexPair c.toNat
  else [c]

/-- A text between quotes. -/
def writeText (s : String) : List Char :=
  '"' :: s.toList.flatMap writeChar ++ ['"']

/-- Pieces with commas between them. -/
def commaSeparated : List (List Char) → List Char
  | [] => []
  | [p] => p
  | p :: q :: rest => p ++ ',' :: commaSeparated (q :: rest)

mutual

/-- The text of a document. -/
def write : Document → List Char
  | .null => "null".toList
  | .bool true => "true".toList
  | .bool false => "false".toList
  | .number x => (Number.documentText x).toList
  | .text s => writeText s
  | .list items => '[' :: commaSeparated (writeItems items) ++ [']']
  | .record entries => '{' :: commaSeparated (writeEntries entries) ++ ['}']

/-- The texts of the items of a list. -/
def writeItems : List Document → List (List Char)
  | [] => []
  | d :: rest => write d :: writeItems rest

/-- The texts of the entries of a record. -/
def writeEntries : List (String × Document) → List (List Char)
  | [] => []
  | (k, d) :: rest => (writeText k ++ ':' :: write d) :: writeEntries rest

end

/-- `write` as a string. -/
def toText (d : Document) : String := String.ofList d.write

end Document

end HostScript
