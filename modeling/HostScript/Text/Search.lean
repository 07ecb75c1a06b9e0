/-! # Searching and splitting texts

Occurrences of one text in another, found from the left and without overlap,
and the pieces between them. A text always has at least one piece
(`splitFrom_ne_nil`). -/

namespace HostScript.Text

/-- The text `needle` occurs in the text. -/
def occursIn (needle : List Char) : List Char → Bool
  | [] => needle.isEmpty
  | c :: rest => needle.isPrefixOf (c :: rest) || occursIn needle rest

/-- The pieces of a text between the occurrences of a separator that is not empty; `piece`
is the start of the current piece, last character first. -/
def splitFrom (sep : List Char) (hsep : sep ≠ []) (piece cs : List Char) : List (List Char) :=
  match cs with
  | [] => [piece.reverse]
  | c :: rest =>
    if sep.isPrefixOf (c :: rest) then
      piece.reverse :: splitFrom sep hsep [] ((c :: rest).drop sep.length)
    else splitFrom sep hsep (c :: piece) rest
termination_by cs.length
decreasing_by
  · have := List.length_pos_iff.2 hsep
    simp only [List.length_drop, List.length_cons]
    omega
  · simp

/-- The pieces of a text between the occurrences of a separator; an empty separator gives
the characters. -/
def splitOn (sep cs : List Char) : List (List Char) :=
  if h : sep = [] then cs.map fun c => [c] else splitFrom sep h [] cs

/-- The texts joined by a separator. -/
def joinWith (sep : List Char) : List (List Char) → List Char
  | [] => []
  | [p] => p
  | p :: q :: rest => p ++ sep ++ joinWith sep (q :: rest)

theorem splitFrom_ne_nil (sep : List Char) (hsep : sep ≠ []) (piece cs : List Char) :
    splitFrom sep hsep piece cs ≠ [] := by
  fun_induction splitFrom sep hsep piece cs with
  | case1 => simp
  | case2 => simp
  | case3 _ _ _ _ ih => exact ih

theorem joinWith_cons {sep p : List Char} {ps : List (List Char)} (h : ps ≠ []) :
    joinWith sep (p :: ps) = p ++ sep ++ joinWith sep ps := by
  cases ps with
  | nil => exact absurd rfl h
  | cons q rest => rfl

/-- A line without its line end; a carriage return before the line feed belongs to the
line end. -/
def dropLineEnd (line : List Char) : List Char :=
  if line.getLast? = some '\r' then line.dropLast else line

/-- The lines of a text without their line ends. What follows the last line feed is a line
only if it is not empty. -/
def lines (cs : List Char) : List (List Char) :=
  let pieces := splitOn ['\n'] cs
  pieces.dropLast.map dropLineEnd ++ pieces.getLast?.toList.filter (· ≠ [])

end HostScript.Text
