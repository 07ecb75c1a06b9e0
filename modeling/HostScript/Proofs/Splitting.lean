import HostScript.Builtin
import Mathlib.Data.List.Infix

/-!
# Splitting and joining

A separator cuts a text into pieces: it is looked for from the left, and the search goes on behind
what was found. Joining the pieces gives the text back, and the separator is in none of them, even
where its occurrences overlap. A separator of one character cuts a text in no other way.

## Implementation notes

The splitter carries the piece that it is in. What keeps the separator out of the pieces is that no
occurrence begins in that piece, neither inside it nor across its end (`NoneBefore`); inside alone
would not survive the next character.
-/

namespace HostScript

namespace Text

/-! ### Occurrences -/

section Occurrences

variable {sep front rest cs : List Char} {c : Char}

theorem occursIn_iff_infix {needle : List Char} : occursIn needle cs = true ↔ needle <:+: cs := by
  induction cs with
  | nil => simp [occursIn]
  | cons c rest ih =>
      rw [occursIn, Bool.or_eq_true, List.isPrefixOf_iff_prefix, ih, List.infix_cons_iff]

/-- The separator does not begin anywhere in front of `rest`. -/
def NoneBefore (sep front rest : List Char) : Prop :=
  ∀ i < front.length, ¬ sep <+: (front ++ rest).drop i

theorem noneBefore_nil (sep rest : List Char) : NoneBefore sep [] rest := by
  intro i inside
  cases inside

/-- A character at which the separator does not begin goes to the front. -/
theorem NoneBefore.snoc (none_ : NoneBefore sep front (c :: rest)) (here : ¬ sep <+: c :: rest) :
    NoneBefore sep (front ++ [c]) rest := by
  intro i inside
  have same : front ++ [c] ++ rest = front ++ c :: rest := by simp
  rw [same]
  obtain earlier | last : i < front.length ∨ i = front.length := by
    rw [List.length_append, List.length_singleton] at inside
    omega
  · exact none_ i earlier
  · rw [last, List.drop_left]
    exact here

theorem NoneBefore.not_infix (none_ : NoneBefore sep front rest) (some_ : sep ≠ []) :
    ¬ sep <:+: front := by
  rintro ⟨before, behind, rfl⟩
  have inside : before.length < (before ++ sep ++ behind).length := by
    have := List.length_pos_iff.mpr some_
    simp only [List.length_append]
    omega
  apply none_ before.length inside
  rw [List.append_assoc, List.append_assoc, List.drop_left]
  exact List.prefix_append _ _

end Occurrences

/-! ### The pieces of a text -/

section Pieces

variable {sep : List Char}

/-- The pieces joined are the text again, behind the piece that was begun. -/
theorem joinWith_splitFrom (hsep : sep ≠ []) (piece cs : List Char) :
    joinWith sep (splitFrom sep hsep piece cs) = piece.reverse ++ cs := by
  fun_induction splitFrom sep hsep piece cs with
  | case1 piece => rw [joinWith, List.append_nil]
  | case2 piece c rest found ih =>
      obtain ⟨behind, split⟩ := List.isPrefixOf_iff_prefix.mp found
      rw [joinWith_cons (splitFrom_ne_nil _ _ _ _), ih, ← split, List.drop_left]
      simp only [List.reverse_nil, List.nil_append, List.append_assoc]
  | case3 piece c rest other ih =>
      rw [ih, List.reverse_cons, List.append_assoc, List.singleton_append]

/-- No piece has the separator in it, if none begins in the piece that was begun. -/
theorem not_infix_of_mem_splitFrom (hsep : sep ≠ []) {piece cs : List Char}
    (none_ : NoneBefore sep piece.reverse cs) :
    ∀ p ∈ splitFrom sep hsep piece cs, ¬ sep <:+: p := by
  fun_induction splitFrom sep hsep piece cs with
  | case1 piece =>
      intro p mem
      rw [List.mem_singleton.mp mem]
      exact none_.not_infix hsep
  | case2 piece c rest found ih =>
      intro p mem
      obtain rfl | mem := List.mem_cons.mp mem
      · exact none_.not_infix hsep
      · exact ih (noneBefore_nil _ _) p mem
  | case3 piece c rest other ih =>
      apply ih
      rw [List.reverse_cons]
      exact none_.snoc fun found => other (List.isPrefixOf_iff_prefix.mpr found)

/-- There is more than one piece exactly if the separator occurs. -/
theorem one_lt_length_splitFrom (hsep : sep ≠ []) (piece cs : List Char) :
    1 < (splitFrom sep hsep piece cs).length ↔ sep <:+: cs := by
  rw [← occursIn_iff_infix]
  fun_induction splitFrom sep hsep piece cs with
  | case1 piece => simp [occursIn, hsep]
  | case2 piece c rest found ih =>
      have more := List.length_pos_iff.mpr
        (splitFrom_ne_nil sep hsep [] ((c :: rest).drop sep.length))
      simp only [occursIn, found, Bool.true_or, iff_true, List.length_cons]
      omega
  | case3 piece c rest other ih =>
      rw [ih, occursIn, Bool.eq_false_iff.mpr other, Bool.false_or]

theorem splitOn_nil (cs : List Char) : splitOn [] cs = cs.map fun c => [c] := dif_pos rfl

theorem splitOn_of_ne_nil (hsep : sep ≠ []) (cs : List Char) :
    splitOn sep cs = splitFrom sep hsep [] cs := dif_neg hsep

theorem joinWith_characters (cs : List Char) : joinWith [] (cs.map fun c => [c]) = cs := by
  induction cs with
  | nil => rfl
  | cons c rest ih =>
      cases rest with
      | nil => rfl
      | cons d more =>
          rw [List.map_cons, joinWith_cons (by simp), ih]
          rfl

theorem joinWith_eq_intercalate (sep : List Char) (ps : List (List Char)) :
    joinWith sep ps = sep.intercalate ps := by
  fun_induction joinWith sep ps with
  | case1 => rfl
  | case2 p => rw [List.intercalate_singleton]
  | case3 p q rest ih => rw [List.intercalate_cons_cons, ih]

/-- Joining undoes splitting, for every separator. -/
theorem joinWith_splitOn (sep cs : List Char) : joinWith sep (splitOn sep cs) = cs := by
  by_cases hsep : sep = []
  · rw [hsep, splitOn_nil, joinWith_characters]
  · rw [splitOn_of_ne_nil hsep, joinWith_splitFrom, List.reverse_nil, List.nil_append]

end Pieces

/-! ### Separators of one character -/

section Marks

variable {mark : Char} {line rest : List Char}

/-- What is in front of the next mark goes to the current piece. -/
theorem splitFrom_append (h : [mark] ≠ []) (piece rest : List Char) (whole : mark ∉ line) :
    splitFrom [mark] h piece (line ++ rest) = splitFrom [mark] h (line.reverse ++ piece) rest := by
  induction line generalizing piece with
  | nil => rfl
  | cons c more ih =>
      have other : mark ≠ c := List.ne_of_not_mem_cons whole
      rw [List.cons_append, splitFrom, if_neg (by simpa using other),
        ih _ (List.not_mem_of_not_mem_cons whole), List.reverse_cons, List.append_assoc,
        List.singleton_append]

theorem splitFrom_whole (h : [mark] ≠ []) (whole : mark ∉ line) :
    splitFrom [mark] h [] line = [line] := by
  have split := splitFrom_append h [] [] whole
  rw [List.append_nil] at split
  rw [split, splitFrom, List.append_nil, List.reverse_reverse]

theorem splitFrom_mark (h : [mark] ≠ []) (whole : mark ∉ line) :
    splitFrom [mark] h [] (line ++ mark :: rest) = line :: splitFrom [mark] h [] rest := by
  rw [splitFrom_append h [] _ whole, splitFrom, if_pos (by simp), List.append_nil,
    List.reverse_reverse]
  rfl

theorem splitOn_mark_ne_nil (mark : Char) (cs : List Char) : splitOn [mark] cs ≠ [] := by
  have hmark : [mark] ≠ [] := by simp
  rw [splitOn_of_ne_nil hmark]
  exact splitFrom_ne_nil _ _ _ _

theorem not_mem_of_mem_splitOn {p cs : List Char} (piece : p ∈ splitOn [mark] cs) : mark ∉ p := by
  have hmark : [mark] ≠ [] := by simp
  have none_ : NoneBefore [mark] ([] : List Char).reverse cs := noneBefore_nil _ _
  rw [splitOn_of_ne_nil hmark] at piece
  intro mem
  obtain ⟨front, rest, rfl⟩ := List.append_of_mem mem
  apply not_infix_of_mem_splitFrom hmark none_ _ piece
  exact ⟨front, rest, by simp⟩

/-- Pieces without the mark are found again when they were joined by it. -/
theorem splitOn_joinWith {ps : List (List Char)} (some_ : ps ≠ [])
    (whole : ∀ p ∈ ps, mark ∉ p) : splitOn [mark] (joinWith [mark] ps) = ps := by
  have hmark : [mark] ≠ [] := by simp
  rw [splitOn_of_ne_nil hmark]
  induction ps with
  | nil => exact absurd rfl some_
  | cons p rest ih =>
      have first := whole p List.mem_cons_self
      cases rest with
      | nil => exact splitFrom_whole hmark first
      | cons q more =>
          have further := ih (by simp) fun r mem => whole r (List.mem_cons_of_mem _ mem)
          rw [joinWith_cons (by simp), List.append_assoc, List.singleton_append,
            splitFrom_mark hmark first, further]

end Marks

end Text

namespace Builtin

theorem contains_text (clock : Nat) (s needle : String) (h : Heap) :
    contains.call clock [.text s, .text needle] h =
      (.ok (.bool (decide (needle.toList <:+: s.toList))), h) := by
  have same : Text.occursIn needle.toList s.toList = decide (needle.toList <:+: s.toList) := by
    rw [Bool.eq_iff_iff, Text.occursIn_iff_infix, decide_eq_true_iff]
  rw [← same]
  rfl

theorem join_array (clock : Nat) (a : Address) (sep : String) (h : Heap) :
    join.call clock [.array a, .text sep] h = (.ok (.text (joined h (h.items a) sep)), h) := rfl

/-- The items of a new array are found on the heap. -/
theorem items_newArray (h : Heap) (items : Array Value) :
    (h.newArray items).2.items h.cells.size = items := by
  simp only [Heap.newArray, Heap.add, Heap.items, Array.getElem?_push_size]

/-- The pieces of a text, joined by the same separator, are the text. -/
theorem joined_pieces (h : Heap) (s sep : String) : joined h (pieces s sep) sep = s := by
  have texts : (pieces s sep).toList.map (fun v => (h.display v).toList) =
      Text.splitOn sep.toList s.toList := by
    simp [pieces, Heap.display, Function.comp_def]
  rw [joined, texts, Text.joinWith_splitOn, String.ofList_toList]

/-- Splitting a text and joining the pieces gives the text back. A separator that is not empty is in
no piece, and there is more than one piece exactly if it is in the text; an empty one leaves the
characters. -/
theorem join_split (s sep : String) (h : Heap) (clock clock' : Nat) :
    ∃ (a : Address) (h' : Heap) (pieces : List String),
      split.call clock [.text s, .text sep] h = (.ok (.array a), h') ∧
      h'.items a = (pieces.map Value.text).toArray ∧
      join.call clock' [.array a, .text sep] h' = (.ok (.text s), h') ∧
      (∀ t : String, contains.call clock' [.text t, .text sep] h' =
        (.ok (.bool (decide (sep.toList <:+: t.toList))), h')) ∧
      (sep ≠ "" → (∀ p ∈ pieces, ¬ sep.toList <:+: p.toList) ∧
        (1 < pieces.length ↔
          contains.call clock' [.text s, .text sep] h' = (.ok (.bool true), h'))) ∧
      (sep = "" → pieces = s.toList.map String.singleton) := by
  have fresh := items_newArray h (pieces s sep)
  refine ⟨h.cells.size, (h.newArray (pieces s sep)).2,
    (Text.splitOn sep.toList s.toList).map String.ofList, rfl, ?_, ?_, ?_, ?_, ?_⟩
  · rw [fresh, List.map_map]
    rfl
  · rw [join_array, fresh, joined_pieces]
  · intro t
    exact contains_text clock' t sep _
  · intro some_
    have hsep : sep.toList ≠ [] := by simpa using some_
    rw [Text.splitOn_of_ne_nil hsep]
    constructor
    · intro p mem
      obtain ⟨q, piece, rfl⟩ := List.mem_map.mp mem
      have none_ : Text.NoneBefore sep.toList ([] : List Char).reverse s.toList :=
        Text.noneBefore_nil _ _
      rw [String.toList_ofList]
      exact Text.not_infix_of_mem_splitFrom hsep none_ q piece
    · rw [List.length_map, Text.one_lt_length_splitFrom, contains_text]
      simp
  · rintro rfl
    rw [String.toList_empty, Text.splitOn_nil, List.map_map]
    rfl

/-- The two occurrences of the separator overlap, so that only the first of them cuts. -/
theorem join_split_overlapping :
    "éàé" ≠ "" ∧ ∃ (a : Address) (h' : Heap) (pieces : List String),
      split.call 0 [.text "éàéàé", .text "éàé"] {} = (.ok (.array a), h') ∧
      h'.items a = (pieces.map Value.text).toArray ∧ 1 < pieces.length ∧
      (∀ p ∈ pieces, ¬ "éàé".toList <:+: p.toList) ∧
      join.call 1 [.array a, .text "éàé"] h' = (.ok (.text "éàéàé"), h') := by
  have some_ : "éàé" ≠ "" := by decide
  obtain ⟨a, h', pieces, split_, items, join_, holds, cuts, -⟩ :=
    join_split "éàéàé" "éàé" {} 0 1
  obtain ⟨whole, more⟩ := cuts some_
  have inside : "éàé".toList <:+: "éàéàé".toList := by decide
  have many : 1 < pieces.length := by rw [more, holds, decide_eq_true inside]
  exact ⟨some_, a, h', pieces, split_, items, many, whole, join_⟩

end Builtin

end HostScript
