import HostScript.Text.Alphabetic
import HostScript.Proofs.Lexing.Literals
import HostScript.Proofs.Splitting
import Mathlib.Data.List.DropRight

/-!
# Lines and trimmed texts

What the lines of a text are, and what is left of a text when it is trimmed, said by how the text is
put together: from lines and line ends, and from blanks around a core.

## Implementation notes

`Broken` builds a text from its lines, so it needs no search for line ends. A text is cut at its
first line feed to find its lines, and the carriage return in front of a line feed belongs to the
line end. Trimming is characterised by `trimBlanks_eq_iff`, and later proofs do not open it.
-/

namespace HostScript.Text

/-! ### Lines -/

section Lines

variable {cs line rest : List Char}

/-- A text and its lines. A line ends with a line feed, with a carriage return and a line feed, or
with the text; a text that ends with a line feed has no empty line behind it. -/
inductive Broken : List Char → List (List Char) → Prop
  | nothing : Broken [] []
  | unended {line : List Char} (some_ : line ≠ []) (whole : '\n' ∉ line) : Broken line [line]
  | fed {line text : List Char} {lines : List (List Char)} (whole : '\n' ∉ line)
      (bare : line.getLast? ≠ some '\r') (rest : Broken text lines) :
      Broken (line ++ '\n' :: text) (line :: lines)
  | returned {line text : List Char} {lines : List (List Char)} (whole : '\n' ∉ line)
      (rest : Broken text lines) : Broken (line ++ '\r' :: '\n' :: text) (line :: lines)

theorem lines_whole (whole : '\n' ∉ line) : lines line = [line].filter (· ≠ []) := by
  rw [lines, splitOn, dif_neg (by simp), splitFrom_whole _ whole]
  simp

theorem lines_feed (whole : '\n' ∉ line) :
    lines (line ++ '\n' :: rest) = dropLineEnd line :: lines rest := by
  have some_ := splitFrom_ne_nil ['\n'] (by simp) [] rest
  simp only [lines, splitOn, dif_neg (List.cons_ne_nil '\n' []), splitFrom_mark _ whole,
    List.dropLast_cons_of_ne_nil some_, List.getLast?_cons_of_ne_nil some_, List.map_cons,
    List.cons_append]

theorem dropLineEnd_bare (bare : line.getLast? ≠ some '\r') : dropLineEnd line = line :=
  if_neg bare

theorem dropLineEnd_return : dropLineEnd (line ++ ['\r']) = line := by
  simp [dropLineEnd]

/-- What is in front of a line feed is a line, perhaps with a carriage return behind it. -/
theorem Broken.feed {ls : List (List Char)} (whole : '\n' ∉ line) (broken : Broken rest ls) :
    Broken (line ++ '\n' :: rest) (dropLineEnd line :: ls) := by
  by_cases returned : line.getLast? = some '\r'
  · obtain ⟨front, rfl⟩ := List.getLast?_eq_some_iff.mp returned
    rw [dropLineEnd_return, List.append_assoc]
    exact .returned (fun feed => whole (List.mem_append_left _ feed)) broken
  · rw [dropLineEnd_bare returned]
    exact .fed whole returned broken

/-- Every text has lines. -/
theorem broken_lines (cs : List Char) : Broken cs (lines cs) := by
  -- A text with a line feed is cut at the first one, and the rest of it is shorter.
  by_cases feed : '\n' ∈ cs
  · obtain ⟨line, rest, rfl, whole⟩ := List.eq_append_cons_of_mem feed
    rw [lines_feed whole]
    exact (broken_lines rest).feed whole
  · rw [lines_whole feed]
    by_cases none_ : cs = []
    · subst none_
      exact .nothing
    · rw [List.filter_cons_of_pos (by simpa using none_)]
      exact .unended none_ feed
termination_by cs.length

/-- A text has its lines in one way only. -/
theorem Broken.eq_lines {ls : List (List Char)} (broken : Broken cs ls) : ls = lines cs := by
  induction broken with
  | nothing => rw [lines_whole List.not_mem_nil, List.filter_cons_of_neg (by simp), List.filter_nil]
  | unended some_ whole => rw [lines_whole whole, List.filter_cons_of_pos (by simpa using some_),
      List.filter_nil]
  | fed whole bare _ ih => rw [lines_feed whole, dropLineEnd_bare bare, ih]
  | @returned line text _ whole _ ih =>
      have split : line ++ '\r' :: '\n' :: text = line ++ ['\r'] ++ '\n' :: text := by simp
      rw [split, lines_feed (by simpa using whole), dropLineEnd_return, ih]

theorem broken_iff {ls : List (List Char)} : Broken cs ls ↔ ls = lines cs := by
  constructor
  · exact Broken.eq_lines
  · rintro rfl
    exact broken_lines cs

end Lines

/-! ### Blanks at the ends -/

section Blanks

variable {cs core front back : List Char}

/-- Nothing but blanks. -/
def Blank (cs : List Char) : Prop := ∀ c ∈ cs, isBlank c = true

instance : DecidablePred Blank := fun cs =>
  decidable_of_iff (cs.all isBlank = true) List.all_eq_true

/-- No blank at either end. -/
structure Bare (cs : List Char) : Prop where
  first : cs.head?.any isBlank = false
  last : cs.getLast?.any isBlank = false

theorem blank_nil : Blank [] := by
  intro c none_
  cases none_

theorem Blank.append (hf : Blank front) (hb : Blank back) : Blank (front ++ back) := by
  intro c member
  exact (List.mem_append.mp member).elim (hf c) (hb c)

theorem bare_of_forall (seen : ∀ c ∈ cs, isBlank c = false) : Bare cs := by
  constructor
  · rw [Option.any_eq_false]
    intro c head
    simpa using seen c (List.mem_of_mem_head? head)
  · rw [Option.any_eq_false]
    intro c last
    simpa using seen c (List.mem_of_getLast? last)

/-- Only the two ends of a text matter. -/
theorem Bare.enclose (hf : Bare front) (some_ : front ≠ []) (hb : Bare back) (some_' : back ≠ [])
    (middle : List Char) : Bare (front ++ middle ++ back) := by
  constructor
  · obtain ⟨c, more, rfl⟩ := List.exists_cons_of_ne_nil some_
    exact hf.first
  · rw [List.getLast?_append_of_ne_nil _ some_']
    exact hb.last

theorem trimBlanks_eq (cs : List Char) :
    trimBlanks cs = (cs.dropWhile isBlank).rdropWhile isBlank := rfl

/-- A text is what is left of it when it is trimmed, between blanks. -/
theorem exists_eq_append_trimBlanks (cs : List Char) :
    ∃ front back, Blank front ∧ Blank back ∧ cs = front ++ trimBlanks cs ++ back := by
  refine ⟨cs.takeWhile isBlank, (cs.dropWhile isBlank).rtakeWhile isBlank, ?_, ?_, ?_⟩
  · exact fun c member => List.mem_takeWhile_imp member
  · exact fun c member => List.mem_rtakeWhile_imp member
  · rw [trimBlanks_eq, List.append_assoc, List.rdropWhile_append_rtakeWhile,
      List.takeWhile_append_dropWhile]

/-- Only the blanks in front of a text decide where the trimmed text begins. -/
theorem head?_trimBlanks (cs : List Char) :
    (trimBlanks cs).head? = (cs.dropWhile isBlank).head? := by
  have first := Source.head?_dropWhile_any isBlank cs
  rw [trimBlanks_eq]
  cases left : cs.dropWhile isBlank with
  | nil => rfl
  | cons c more =>
      rw [left] at first
      obtain ⟨back, split⟩ := List.rdropWhile_prefix isBlank (l := c :: more)
      -- The first sign that is no blank keeps the trimmed text from being empty.
      cases core : (c :: more).rdropWhile isBlank with
      | nil =>
          have blank : isBlank c = true := List.rdropWhile_eq_nil_iff.mp core c List.mem_cons_self
          cases first.symm.trans blank
      | cons d rest =>
          rw [core] at split
          rw [List.head?_cons, List.head?_cons, (List.cons.inj split).1]

theorem bare_trimBlanks (cs : List Char) : Bare (trimBlanks cs) := by
  constructor
  · rw [head?_trimBlanks]
    exact Source.head?_dropWhile_any isBlank cs
  · rw [trimBlanks, List.getLast?_reverse]
    exact Source.head?_dropWhile_any isBlank _

theorem Blank.trimBlanks (blank : Blank cs) : trimBlanks cs = [] := by
  rw [trimBlanks_eq, List.dropWhile_eq_nil_iff.mpr blank, List.rdropWhile_nil]

theorem Bare.trimBlanks_append (bare : Bare core) (hf : Blank front) (hb : Blank back) :
    trimBlanks (front ++ core ++ back) = core := by
  cases core with
  | nil => exact ((hf.append blank_nil).append hb).trimBlanks
  | cons c more =>
      have hb' : ∀ c ∈ back.reverse, isBlank c = true :=
        fun c member => hb c (List.mem_reverse.mp member)
      have last : (c :: more).reverse.head?.any isBlank = false := by
        rw [List.head?_reverse]
        exact bare.last
      have first : (c :: more ++ back).head?.any isBlank = false := bare.first
      rw [trimBlanks, List.append_assoc, Source.dropWhile_append_of_ends hf first,
        List.reverse_append, Source.dropWhile_append_of_ends hb' last, List.reverse_reverse]

/-- Trimming takes the blanks in front of a text and behind it, and nothing else. -/
theorem trimBlanks_eq_iff : trimBlanks cs = core ↔
    Bare core ∧ ∃ front back, Blank front ∧ Blank back ∧ cs = front ++ core ++ back := by
  constructor
  · rintro rfl
    exact ⟨bare_trimBlanks cs, exists_eq_append_trimBlanks cs⟩
  · rintro ⟨bare, front, back, hf, hb, rfl⟩
    exact bare.trimBlanks_append hf hb

theorem trimBlanks_eq_nil_iff : trimBlanks cs = [] ↔ Blank cs := by
  constructor
  · intro trimmed
    obtain ⟨front, back, hf, hb, split⟩ := exists_eq_append_trimBlanks cs
    rw [split, trimmed, List.append_nil]
    exact hf.append hb
  · exact Blank.trimBlanks

/-- The first sign of a text is the first one of what is left of it when it is trimmed. -/
theorem head?_trimBlanks_eq_some_iff {mark : Char} (seen : isBlank mark = false) :
    (trimBlanks cs).head? = some mark ↔ ∃ front rest, Blank front ∧ cs = front ++ mark :: rest := by
  constructor
  · intro first
    obtain ⟨front, back, hf, -, split⟩ := exists_eq_append_trimBlanks cs
    obtain ⟨more, core⟩ := List.head?_eq_some_iff.mp first
    rw [core, List.append_assoc] at split
    exact ⟨front, more ++ back, hf, split⟩
  · rintro ⟨front, rest, hf, rfl⟩
    have ends : (mark :: rest).head?.any isBlank = false := seen
    rw [head?_trimBlanks, Source.dropWhile_append_of_ends hf ends, List.head?_cons]

end Blanks

end HostScript.Text
