import HostScript.Settings
import HostScript.Proofs.Lines
import HostScript.Proofs.Lexing.Boundaries

/-!
# Settings, line by line

A line of a settings text sets a limit, is silent, or is faulty. Every limit is the value on the
last line that sets it, or its default. The faulty lines are reported with their numbers, from the
first to the last, and have no other effect.

## Implementation notes

What a line says is a relation that takes the line apart at its blanks and signs, and `applyLine` is
shown to decide it. After that the limits are a fold of `stepped` over the lines, whatever the
numbers of the lines are, and the numbers of the errors are what `faults` gathers, whatever the
limits are.
-/

namespace HostScript.Settings

open HostScript.Text HostScript.Number

/-! ### What a line says -/

section Lines

variable {line : List Char} {k : Setting} {n : Nat} {l l' : Limits}

/-- The line gives a value to a setting. -/
def Sets (line : List Char) (k : Setting) (n : Nat) : Prop :=
  ∃ b₁ b₂ b₃ b₄ numeral, Blank b₁ ∧ Blank b₂ ∧ Blank b₃ ∧ Blank b₄ ∧
    IsNumeral numeral n ∧ n ≤ maxWord ∧
    line = b₁ ++ k.name.toList ++ b₂ ++ '=' :: (b₃ ++ numeral ++ b₄)

/-- The line is blank or a comment. -/
def Silent (line : List Char) : Prop :=
  Blank line ∨ ∃ front mark rest, Blank front ∧ (mark = '#' ∨ mark = ';') ∧
    line = front ++ mark :: rest

/-- The line neither says nothing nor gives a value to a setting. -/
def Faulty (line : List Char) : Prop := ¬ Silent line ∧ ∀ k n, ¬ Sets line k n

theorem name_ne_nil (k : Setting) : k.name.toList ≠ [] := by
  cases k <;> decide

theorem plain_of_mem_name {c : Char} (member : c ∈ k.name.toList) :
    isBlank c = false ∧ c ∉ ['=', '#', ';'] := by
  have plain : (k.name.toList.all fun c => !isBlank c && !(['=', '#', ';'].contains c)) = true := by
    cases k <;> decide
  simpa using List.all_eq_true.mp plain c member

theorem bare_name (k : Setting) : Bare k.name.toList :=
  bare_of_forall fun _ member => (plain_of_mem_name member).1

theorem ne_nil_of_isNumeral {cs : List Char} (numeral : IsNumeral cs n) : cs ≠ [] := by
  obtain ⟨digits, rfl | rfl, some_, -⟩ := numeral
  · exact some_
  · exact List.cons_ne_nil _ _

theorem bare_of_isNumeral {cs : List Char} (numeral : IsNumeral cs n) : Bare cs := by
  apply bare_of_forall
  obtain ⟨digits, spelled, -, decimal, -⟩ := numeral
  have seen : ∀ c ∈ digits, isBlank c = false :=
    fun c member => Source.visible_isDigit.isBlank_eq_false (decimal c member)
  obtain rfl | rfl := spelled
  · exact seen
  · exact List.forall_mem_cons.mpr ⟨by decide, seen⟩

/-- A line is silent by what is left of it when it is trimmed. -/
theorem silent_iff : Silent line ↔ ((trimBlanks line).isEmpty ||
    (trimBlanks line).head? == some '#' || (trimBlanks line).head? == some ';') = true := by
  simp only [Silent, Bool.or_eq_true, List.isEmpty_iff, beq_iff_eq, trimBlanks_eq_nil_iff,
    head?_trimBlanks_eq_some_iff (show isBlank '#' = false by decide),
    head?_trimBlanks_eq_some_iff (show isBlank ';' = false by decide), or_assoc]
  constructor
  · rintro (blank | ⟨front, mark, rest, hf, rfl | rfl, rfl⟩)
    · exact .inl blank
    · exact .inr (.inl ⟨front, rest, hf, rfl⟩)
    · exact .inr (.inr ⟨front, rest, hf, rfl⟩)
  · rintro (blank | ⟨front, rest, hf, rfl⟩ | ⟨front, rest, hf, rfl⟩)
    · exact .inl blank
    · exact .inr ⟨front, '#', rest, hf, .inl rfl, rfl⟩
    · exact .inr ⟨front, ';', rest, hf, .inr rfl, rfl⟩

/-- A line sets a value by what is in front of the first equals sign and what is behind it. -/
theorem sets_iff : Sets line k n ↔ ∃ key value, trimBlanks line = key ++ '=' :: value ∧ '=' ∉ key ∧
    trimBlanks key = k.name.toList ∧ IsNumeral (trimBlanks value) n ∧ n ≤ maxWord := by
  constructor
  · rintro ⟨b₁, b₂, b₃, b₄, numeral, h₁, h₂, h₃, h₄, reads, word, rfl⟩
    -- Between the outer blanks the line begins with a name and ends with a numeral.
    have core : Bare (k.name.toList ++ (b₂ ++ '=' :: b₃) ++ numeral) :=
      (bare_name k).enclose (name_ne_nil k) (bare_of_isNumeral reads) (ne_nil_of_isNumeral reads) _
    refine ⟨k.name.toList ++ b₂, b₃ ++ numeral, ?_, ?_, ?_, ?_, word⟩
    · rw [trimBlanks_eq_iff]
      exact ⟨by simpa using core, b₁, b₄, h₁, h₄, by simp⟩
    · intro member
      obtain named | blank := List.mem_append.mp member
      · exact (plain_of_mem_name named).2 (by simp)
      · cases h₂ _ blank
    · exact trimBlanks_eq_iff.mpr ⟨bare_name k, [], b₂, blank_nil, h₂, rfl⟩
    · rw [trimBlanks_eq_iff.mpr ⟨bare_of_isNumeral reads, b₃, [], h₃, blank_nil, by simp⟩]
      exact reads
  · rintro ⟨key, value, core, -, named, reads, word⟩
    obtain ⟨front, back, hf, hb, split⟩ := exists_eq_append_trimBlanks line
    obtain ⟨b₁, b₂, h₁, h₂, keyed⟩ := exists_eq_append_trimBlanks key
    obtain ⟨b₃, b₄, h₃, h₄, valued⟩ := exists_eq_append_trimBlanks value
    rw [named] at keyed
    refine ⟨front ++ b₁, b₂, b₃, b₄ ++ back, trimBlanks value, hf.append h₁, h₂, h₃, h₄.append hb,
      reads, word, ?_⟩
    rw [split, core, keyed]
    nth_rewrite 1 [valued]
    simp only [List.append_assoc, List.cons_append]

theorem Sets.not_silent (sets : Sets line k n) : ¬ Silent line := by
  -- The first sign of the line is the first one of a name, and no comment begins with that.
  obtain ⟨b₁, b₂, b₃, b₄, numeral, h₁, -, -, -, -, -, split⟩ := sets
  obtain ⟨c, more, name⟩ := List.exists_cons_of_ne_nil (name_ne_nil k)
  obtain ⟨seen, plain⟩ := plain_of_mem_name (name ▸ List.mem_cons_self)
  have first : (trimBlanks line).head? = some c := by
    rw [head?_trimBlanks_eq_some_iff seen, split, name]
    exact ⟨b₁, more ++ b₂ ++ '=' :: (b₃ ++ numeral ++ b₄), h₁, by simp⟩
  obtain ⟨rest, core⟩ := List.head?_eq_some_iff.mp first
  rw [silent_iff, core]
  simp only [List.mem_cons, not_or] at plain
  simp [plain]

theorem ofName?_eq_some_iff {s : String} : Setting.ofName? s = some k ↔ s = k.name := by
  constructor
  · intro found
    have same : (k.name == s) = true := List.find?_some (p := fun k : Setting => k.name == s) found
    exact (eq_of_beq same).symm
  · rintro rfl
    cases k <;> decide

theorem apply_eq_ok_iff {key value : String} : apply l key value = .ok l' ↔
    ∃ (k : Setting) (n : Nat), key = k.name ∧ IsNumeral value.toList n ∧ n ≤ maxWord ∧
      l' = k.set n l := by
  constructor
  · intro applied
    rw [apply] at applied
    cases named : Setting.ofName? key with
    | none => simp [named] at applied
    | some k =>
        cases reads : wordOf? value with
        | none => simp [named, reads] at applied
        | some n =>
            simp only [named, reads, Except.ok.injEq] at applied
            obtain ⟨numeral, word⟩ := wordOf?_eq_some_iff.mp reads
            exact ⟨k, n, ofName?_eq_some_iff.mp named, numeral, word, applied.symm⟩
  · rintro ⟨k, n, named, numeral, word, rfl⟩
    rw [apply, ofName?_eq_some_iff.mpr named, wordOf?_eq_some_iff.mpr ⟨numeral, word⟩]

theorem applyLine_of_silent (silent : Silent line) : applyLine l (trimBlanks line) = .ok l :=
  if_pos (silent_iff.mp silent)

theorem bne_of_notMem {cs : List Char} {mark : Char} (none_ : mark ∉ cs) :
    ∀ c ∈ cs, (c != mark) = true := by
  intro c member
  rw [bne_iff_ne]
  rintro rfl
  exact none_ member

theorem applyLine_of_equals {key value : List Char} (loud : ¬ Silent line)
    (core : trimBlanks line = key ++ '=' :: value) (first : '=' ∉ key) :
    applyLine l (trimBlanks line) =
      apply l (String.ofList (trimBlanks key)) (String.ofList (trimBlanks value)) := by
  have others := bne_of_notMem first
  have ends : ('=' :: value).head?.any (· != '=') = false := rfl
  rw [applyLine, if_neg (fun empty => loud (silent_iff.mpr empty)), core,
    Source.dropWhile_append_of_ends others ends, Source.takeWhile_append_of_ends others ends]
  simp only [trim, String.toList_ofList]

theorem applyLine_of_no_equals (loud : ¬ Silent line) (none_ : '=' ∉ trimBlanks line) :
    applyLine l (trimBlanks line) ≠ .ok l' := by
  rw [applyLine, if_neg (fun empty => loud (silent_iff.mpr empty)),
    List.dropWhile_eq_nil_iff.mpr (bne_of_notMem none_)]
  intro applied
  cases applied

/-- A line that is read without an error is silent or sets a value. -/
theorem applyLine_eq_ok_iff : applyLine l (trimBlanks line) = .ok l' ↔
    Silent line ∧ l' = l ∨ ∃ k n, Sets line k n ∧ l' = k.set n l := by
  constructor
  · intro applied
    by_cases silent : Silent line
    · rw [applyLine_of_silent silent] at applied
      exact .inl ⟨silent, (Except.ok.inj applied).symm⟩
    by_cases equals : '=' ∈ trimBlanks line
    · obtain ⟨key, value, core, first⟩ := List.eq_append_cons_of_mem equals
      rw [applyLine_of_equals silent core first, apply_eq_ok_iff] at applied
      obtain ⟨k, n, named, reads, word, rfl⟩ := applied
      rw [String.toList_ofList] at reads
      have named' : trimBlanks key = k.name.toList := by rw [← named, String.toList_ofList]
      exact .inr ⟨k, n, sets_iff.mpr ⟨key, value, core, first, named', reads, word⟩, rfl⟩
    · exact absurd applied (applyLine_of_no_equals silent equals)
  · rintro (⟨silent, rfl⟩ | ⟨k, n, sets, rfl⟩)
    · exact applyLine_of_silent silent
    · obtain ⟨key, value, core, first, named, reads, word⟩ := sets_iff.mp sets
      rw [applyLine_of_equals sets.not_silent core first, apply_eq_ok_iff]
      refine ⟨k, n, ?_, ?_, word, rfl⟩
      · rw [named, String.ofList_toList]
      · rwa [String.toList_ofList]

/-- A faulty line is one with an error, whatever the limits are. -/
theorem faulty_iff : Faulty line ↔ ∃ message, applyLine l (trimBlanks line) = .error message := by
  cases applied : applyLine l (trimBlanks line) with
  | ok l' =>
      have spoken := applyLine_eq_ok_iff.mp applied
      constructor
      · rintro ⟨loud, unset⟩
        obtain ⟨silent, -⟩ | ⟨k, n, sets, -⟩ := spoken
        · exact absurd silent loud
        · exact absurd sets (unset k n)
      · rintro ⟨message, ⟨⟩⟩
  | error message =>
      have failed : ∀ l', applyLine l (trimBlanks line) ≠ .ok l' := by
        intro l' succeeded
        cases applied.symm.trans succeeded
      constructor
      · exact fun _ => ⟨message, rfl⟩
      · intro _
        constructor
        · exact fun silent => failed l (applyLine_of_silent silent)
        · intro k n sets
          exact failed (k.set n l) (applyLine_eq_ok_iff.mpr (.inr ⟨k, n, sets, rfl⟩))

end Lines

/-! ### The limits after lines -/

section Limits

variable {line : List Char} {lines : List (List Char)} {k : Setting} {n : Nat} {l : Limits}

/-- The limits after a line; a line with an error leaves them alone. -/
def stepped (l : Limits) (line : List Char) : Limits :=
  match applyLine l (trimBlanks line) with
  | .ok l' => l'
  | .error _ => l

theorem stepped_of_sets (sets : Sets line k n) : stepped l line = k.set n l := by
  rw [stepped, applyLine_eq_ok_iff.mpr (.inr ⟨k, n, sets, rfl⟩)]

theorem stepped_of_faulty (faulty : Faulty line) : stepped l line = l := by
  obtain ⟨message, failed⟩ := (faulty_iff (l := l)).mp faulty
  rw [stepped, failed]

/-- A line changes no setting but the one that it sets. -/
theorem get_stepped (unset : ∀ n, ¬ Sets line k n) : k.get (stepped l line) = k.get l := by
  cases applied : applyLine l (trimBlanks line) with
  | error message => rw [stepped, applied]
  | ok l' =>
      rw [stepped, applied]
      obtain ⟨-, rfl⟩ | ⟨k', n, sets, rfl⟩ := applyLine_eq_ok_iff.mp applied
      · rfl
      · apply Setting.get_set_of_ne
        rintro rfl
        exact unset n sets

/-- Reading is a fold over the lines, whatever their numbers are. -/
theorem fst_applyLines (l : Limits) (n : Nat) (lines : List (List Char)) :
    (applyLines l n lines).1 = lines.foldl stepped l := by
  induction lines generalizing l n with
  | nil => rfl
  | cons line rest ih =>
      rw [List.foldl_cons, applyLines, stepped]
      cases applyLine l (trimBlanks line) with
      | ok l' => exact ih l' (n + 1)
      | error message => exact ih l (n + 1)

theorem get_foldl_stepped (unset : ∀ line ∈ lines, ∀ n, ¬ Sets line k n) :
    k.get (lines.foldl stepped l) = k.get l := by
  induction lines generalizing l with
  | nil => rfl
  | cons line rest ih =>
      rw [List.foldl_cons, ih fun line' member => unset line' (List.mem_cons_of_mem _ member),
        get_stepped (unset line List.mem_cons_self)]

/-- The value of a setting after lines is the one on the last line that sets it, or the one at the
start if no line does. -/
inductive Settles (k : Setting) (start : Nat) : List (List Char) → Nat → Prop
  | unset {lines : List (List Char)} (unset : ∀ line ∈ lines, ∀ n, ¬ Sets line k n) :
      Settles k start lines start
  | last (before : List (List Char)) {line : List Char} {after : List (List Char)} {n : Nat}
      (sets : Sets line k n) (unset : ∀ line ∈ after, ∀ n, ¬ Sets line k n) :
      Settles k start (before ++ line :: after) n

theorem exists_settles (k : Setting) (start : Nat) (lines : List (List Char)) :
    ∃ n, Settles k start lines n := by
  induction lines with
  | nil => exact ⟨start, .unset fun line none_ => absurd none_ List.not_mem_nil⟩
  | cons line rest ih =>
      obtain ⟨n, settles⟩ := ih
      cases settles with
      | last before sets unset => exact ⟨n, .last (line :: before) sets unset⟩
      | unset unset =>
          by_cases some_ : ∃ n, Sets line k n
          · obtain ⟨n, sets⟩ := some_
            exact ⟨n, .last [] sets unset⟩
          · exact ⟨start, .unset (List.forall_mem_cons.mpr ⟨not_exists.mp some_, unset⟩)⟩

theorem Settles.get_foldl (settles : Settles k (k.get l) lines n) :
    k.get (lines.foldl stepped l) = n := by
  cases settles with
  | unset unset => exact get_foldl_stepped unset
  | last before sets unset =>
      rw [List.foldl_append, List.foldl_cons, get_foldl_stepped unset, stepped_of_sets sets,
        Setting.get_set_self]

/-- The lines decide the value of every setting. -/
theorem get_foldl_iff : k.get (lines.foldl stepped l) = n ↔ Settles k (k.get l) lines n := by
  constructor
  · rintro rfl
    obtain ⟨n, settles⟩ := exists_settles k (k.get l) lines
    rwa [settles.get_foldl]
  · exact Settles.get_foldl

theorem foldl_of_faulty (faulty : Faulty line) (before after : List (List Char)) :
    (before ++ line :: after).foldl stepped l = (before ++ after).foldl stepped l := by
  rw [List.foldl_append, List.foldl_cons, stepped_of_faulty faulty, List.foldl_append]

end Limits

/-! ### The lines with an error -/

section Errors

variable {line : List Char} {rest : List (List Char)}

/-- The numbers of the lines with an error. -/
def faults (l : Limits) (n : Nat) (lines : List (List Char)) : List Nat :=
  (applyLines l n lines).2.map SettingError.line

theorem faults_cons_of_faulty (l : Limits) (n : Nat) (faulty : Faulty line) :
    faults l n (line :: rest) = n :: faults l (n + 1) rest := by
  obtain ⟨message, failed⟩ := (faulty_iff (l := l)).mp faulty
  simp only [faults, applyLines, failed, List.map_cons]

theorem faults_cons_of_not_faulty (l : Limits) (n : Nat) (well : ¬ Faulty line) :
    faults l n (line :: rest) = faults (stepped l line) (n + 1) rest := by
  rw [faulty_iff (l := l)] at well
  cases applied : applyLine l (trimBlanks line) with
  | ok l' => simp only [faults, applyLines, stepped, applied]
  | error message => exact absurd ⟨message, applied⟩ well

/-- A line is reported if it is faulty, with its number. -/
theorem mem_faults_iff (l : Limits) (n : Nat) (lines : List (List Char)) {i : Nat} :
    i ∈ faults l n lines ↔ ∃ line, (line, i) ∈ lines.zipIdx n ∧ Faulty line := by
  induction lines generalizing l n with
  | nil => simp [faults, applyLines]
  | cons line rest ih =>
      by_cases faulty : Faulty line
      · rw [faults_cons_of_faulty l n faulty, List.mem_cons, ih]
        simp [or_and_right, exists_or, faulty]
      · rw [faults_cons_of_not_faulty l n faulty, ih]
        simp [or_and_right, exists_or, faulty]

theorem pairwise_faults (l : Limits) (n : Nat) (lines : List (List Char)) :
    (faults l n lines).Pairwise (· < ·) := by
  induction lines generalizing l n with
  | nil => exact .nil
  | cons line rest ih =>
      by_cases faulty : Faulty line
      · rw [faults_cons_of_faulty l n faulty, List.pairwise_cons]
        constructor
        · intro i later
          obtain ⟨line', numbered, -⟩ := (mem_faults_iff l (n + 1) rest).mp later
          exact List.le_snd_of_mem_zipIdx numbered
        · exact ih l (n + 1)
      · rw [faults_cons_of_not_faulty l n faulty]
        exact ih (stepped l line) (n + 1)

end Errors

/-- A settings text is read line by line: each setting has the value on the last line that sets it,
or its default, and each faulty line is reported once, in order, and changes nothing. -/
theorem read_line_by_line (text : String) :
    ∃ lines, (∀ ls, Broken text.toList ls ↔ ls = lines) ∧
      (∀ (k : Setting) (n : Nat), k.get (read text).1 = n ↔ Settles k (k.get {}) lines n) ∧
      (∀ i, i ∈ (read text).2.map SettingError.line ↔
        ∃ line, (line, i) ∈ lines.zipIdx 1 ∧ Faulty line) ∧
      ((read text).2.map SettingError.line).Pairwise (· < ·) ∧
      ∀ before line after, lines = before ++ line :: after → Faulty line →
        ∀ shorter : String, Broken shorter.toList (before ++ after) →
          (read shorter).1 = (read text).1 := by
  refine ⟨Text.lines text.toList, fun ls => broken_iff, ?_, ?_, ?_, ?_⟩
  · intro k n
    rw [read, fst_applyLines]
    exact get_foldl_iff
  · intro i
    exact mem_faults_iff {} 1 _
  · exact pairwise_faults {} 1 _
  · intro before line after split faulty shorter broken
    rw [read, read, fst_applyLines, fst_applyLines, split, ← broken.eq_lines,
      foldl_of_faulty faulty]

theorem sets_timeout : Sets " timeout_ms=+7".toList .timeout 7 :=
  ⟨[' '], [], [], [], ['+', '7'], by decide, blank_nil, blank_nil, blank_nil,
    ⟨['7'], .inr rfl, by decide, List.all_eq_true.mp rfl, rfl⟩, by decide, by decide⟩

theorem faulty_words : Faulty "words".toList := by
  constructor
  · rw [silent_iff]
    decide
  · rintro k n ⟨b₁, b₂, b₃, b₄, numeral, -, -, -, -, -, -, split⟩
    have equals : '=' ∈ "words".toList := by
      rw [split]
      simp
    revert equals
    decide

/-- A later value wins, and the faulty line in front of it is reported and skipped. -/
theorem faulty_words_skipped :
    Setting.timeout.get (read "timeout_ms = 5\r\nwords\n timeout_ms=+7").1 = 7 ∧
      2 ∈ (read "timeout_ms = 5\r\nwords\n timeout_ms=+7").2.map SettingError.line ∧
      (read "timeout_ms = 5\n timeout_ms=+7\n").1 =
        (read "timeout_ms = 5\r\nwords\n timeout_ms=+7").1 := by
  obtain ⟨lines, broken, settles, faults, -, skips⟩ :=
    read_line_by_line "timeout_ms = 5\r\nwords\n timeout_ms=+7"
  have split : ["timeout_ms = 5".toList, "words".toList, " timeout_ms=+7".toList] = lines := by
    apply (broken _).mp
    apply Broken.returned (show '\n' ∉ "timeout_ms = 5".toList by decide)
    apply Broken.fed (show '\n' ∉ "words".toList by decide) (by decide)
    exact .unended (by decide) (by decide)
  have shorter : Broken "timeout_ms = 5\n timeout_ms=+7\n".toList
      (["timeout_ms = 5".toList] ++ [" timeout_ms=+7".toList]) := by
    apply Broken.fed (show '\n' ∉ "timeout_ms = 5".toList by decide) (by decide)
    apply Broken.fed (show '\n' ∉ " timeout_ms=+7".toList by decide) (by decide)
    exact .nothing
  subst split
  refine ⟨?_, ?_, ?_⟩
  · rw [settles]
    exact .last ["timeout_ms = 5".toList, "words".toList] sets_timeout (by simp)
  · rw [faults]
    exact ⟨_, by simp, faulty_words⟩
  · exact skips ["timeout_ms = 5".toList] _ _ rfl faulty_words _ shorter

end HostScript.Settings
