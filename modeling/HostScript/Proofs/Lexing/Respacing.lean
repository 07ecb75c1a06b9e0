import HostScript.Proofs.Lexing.Boundaries
import HostScript.Proofs.Tiling

/-!
# Lexemes in other gaps

What a lexeme stands for is told by the lexeme alone. If the lexemes of a source text are written
one behind the other with blanks between them, the scanner finds them again, each with its kind.

## Implementation notes

`Scans` is the scanner as a relation: a lexeme behind a gap, then the rest of the text. In contrast
to a tiling it says of each lexeme that it begins no comment and how it is read, so a text can be
put together again from its lexemes. Wherever a lexeme gets other text behind it, that text is cut
off from what stood there before (`Scans.next_of_cut`).
-/

namespace HostScript.Source

open HostScript.Text

/-! ### Skipping gaps -/

section Skipping

variable {final : Bool} {gap gap' mark body rest rest' : List Char} {c : Char}

/-- Within its line nothing ends a comment. -/
theorem skipTrivia_within (oneLine : '\n' ∉ body) (rest : List Char) :
    skipTrivia true (body ++ rest) = skipTrivia true rest := by
  induction body with
  | nil => rfl
  | cons c body ih =>
      obtain ⟨inside, others⟩ := not_or.mp (mt List.mem_cons.mpr oneLine)
      have goesOn : (c != '\n') = true := bne_iff_ne.mpr (Ne.symm inside)
      rw [List.cons_append, skipTrivia, if_pos rfl, goesOn, ih others]

/-- A comment ends with its line. -/
theorem skipTrivia_line (oneLine : '\n' ∉ body) (rest : List Char) :
    skipTrivia true (body ++ '\n' :: rest) = skipTrivia false rest := by
  rw [skipTrivia_within oneLine]
  rfl

theorem skipTrivia_lastLine (oneLine : '\n' ∉ body) : skipTrivia true body = [] := by
  rw [← List.append_nil body, skipTrivia_within oneLine]
  rfl

theorem skipTrivia_mark (begins : CommentMark mark) (rest : List Char) :
    skipTrivia false (mark ++ rest) = skipTrivia true rest := by
  cases begins with
  | hash => rfl
  | slashes => rfl

/-- A gap is skipped, whatever follows it. -/
theorem skipTrivia_append (trivia : Trivia false gap) (rest : List Char) :
    skipTrivia false (gap ++ rest) = skipTrivia false rest := by
  induction trivia with
  | nil => rfl
  | blank blank others ih =>
      rw [List.cons_append, skipTrivia, if_neg Bool.false_ne_true, if_pos blank, ih]
  | comment begins oneLine others ih =>
      rw [List.append_assoc, List.append_assoc, skipTrivia_mark begins, List.cons_append,
        skipTrivia_line oneLine, ih]
  | lastComment begins oneLine ends => cases ends

/-- Nothing is left of a text that is a gap. -/
theorem skipTrivia_eq_nil (trivia : Trivia true gap) : skipTrivia false gap = [] := by
  induction trivia with
  | nil => rfl
  | blank blank others ih => rw [skipTrivia, if_neg Bool.false_ne_true, if_pos blank, ih]
  | comment begins oneLine others ih =>
      rw [List.append_assoc, skipTrivia_mark begins, skipTrivia_line oneLine, ih]
  | lastComment begins oneLine ends =>
      rw [skipTrivia_mark begins, skipTrivia_lastLine oneLine]

theorem Trivia.append (first : Trivia false gap) (second : Trivia final gap') :
    Trivia final (gap ++ gap') := by
  induction first with
  | nil => exact second
  | blank blank others ih => exact .blank blank ih
  | comment begins oneLine others ih =>
      rw [List.append_assoc, List.cons_append]
      exact .comment begins oneLine ih
  | lastComment begins oneLine ends => cases ends

/-- A newline ends the last comment of a gap. -/
theorem Trivia.newline (trivia : Trivia final gap) : Trivia false (gap ++ ['\n']) := by
  induction trivia with
  | nil => exact .blank (by decide) .nil
  | blank blank others ih => exact .blank blank ih
  | comment begins oneLine others ih =>
      rw [List.append_assoc, List.cons_append]
      exact .comment begins oneLine ih
  | lastComment begins oneLine ends => exact .comment begins oneLine .nil

theorem trivia_of_blanks (blanks : gap.all isBlank = true) : Trivia final gap := by
  induction gap with
  | nil => exact .nil
  | cons c gap ih =>
      obtain ⟨blank, others⟩ := Bool.and_eq_true_iff.mp blanks
      exact .blank blank (ih others)

/-- Nothing is skipped at a place: it begins with a character that is no blank, and no comment
begins there. -/
def Begins (cs : List Char) : Prop := skipTrivia false cs = cs

theorem begins_cons_iff : Begins (c :: rest) ↔
    isBlank c = false ∧ c ≠ '#' ∧ ¬ (c = '/' ∧ rest.head? = some '/') := by
  have shorter (b : Bool) : skipTrivia b rest ≠ c :: rest := by
    intro same
    have := (skipTrivia_suffix b rest).length_le
    rw [same, List.length_cons] at this
    omega
  unfold Begins skipTrivia
  simp only [Bool.false_eq_true, if_false]
  split
  · next blank => simp [shorter, blank]
  · next seen =>
    split
    · next hash =>
      cases eq_of_beq hash
      simp [shorter]
    · next noHash =>
      split
      · next slashes => simpa [shorter, seen] using fun _ => slashes
      · next noSlashes => simpa [seen] using And.intro noHash noSlashes

/-- Whether a comment begins is seen from two characters that are no blanks. -/
theorem Begins.of_cut (begins : Begins (c :: rest)) (cut : Cut rest rest') :
    Begins (c :: rest') := by
  rw [begins_cons_iff] at begins ⊢
  obtain ⟨seen, noHash, noSlashes⟩ := begins
  refine ⟨seen, noHash, ?_⟩
  rintro ⟨rfl, second⟩
  obtain ⟨more, rfl⟩ := List.head?_eq_some_iff.mp second
  obtain ⟨more', rfl, -⟩ := cut.exists_cons (by decide)
  exact noSlashes ⟨rfl, rfl⟩

end Skipping

/-! ### The scanner as a relation -/

/-- The scanner reads the tokens off the text, which starts at the position. -/
inductive Scans : Location → List Char → List Token → Prop
  | last {loc : Location} {gap : List Char} (trivia : Trivia true gap) :
      Scans loc gap [⟨.eof, "", loc.afterAll gap⟩]
  | next {loc : Location} {gap more left : List Char} {c : Char} {kind : TokenKind}
      {tokens : List Token} (trivia : Trivia false gap) (begins : Begins (c :: (more ++ left)))
      (read : readLexeme c (more ++ left) = .ok (kind, left))
      (others : Scans (loc.afterAll (gap ++ c :: more)) left tokens) :
      Scans loc (gap ++ c :: more ++ left)
        (⟨kind, String.ofList (c :: more), loc.afterAll gap⟩ :: tokens)

section Scanning

variable {loc : Location} {cs gap more rest left left' : List Char} {c : Char} {kind : TokenKind}
  {tokens tokens' : List Token}

/-- What is left behind a gap begins where nothing is skipped. -/
theorem begins_skipTrivia (cs : List Char) : Begins (skipTrivia false cs) := by
  obtain ⟨gap, split, trivia⟩ := trivia_skipTrivia cs
  cases left : skipTrivia false cs with
  | nil => rfl
  | cons c rest =>
      rw [left] at split trivia
      rw [Begins, ← skipTrivia_append trivia, ← split, left]

theorem scan_of_trivia (loc : Location) (trivia : Trivia true gap) :
    scan loc gap = .ok [⟨.eof, "", loc.afterAll gap⟩] := by
  rw [scan]
  split
  · rfl
  · next skipped => cases (skipTrivia_eq_nil trivia).symm.trans skipped

/-- What the scanner does behind a gap, where a lexeme begins. -/
theorem scan_begins (loc : Location) (trivia : Trivia false gap) (begins : Begins (c :: rest)) :
    scan loc (gap ++ c :: rest) =
      ((readLexeme c rest).mapError (·.toFault (loc.afterAll gap))).bind fun read =>
        (scan (loc.afterAll (gap ++ consumed (c :: rest) read.2)) read.2).map
          (⟨read.1, String.ofList (consumed (c :: rest) read.2), loc.afterAll gap⟩ :: ·) := by
  have found : skipTrivia false (gap ++ c :: rest) = c :: rest := by
    rw [skipTrivia_append trivia, begins]
  rw [scan]
  split
  · next skipped => cases found.symm.trans skipped
  · next skipped =>
    cases found.symm.trans skipped
    simp only [consumed_of_append, ← Location.afterAll_append]
    split
    · next e unread =>
      rw [unread]
      rfl
    · next kind left read =>
      rw [read]
      cases scanned : scan (loc.afterAll (gap ++ consumed (c :: rest) left)) left with
      | ok tokens => exact (congrArg (Except.map _) scanned).symm
      | error f => exact (congrArg (Except.map _) scanned).symm

theorem Scans.scan_eq (scans : Scans loc cs tokens) : scan loc cs = .ok tokens := by
  induction scans with
  | last trivia => exact scan_of_trivia _ trivia
  | next trivia begins read others ih =>
      rw [List.append_assoc, List.cons_append, scan_begins _ trivia begins, read,
        ← List.cons_append]
      change Except.map _ (scan _ _) = _
      rw [consumed_of_append, ih]
      rfl

theorem scans_of_scan {loc : Location} {cs : List Char} {tokens : List Token}
    (h : scan loc cs = .ok tokens) : Scans loc cs tokens := by
  obtain ⟨gap, split, trivia⟩ := trivia_skipTrivia cs
  have begins := begins_skipTrivia cs
  cases skipped : skipTrivia false cs with
  | nil =>
      rw [skipped, List.append_nil] at split
      rw [skipped] at trivia
      subst split
      cases (scan_of_trivia loc trivia).symm.trans h
      exact .last trivia
  | cons c rest =>
      rw [skipped] at split trivia begins
      rw [split, scan_begins loc trivia begins] at h
      cases read : readLexeme c rest with
      | error e =>
          rw [read] at h
          cases h
      | ok found =>
          obtain ⟨kind, left⟩ := found
          obtain ⟨more, rfl⟩ := readLexeme_suffix read
          rw [read, ← List.cons_append] at h
          change Except.map _ (scan _ _) = _ at h
          rw [consumed_of_append] at h
          cases scanned : scan (loc.afterAll (gap ++ c :: more)) left with
          | error f =>
              rw [scanned] at h
              cases h
          | ok others =>
              rw [scanned] at h
              cases h
              have shorter : left.length < cs.length := by
                rw [split]
                simp only [List.length_append, List.length_cons]
                omega
              rw [split, ← List.cons_append, ← List.append_assoc]
              exact .next trivia begins read (scans_of_scan scanned)
termination_by cs.length

theorem scan_eq_ok_iff : scan loc cs = .ok tokens ↔ Scans loc cs tokens :=
  ⟨scans_of_scan, Scans.scan_eq⟩

/-- A lexeme gets other text behind it. -/
theorem Scans.next_of_cut (trivia : Trivia false gap) (begins : Begins (c :: (more ++ left)))
    (read : readLexeme c (more ++ left) = .ok (kind, left)) (cut : Cut left left')
    (others : Scans (loc.afterAll (gap ++ c :: more)) left' tokens) :
    Scans loc (gap ++ c :: more ++ left')
      (⟨kind, String.ofList (c :: more), loc.afterAll gap⟩ :: tokens) :=
  .next trivia (begins.of_cut (cut.append more)) (readLexeme_of_cut read cut) others

/-- A gap is put in front of a text. -/
theorem Scans.prepend (scans : Scans (loc.afterAll gap) cs tokens) (trivia : Trivia false gap) :
    Scans loc (gap ++ cs) tokens := by
  generalize here : loc.afterAll gap = loc' at scans
  cases scans with
  | last final =>
      rw [← here, ← Location.afterAll_append]
      exact .last (trivia.append final)
  | next trivia' begins read others =>
      subst here
      rw [← List.append_assoc, ← List.append_assoc, ← Location.afterAll_append]
      rw [← Location.afterAll_append, ← List.append_assoc] at others
      exact .next (trivia.append trivia') begins read others

/-- A newline cuts a text off from the next one, also inside a comment. -/
theorem Scans.append_line (scans : Scans loc cs tokens)
    (others : Scans (loc.afterAll (cs ++ ['\n'])) rest tokens') :
    Scans loc (cs ++ '\n' :: rest) (tokens.dropLast ++ tokens') := by
  have detached : Detached ('\n' :: rest) := (by decide : isBlank '\n' = true)
  induction scans with
  | last trivia =>
      rw [List.append_cons]
      exact others.prepend trivia.newline
  | @next loc gap more left c kind tokens trivia begins read scans ih =>
      have nonempty : tokens ≠ [] := by
        rintro rfl
        cases scans
      rw [List.append_assoc, Location.afterAll_append] at others
      rw [List.dropLast_cons_of_ne_nil nonempty, List.append_assoc]
      exact .next_of_cut trivia begins read (detached.cut_append left) (ih others)

end Scanning

/-! ### Re-spacing -/

/-- What is written of a token, and what it is, without its place. -/
def spelled (t : Token) : TokenKind × String := (t.kind, t.lexeme)

/-- The lexemes of the tokens, but for the end token. -/
def words (tokens : List Token) : List String :=
  (tokens.filter (·.kind ≠ .eof)).map (·.lexeme)

/-- The words in order, with a gap between any two of them: `gap n` stands in front of the last `n`
words. -/
def spaced (gap : Nat → String) : List String → String
  | [] => ""
  | word :: rest => word ++ (if rest.isEmpty then "" else gap rest.length) ++ spaced gap rest

/-- The text is not empty and has only blanks. -/
def IsGap (s : String) : Prop := s ≠ "" ∧ s.toList.all isBlank = true

section Respacing

variable {gap : Nat → String} {word : String} {rest : List String}

theorem words_cons {t : Token} {tokens : List Token} (kind : t.kind ≠ .eof) :
    words (t :: tokens) = t.lexeme :: words tokens := by
  simp [words, kind]

/-- What stands behind the first word is detached from it. -/
theorem toList_spaced_cons (gaps : ∀ n, IsGap (gap n)) (word : String) (rest : List String) :
    ∃ blanks, (spaced gap (word :: rest)).toList =
        word.toList ++ (blanks ++ (spaced gap rest).toList) ∧
      Trivia false blanks ∧ Detached (blanks ++ (spaced gap rest).toList) := by
  cases rest with
  | nil => exact ⟨[], by simp [spaced], .nil, rfl⟩
  | cons next rest =>
      obtain ⟨nonempty, blank⟩ := gaps (next :: rest).length
      refine ⟨(gap (next :: rest).length).toList, by simp [spaced], trivia_of_blanks blank, ?_⟩
      cases split : (gap (next :: rest).length).toList with
      | nil => exact absurd (String.toList_eq_nil_iff.mp split) nonempty
      | cons c others =>
          rw [split] at blank
          exact (Bool.and_eq_true_iff.mp blank).1

/-- The tokens are read off their lexemes, one behind the other, with blanks between them. -/
theorem Scans.spaced (gaps : ∀ n, IsGap (gap n)) {loc : Location} {cs : List Char}
    {tokens : List Token} (scans : Scans loc cs tokens) (loc' : Location) :
    ∃ tokens', Scans loc' (spaced gap (words tokens)).toList tokens' ∧
      tokens'.map spelled = tokens.map spelled := by
  induction scans generalizing loc' with
  | last trivia => exact ⟨_, .last .nil, rfl⟩
  | @next loc _ more left c kind tokens trivia begins read others ih =>
      obtain ⟨blanks, text, blank, detached⟩ :=
        toList_spaced_cons gaps (String.ofList (c :: more)) (words tokens)
      obtain ⟨tokens', scans', same⟩ := ih ((loc'.afterAll (c :: more)).afterAll blanks)
      rw [words_cons (readLexeme_ne_eof read), text, String.toList_ofList]
      refine ⟨⟨kind, String.ofList (c :: more), loc'⟩ :: tokens', ?_, congrArg (_ :: ·) same⟩
      exact .next_of_cut .nil begins read (detached.cut left) (scans'.prepend blank)

end Respacing

/-- Lexing is stable under re-spacing. If a source text can be scanned, its lexemes in order, with
any blanks between them, can be scanned too, to tokens of the same kinds with the same lexemes. So
the kinds of the tokens of a text depend on its lexemes and not on what stands between them. -/
theorem tokenize_respaced :
    (∀ source tokens, tokenize source = .ok tokens → ∀ gap, (∀ n, IsGap (gap n)) →
      ∃ tokens', tokenize (spaced gap (words tokens)) = .ok tokens' ∧
        tokens'.map spelled = tokens.map spelled) ∧
    ∀ source source' tokens tokens', tokenize source = .ok tokens →
      tokenize source' = .ok tokens' → words tokens = words tokens' →
        tokens.map spelled = tokens'.map spelled := by
  have stable {source : String} {tokens : List Token} (scanned : tokenize source = .ok tokens)
      {gap : Nat → String} (gaps : ∀ n, IsGap (gap n)) :
      ∃ tokens', tokenize (spaced gap (words tokens)) = .ok tokens' ∧
        tokens'.map spelled = tokens.map spelled := by
    obtain ⟨tokens', scans, same⟩ := (scans_of_scan scanned).spaced gaps .start
    exact ⟨tokens', scans.scan_eq, same⟩
  refine ⟨fun source tokens scanned gap gaps => stable scanned gaps, ?_⟩
  intro source source' tokens tokens' scanned scanned' agree
  have space : IsGap " " := ⟨by decide, by decide⟩
  obtain ⟨between, again, same⟩ := stable scanned fun _ => space
  obtain ⟨between', again', same'⟩ := stable scanned' fun _ => space
  rw [agree] at again
  cases again.symm.trans again'
  exact same.symm.trans same'

theorem tokenize_eq_of_toOption {source : String} {tokens : List Token}
    (h : (tokenize source).toOption = some tokens) : tokenize source = .ok tokens := by
  cases scanned : tokenize source with
  | ok tokens' =>
      rw [scanned] at h
      cases h
      rfl
  | error f =>
      rw [scanned] at h
      cases h

/-- A source text with a comment in it. -/
def remarkedSource : String := "a/b//c\n'$d'"

/-- The lexemes of the text, on lines of their own. -/
theorem remarkedSource_respaced : ∃ tokens tokens', tokenize remarkedSource = .ok tokens ∧
    words tokens = ["a", "/", "b", "'$d'"] ∧ tokenize "a\n/\nb\n'$d'" = .ok tokens' ∧
    tokens'.map spelled = tokens.map spelled := by
  have lexemes : (tokenize remarkedSource).toOption.map words = some ["a", "/", "b", "'$d'"] := by
    decide +kernel
  obtain ⟨tokens, read, lexemes⟩ := Option.map_eq_some_iff.mp lexemes
  have scanned := tokenize_eq_of_toOption read
  have newline : IsGap "\n" := ⟨by decide, by decide⟩
  obtain ⟨tokens', again, same⟩ := tokenize_respaced.1 _ tokens scanned _ fun _ => newline
  rw [lexemes] at again
  exact ⟨tokens, tokens', scanned, lexemes, again, same⟩

end HostScript.Source
