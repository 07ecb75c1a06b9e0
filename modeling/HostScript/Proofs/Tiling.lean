import HostScript.Source.Scan

/-!
# Tokens tile their source

A source text is a row of gaps and lexemes that take turns. A gap holds blanks and whole comments,
a lexeme is what one token stands for, and behind the last lexeme there is one more gap. Where the
text cannot be read, the same is true of everything before that place.

## Implementation notes

What a position says is given by the text before it, without a recursion on it: newlines, the
characters behind the last of them, and bytes. That the scanner, which moves its position on with
every character, arrives at the same is `Location.Marks.afterAll`. A comment lasts to the end of
its line, so only the last gap of a text may end inside one.
-/

namespace HostScript

/-! ### Positions -/

/-- The position is that of the place right behind a text: its line and its column count from one,
its offset counts the bytes of the text. -/
structure Location.Marks (l : Location) (before : List Char) : Prop where
  line : l.line = 1 + before.count '\n'
  /-- The column counts the characters behind the last newline. -/
  column : l.column = 1 + (before.reverse.takeWhile (· != '\n')).length
  offset : l.offset = (String.ofList before).utf8ByteSize

namespace Location

variable {l : Location} {before : List Char}

theorem marks_start : start.Marks [] := ⟨rfl, rfl, rfl⟩

theorem Marks.isKnown (h : l.Marks before) : l.isKnown = true := by
  rw [Location.isKnown, h.line]
  exact decide_eq_true (by omega)

/-- Moving over one character. -/
theorem Marks.after (h : l.Marks before) (c : Char) : (l.after c).Marks (before ++ [c]) := by
  have bytes : l.offset + c.utf8Size = (String.ofList (before ++ [c])).utf8ByteSize := by
    rw [String.ofList_append, String.utf8ByteSize_append, ← String.singleton_eq_ofList,
      String.utf8ByteSize_singleton, h.offset]
  by_cases newline : c = '\n'
  · subst newline
    rw [Location.after, if_pos rfl]
    refine ⟨?_, ?_, bytes⟩
    · simp only [h.line, List.count_append, List.count_singleton_self]
      omega
    · simp
  · rw [Location.after, if_neg newline]
    refine ⟨?_, ?_, bytes⟩
    · simp [h.line, List.count_append, newline]
    · simp [h.column, newline]
      omega

/-- Moving over a text, character by character, leads to the position behind it. -/
theorem Marks.afterAll (h : l.Marks before) (cs : List Char) :
    (l.afterAll cs).Marks (before ++ cs) := by
  induction cs generalizing l before with
  | nil => simpa using h
  | cons c rest ih =>
      rw [Location.afterAll_cons]
      simpa using ih (h.after c)

end Location

namespace Source

open HostScript.Text

/-! ### Gaps -/

/-- What a comment begins with. -/
inductive CommentMark : List Char → Prop
  | hash : CommentMark ['#']
  | slashes : CommentMark ['/', '/']

/-- Blanks and whole comments. The last comment of a text may end with the text; `final` says that
nothing follows. -/
inductive Trivia (final : Bool) : List Char → Prop
  | nil : Trivia final []
  | blank {c : Char} {rest : List Char} (blank : isBlank c = true) (others : Trivia final rest) :
      Trivia final (c :: rest)
  | comment {mark body rest : List Char} (begins : CommentMark mark) (oneLine : '\n' ∉ body)
      (others : Trivia final rest) : Trivia final (mark ++ body ++ '\n' :: rest)
  | lastComment {mark body : List Char} (begins : CommentMark mark) (oneLine : '\n' ∉ body)
      (ends : final = true) : Trivia final (mark ++ body)

/-- Inside a comment everything is dropped up to the newline. -/
theorem skipTrivia_comment (cs : List Char) : ∃ body, '\n' ∉ body ∧
    (cs = body ∧ skipTrivia true cs = [] ∨
      ∃ rest, cs = body ++ '\n' :: rest ∧ skipTrivia true cs = skipTrivia false rest) := by
  induction cs with
  | nil => exact ⟨[], List.not_mem_nil, .inl ⟨rfl, rfl⟩⟩
  | cons c rest ih =>
      by_cases newline : c = '\n'
      · subst newline
        exact ⟨[], List.not_mem_nil, .inr ⟨rest, rfl, rfl⟩⟩
      · have goesOn : skipTrivia true (c :: rest) = skipTrivia true rest := by
          have inside : (c != '\n') = true := bne_iff_ne.mpr newline
          rw [skipTrivia, if_pos rfl, inside]
        obtain ⟨body, oneLine, ends⟩ := ih
        refine ⟨c :: body, ?_, ?_⟩
        · rintro (_ | ⟨_, mem⟩)
          · exact newline rfl
          · exact oneLine mem
        · rw [goesOn]
          obtain ⟨rfl, nothing⟩ | ⟨rest, rfl, left⟩ := ends
          · exact .inl ⟨rfl, nothing⟩
          · exact .inr ⟨rest, rfl, left⟩

/-- A comment and the gap behind it make up a gap. -/
theorem trivia_of_comment {mark cs : List Char} (begins : CommentMark mark)
    (ih : ∀ rest, rest.length < cs.length → ∃ gap, rest = gap ++ skipTrivia false rest ∧
      Trivia (skipTrivia false rest).isEmpty gap) :
    ∃ gap, mark ++ cs = gap ++ skipTrivia true cs ∧ Trivia (skipTrivia true cs).isEmpty gap := by
  obtain ⟨body, oneLine, ⟨rfl, nothing⟩ | ⟨rest, rfl, left⟩⟩ := skipTrivia_comment cs
  · rw [nothing]
    exact ⟨mark ++ cs, by simp, .lastComment begins oneLine rfl⟩
  · obtain ⟨gap, split, trivia⟩ := ih rest (by simp; omega)
    rw [left]
    refine ⟨mark ++ body ++ '\n' :: gap, ?_, .comment begins oneLine trivia⟩
    simp [← split]

/-- What is dropped before a token is a gap. -/
theorem trivia_skipTrivia (cs : List Char) : ∃ gap, cs = gap ++ skipTrivia false cs ∧
    Trivia (skipTrivia false cs).isEmpty gap := by
  match cs with
  | [] => exact ⟨[], rfl, .nil⟩
  | c :: rest =>
      have shorter (others : List Char) (h : others.length < (c :: rest).length) :=
        trivia_skipTrivia others
      by_cases blank : isBlank c = true
      · have goesOn : skipTrivia false (c :: rest) = skipTrivia false rest := by
          simp [skipTrivia, blank]
        obtain ⟨gap, split, trivia⟩ := shorter rest (Nat.lt_succ_self _)
        rw [goesOn]
        exact ⟨c :: gap, congrArg (c :: ·) split, .blank blank trivia⟩
      · by_cases hash : c = '#'
        · subst hash
          have goesOn : skipTrivia false ('#' :: rest) = skipTrivia true rest := by
            simp [skipTrivia, blank]
          rw [goesOn]
          exact trivia_of_comment .hash fun others h => shorter others (Nat.lt_succ_of_lt h)
        · by_cases slash : c = '/' ∧ rest.head? = some '/'
          · obtain ⟨rfl, second⟩ := slash
            obtain ⟨rest, rfl⟩ : ∃ more, rest = '/' :: more := by
              obtain ⟨more, eq⟩ := List.head?_eq_some_iff.mp second
              exact ⟨more, eq⟩
            have goesOn : skipTrivia false ('/' :: '/' :: rest) = skipTrivia true rest := by
              simp [skipTrivia, blank]
            rw [goesOn]
            exact trivia_of_comment .slashes fun others h => shorter others (by simp; omega)
          · have stops : skipTrivia false (c :: rest) = c :: rest := by
              simp [skipTrivia, blank, hash, slash]
            rw [stops]
            exact ⟨[], rfl, .nil⟩
termination_by cs.length
decreasing_by exact h

/-! ### Lexemes -/

theorem readLiteral_ne_eof {quote : Char} {text : List Char} {parts : List TemplatePart}
    {cs rest : List Char} {k : TokenKind} (h : readLiteral quote text parts cs = .ok (k, rest)) :
    k ≠ .eof := by
  fun_induction readLiteral quote text parts cs with
  | case1 => cases h
  | case2 => cases h
  | case3 text parts c hc d tail ih => exact ih h
  | case4 text parts =>
      cases h
      cases parts with
      | nil => exact TokenKind.noConfusion
      | cons part others => exact TokenKind.noConfusion
  | case5 text parts c tail hc hq hd name left hs hl ih => exact ih h
  | case6 text parts c tail hc hq hd hs ih => exact ih h
  | case7 text parts c tail hc hq hd ih => exact ih h

theorem readNumber_ne_eof {c : Char} {cs rest : List Char} {k : TokenKind}
    (h : readNumber c cs = .ok (k, rest)) : k ≠ .eof := by
  simp only [readNumber, readHexadecimal, readDecimal] at h
  repeat' split at h
  all_goals cases h
  all_goals exact TokenKind.noConfusion

theorem wordKind_ne_eof (word : String) : wordKind word ≠ .eof := by
  unfold wordKind
  split
  · exact TokenKind.noConfusion
  · exact TokenKind.noConfusion

theorem readMark_ne_eof {c : Char} {cs rest : List Char} {k : TokenKind}
    (h : readMark c cs = .ok (k, rest)) : k ≠ .eof := by
  unfold readMark at h
  repeat' split at h
  all_goals cases h
  all_goals exact TokenKind.noConfusion

/-- No lexeme stands for the end of the text. -/
theorem readLexeme_ne_eof {c : Char} {cs rest : List Char} {k : TokenKind}
    (h : readLexeme c cs = .ok (k, rest)) : k ≠ .eof := by
  unfold readLexeme at h
  split at h
  · exact readNumber_ne_eof h
  · split at h
    · exact readLiteral_ne_eof h
    · split at h
      · cases h
        exact wordKind_ne_eof _
      · split at h
        · split at h
          · cases h
            exact TokenKind.noConfusion
          · cases h
        · exact readMark_ne_eof h

theorem LexicalError.toFault_eq (e : LexicalError) (loc : Location) :
    e.toFault loc = .failure .malformed { message := e.message, loc, hint := e.hint? } := by
  unfold toFault
  cases e.hint? with
  | none => rfl
  | some hint => rfl

theorem consumed_of_append (front rest : List Char) : consumed (front ++ rest) rest = front := by
  simp [consumed]

/-- What the scanner does at a place: the rest of the text is a gap, or behind a gap there is
something that cannot be read, or a lexeme behind which the scanner goes on. -/
theorem scan_cases (loc : Location) (cs : List Char) :
    (Trivia true cs ∧ scan loc cs = .ok [⟨.eof, "", loc.afterAll cs⟩]) ∨
    (∃ gap c rest e, cs = gap ++ c :: rest ∧ Trivia false gap ∧ readLexeme c rest = .error e ∧
      scan loc cs = .error (e.toFault (loc.afterAll gap))) ∨
    ∃ gap c more left kind, cs = gap ++ c :: more ++ left ∧ Trivia false gap ∧
      readLexeme c (more ++ left) = .ok (kind, left) ∧
      scan loc cs = (scan (loc.afterAll (gap ++ c :: more)) left).map
        (⟨kind, String.ofList (c :: more), loc.afterAll gap⟩ :: ·) := by
  obtain ⟨gap, split, trivia⟩ := trivia_skipTrivia cs
  rw [scan]
  split
  · next nothing =>
    rw [nothing] at split trivia
    rw [List.append_nil] at split
    exact .inl ⟨split ▸ trivia, rfl⟩
  · next c rest skipped =>
    rw [skipped] at split trivia
    subst split
    simp only [consumed_of_append]
    split
    · next e read => exact .inr (.inl ⟨gap, c, rest, e, rfl, trivia, read, rfl⟩)
    · next kind left read =>
      obtain ⟨more, rfl⟩ := readLexeme_suffix read
      refine .inr (.inr ⟨gap, c, more, left, kind, by simp, trivia, read, ?_⟩)
      rw [← List.cons_append, consumed_of_append, ← Location.afterAll_append]
      cases scan (loc.afterAll (gap ++ c :: more)) left with
      | ok tokens => rfl
      | error f => rfl

/-! ### Rows of gaps and lexemes -/

/-- The text, which stands behind `before`, is a row of gaps and lexemes: one lexeme for each token,
with a gap before it. Each token carries the position of its lexeme. -/
inductive Tiling : (before : List Char) → List Token → (text : List Char) → Prop
  | nil (before : List Char) : Tiling before [] []
  | cons {before gap text : List Char} {t : Token} {others : List Token}
      (trivia : Trivia false gap) (kind : t.kind ≠ .eof) (nonempty : t.lexeme ≠ "")
      (marks : t.loc.Marks (before ++ gap))
      (rest : Tiling (before ++ gap ++ t.lexeme.toList) others text) :
      Tiling before (t :: others) (gap ++ t.lexeme.toList ++ text)

/-- A gap and a lexeme are put before a row. -/
theorem Tiling.piece {loc : Location} {before gap lexeme text : List Char} {kind : TokenKind}
    {others : List Token} (rest : Tiling (before ++ gap ++ lexeme) others text)
    (marks : loc.Marks before) (trivia : Trivia false gap) (kind_ne : kind ≠ .eof)
    (nonempty : lexeme ≠ []) :
    Tiling before (⟨kind, String.ofList lexeme, loc.afterAll gap⟩ :: others)
      (gap ++ lexeme ++ text) := by
  have row : Tiling before (⟨kind, String.ofList lexeme, loc.afterAll gap⟩ :: others)
      (gap ++ (String.ofList lexeme).toList ++ text) :=
    .cons trivia kind_ne (mt String.ofList_eq_empty_iff.mp nonempty) (marks.afterAll gap)
      (by simpa using rest)
  simpa using row

/-- If the scanner succeeds, its tokens but the last one tile the text up to the last gap. -/
theorem tiling_of_scan_eq_ok {loc : Location} {before cs : List Char} {tokens : List Token}
    (marks : loc.Marks before) (h : scan loc cs = .ok tokens) :
    ∃ body text gap, tokens = body ++ [⟨.eof, "", loc.afterAll cs⟩] ∧ cs = text ++ gap ∧
      Tiling before body text ∧ Trivia true gap := by
  obtain ⟨trivia, scanned⟩ | ⟨gap, c, rest, e, -, -, -, scanned⟩ |
    ⟨gap, c, more, left, kind, split, trivia, read, scanned⟩ := scan_cases loc cs
  · rw [scanned] at h
    cases h
    exact ⟨[], [], cs, rfl, rfl, .nil before, trivia⟩
  · rw [scanned] at h
    cases h
  · have shorter : left.length < cs.length := by
      rw [split]
      simp only [List.length_append, List.length_cons]
      omega
    rw [scanned] at h
    cases scannedRest : scan (loc.afterAll (gap ++ c :: more)) left with
    | error f =>
        rw [scannedRest] at h
        cases h
    | ok others =>
        rw [scannedRest] at h
        cases h
        subst split
        obtain ⟨body, text, last, rfl, rfl, tiling, final⟩ :=
          tiling_of_scan_eq_ok (marks.afterAll (gap ++ c :: more)) scannedRest
        rw [← List.append_assoc] at tiling
        refine ⟨⟨kind, String.ofList (c :: more), loc.afterAll gap⟩ :: body,
          gap ++ c :: more ++ text, last, ?_, by simp, ?_, final⟩
        · rw [← Location.afterAll_append, List.cons_append]
        · exact tiling.piece marks trivia (readLexeme_ne_eof read) (List.cons_ne_nil _ _)
termination_by cs.length

/-- If the scanner fails, everything before the place that cannot be read is tiled. -/
theorem tiling_of_scan_eq_error {loc : Location} {before cs : List Char} {f : Fault}
    (marks : loc.Marks before) (h : scan loc cs = .error f) :
    ∃ body text gap c rest e, cs = text ++ gap ++ c :: rest ∧ Tiling before body text ∧
      Trivia false gap ∧ readLexeme c rest = .error e ∧
      f = e.toFault (loc.afterAll (text ++ gap)) := by
  obtain ⟨trivia, scanned⟩ | ⟨gap, c, rest, e, rfl, trivia, read, scanned⟩ |
    ⟨gap, c, more, left, kind, split, trivia, read, scanned⟩ := scan_cases loc cs
  · rw [scanned] at h
    cases h
  · rw [scanned] at h
    cases h
    exact ⟨[], [], gap, c, rest, e, rfl, .nil before, trivia, read, rfl⟩
  · have shorter : left.length < cs.length := by
      rw [split]
      simp only [List.length_append, List.length_cons]
      omega
    rw [scanned] at h
    cases scannedRest : scan (loc.afterAll (gap ++ c :: more)) left with
    | ok others =>
        rw [scannedRest] at h
        cases h
    | error f =>
        rw [scannedRest] at h
        cases h
        subst split
        obtain ⟨body, text, last, c', rest, e, rfl, tiling, trivia', unread, rfl⟩ :=
          tiling_of_scan_eq_error (marks.afterAll (gap ++ c :: more)) scannedRest
        rw [← List.append_assoc] at tiling
        refine ⟨⟨kind, String.ofList (c :: more), loc.afterAll gap⟩ :: body,
          gap ++ c :: more ++ text, last, c', rest, e, by simp, ?_, trivia', unread, ?_⟩
        · exact tiling.piece marks trivia (readLexeme_ne_eof read) (List.cons_ne_nil _ _)
        · rw [← Location.afterAll_append, ← List.append_assoc]
termination_by cs.length

/-! ### Slices in order -/

/-- Each token of a row stands for a piece of the text that begins at its position. -/
theorem Tiling.exists_slice {before text : List Char} {tokens : List Token}
    (tiling : Tiling before tokens text) {t : Token} (mem : t ∈ tokens) :
    t.kind ≠ .eof ∧ t.lexeme ≠ "" ∧
      ∃ front back, text = front ++ t.lexeme.toList ++ back ∧ t.loc.Marks (before ++ front) := by
  induction tiling with
  | nil before => cases mem
  | @cons before gap text u others trivia kind nonempty marks rest ih =>
      rcases List.mem_cons.mp mem with rfl | other
      · exact ⟨kind, nonempty, gap, text, rfl, marks⟩
      · obtain ⟨kind', nonempty', front, back, rfl, marks'⟩ := ih other
        refine ⟨kind', nonempty', gap ++ u.lexeme.toList ++ front, back, by simp, ?_⟩
        simpa using marks'

/-- The first token begins and ends before the second begins. -/
def Precedes (t u : Token) : Prop :=
  t.loc.offset < u.loc.offset ∧ t.loc.offset + t.lexeme.utf8ByteSize ≤ u.loc.offset

theorem Precedes.of_le {t u : Token} (nonempty : t.lexeme ≠ "")
    (ends : t.loc.offset + t.lexeme.utf8ByteSize ≤ u.loc.offset) : Precedes t u := by
  have : t.lexeme.utf8ByteSize ≠ 0 := mt String.utf8ByteSize_eq_zero_iff.mp nonempty
  exact ⟨by omega, ends⟩

/-- A token of a row ends with the row at the latest. -/
theorem Tiling.end_le {before text : List Char} {tokens : List Token}
    (tiling : Tiling before tokens text) {t : Token} (mem : t ∈ tokens) :
    t.loc.offset + t.lexeme.utf8ByteSize ≤ (String.ofList (before ++ text)).utf8ByteSize := by
  obtain ⟨-, -, front, back, rfl, marks⟩ := tiling.exists_slice mem
  rw [marks.offset]
  simp only [String.ofList_append, String.utf8ByteSize_append, String.ofList_toList]
  omega

/-- The tokens of a row follow one another. -/
theorem Tiling.pairwise {before text : List Char} {tokens : List Token}
    (tiling : Tiling before tokens text) : tokens.Pairwise Precedes := by
  induction tiling with
  | nil before => exact .nil
  | @cons before gap text t others trivia kind nonempty marks rest ih =>
      refine .cons (fun u mem => .of_le nonempty ?_) ih
      obtain ⟨-, -, front, back, -, marks'⟩ := rest.exists_slice mem
      rw [marks.offset, marks'.offset]
      simp only [String.ofList_append, String.utf8ByteSize_append, String.ofList_toList]
      exact Nat.le_add_right _ _

/-- The last token of a source text, and no other, is the end token, and all of them have known
positions. -/
theorem tokens_of_tokenize {source : String} {tokens : List Token}
    (h : tokenize source = .ok tokens) : ∃ body last, tokens = body ++ [last] ∧
      last.kind = .eof ∧ (∀ t ∈ body, t.kind ≠ .eof) ∧ ∀ t ∈ tokens, t.loc.isKnown = true := by
  obtain ⟨body, text, gap, rfl, -, tiling, -⟩ := tiling_of_scan_eq_ok Location.marks_start h
  refine ⟨body, _, rfl, rfl, fun t mem => (tiling.exists_slice mem).1, fun t mem => ?_⟩
  rcases List.mem_append.mp mem with inBody | isLast
  · obtain ⟨-, -, front, back, -, marks⟩ := tiling.exists_slice inBody
    exact marks.isKnown
  · rw [List.mem_singleton.mp isLast]
    exact (Location.marks_start.afterAll source.toList).isKnown

/-- The tokens stand for pieces of the text, in order, and everything of the text that lies between
them is a gap. -/
structure Covers (tokens : List Token) (text : List Char) : Prop where
  tiling : Tiling [] tokens text
  slices : ∀ t ∈ tokens, t.kind ≠ .eof ∧ t.lexeme ≠ "" ∧
    ∃ front back, text = front ++ t.lexeme.toList ++ back ∧ t.loc.Marks front
  ordered : tokens.Pairwise Precedes

theorem Tiling.covers {text : List Char} {tokens : List Token} (tiling : Tiling [] tokens text) :
    Covers tokens text where
  tiling := tiling
  slices _ mem := tiling.exists_slice mem
  ordered := tiling.pairwise

/-- A source text is covered by its tokens up to a last gap, behind which the one end token stands.
If it cannot be read, it is covered up to the gap before the first piece that is no lexeme, and the
fault is that of this piece, at its position. -/
theorem tokens_tile_source (source : String) :
    match tokenize source with
    | .ok tokens => ∃ body last text gap, tokens = body ++ [last] ∧
        source.toList = text ++ gap ∧ Covers body text ∧ Trivia true gap ∧
        last.kind = .eof ∧ last.loc.Marks source.toList ∧
        last.loc.offset = source.utf8ByteSize ∧ tokens.Pairwise Precedes
    | .error f => ∃ body text gap c rest e loc, source.toList = text ++ gap ++ c :: rest ∧
        Covers body text ∧ Trivia false gap ∧ readLexeme c rest = .error e ∧
        f = e.toFault loc ∧ f.location? = some loc ∧ loc.Marks (text ++ gap) := by
  cases scanned : tokenize source with
  | ok tokens =>
      obtain ⟨body, text, gap, rfl, split, tiling, trivia⟩ :=
        tiling_of_scan_eq_ok Location.marks_start scanned
      have marks : (Location.start.afterAll source.toList).Marks source.toList :=
        Location.marks_start.afterAll source.toList
      have offset : (Location.start.afterAll source.toList).offset = source.utf8ByteSize := by
        rw [marks.offset, String.ofList_toList]
      refine ⟨body, _, text, gap, rfl, split, tiling.covers, trivia, rfl, marks, offset, ?_⟩
      refine List.pairwise_append.mpr ⟨tiling.pairwise, List.pairwise_singleton _ _, ?_⟩
      intro t mem u last
      rw [List.mem_singleton.mp last]
      obtain ⟨-, nonempty, -⟩ := tiling.exists_slice mem
      refine .of_le nonempty (Nat.le_trans (tiling.end_le mem) ?_)
      rw [marks.offset, split, List.nil_append, String.ofList_append, String.utf8ByteSize_append]
      exact Nat.le_add_right _ _
  | error f =>
      obtain ⟨body, text, gap, c, rest, e, split, tiling, trivia, unread, rfl⟩ :=
        tiling_of_scan_eq_error Location.marks_start scanned
      have marks : (Location.start.afterAll (text ++ gap)).Marks (text ++ gap) :=
        Location.marks_start.afterAll (text ++ gap)
      refine ⟨body, text, gap, c, rest, e, _, split, tiling.covers, trivia, unread, rfl, ?_, marks⟩
      rw [LexicalError.toFault_eq]
      exact if_pos marks.isKnown

end Source

end HostScript
