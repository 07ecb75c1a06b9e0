import HostScript.Proofs.Grammar.Writing
import HostScript.Proofs.Parsing
import HostScript.Proofs.Places

/-!
# Parsing ends, at the end token

The grammar goes through its tokens from the first to the last and never past the end token. Every
rule either makes something and stops further on in the stream, or fails at a token of it. A rule
that makes an expression or a statement has read at least one token, so no repetition runs out of
rounds.

## Implementation notes

A parser that looks past the end of its stream sees a token that is not there, and a repetition that
runs out of rounds just stops. Neither raises anything. Both are ruled out in the same way, by
putting further tokens behind the stream: a parser that does neither does the same in front of any
of them. With more tokens left the repetitions have more rounds, so a repetition is compared with
itself for two numbers of rounds.
-/

namespace HostScript.Source

variable {α β : Type}

/-! ### Cursors in a stream -/

/-- A token of the stream stands at the position. -/
def StandsAt (tokens : List Token) (loc : Location) : Prop := ∃ t ∈ tokens, t.loc = loc

/-- The cursor is at a token of the stream, and the end token is still to come. -/
structure Cursor.In (tokens : List Token) (c : Cursor) : Prop where
  suffix : c.rest <:+ tokens
  ends : ∃ last, c.rest.getLast? = some last ∧ last.kind = .eof

/-- The cursor with further tokens behind those that are left. -/
def Cursor.followedBy (c : Cursor) (extra : List Token) : Cursor :=
  { c with rest := c.rest ++ extra }

section Cursors

variable {tokens extra : List Token} {c : Cursor}

theorem Cursor.In.rest_eq (inside : c.In tokens) : c.rest = c.next :: c.advance.rest := by
  obtain ⟨line, rest⟩ := c
  cases rest with
  | nil =>
      obtain ⟨last, end_, -⟩ := inside.ends
      cases end_
  | cons t rest => rfl

theorem Cursor.In.length_pos (inside : c.In tokens) : 0 < c.rest.length := by
  rw [inside.rest_eq]
  exact Nat.succ_pos _

theorem Cursor.In.standsAt (inside : c.In tokens) : StandsAt tokens c.next.loc := by
  refine ⟨c.next, inside.suffix.subset ?_, rfl⟩
  rw [inside.rest_eq]
  exact List.mem_cons_self

theorem Cursor.In.next_followedBy (inside : c.In tokens) : (c.followedBy extra).next = c.next := by
  unfold Cursor.followedBy Cursor.next
  rw [inside.rest_eq]
  rfl

theorem Cursor.In.advance_followedBy (inside : c.In tokens) :
    (c.followedBy extra).advance = c.advance.followedBy extra := by
  have rest : (c.followedBy extra).rest.tail = c.advance.rest ++ extra := by
    unfold Cursor.followedBy
    rw [inside.rest_eq]
    rfl
  rw [Cursor.advance, inside.next_followedBy, rest]
  rfl

/-- Behind a token that is not the end token there is one more. -/
theorem Cursor.In.advance (inside : c.In tokens) (some_ : c.next.kind ≠ .eof) :
    c.advance.In tokens := by
  obtain ⟨last, end_, eof⟩ := inside.ends
  refine ⟨(List.tail_suffix c.rest).trans inside.suffix, last, ?_, eof⟩
  rw [inside.rest_eq, List.getLast?_cons] at end_
  cases end_' : c.advance.rest.getLast? with
  | none =>
      rw [end_'] at end_
      cases end_
      exact absurd eof some_
  | some other =>
      rw [end_'] at end_
      exact end_

theorem Cursor.In.length_advance (inside : c.In tokens) :
    c.advance.rest.length + 1 = c.rest.length := by
  rw [inside.rest_eq]
  rfl

end Cursors

/-! ### Parsers that proceed -/

/-- What the parser does at the cursor. If it makes something, it has read at least `gain` tokens
and not the end token. If it fails, it does so at a token of the stream. Its counterpart does the
same where further tokens follow. -/
structure ProceedsAt (tokens extra : List Token) (gain : Nat) (p p' : Parser α) (Q : α → Prop)
    (c : Cursor) : Prop where
  made : ∀ a c', p c = .ok (a, c') → c'.In tokens ∧ c'.rest.length + gain ≤ c.rest.length ∧ Q a
  failed : ∀ f, p c = .error f → ∃ d, f = .failure .malformed d ∧ StandsAt tokens d.loc
  blind : p' (c.followedBy extra) = (p c).map fun r => (r.1, r.2.followedBy extra)

/-- The parser proceeds wherever it is in the stream. -/
def Proceeds (tokens extra : List Token) (gain : Nat) (p : Parser α) (Q : α → Prop) : Prop :=
  ∀ c, c.In tokens → ProceedsAt tokens extra gain p p Q c

section Rules

variable {tokens extra : List Token} {g : Nat} {p p' : Parser α} {next next' : α → Parser β}
  {Q : α → Prop} {R : β → Prop} {c : Cursor} {a : α}

namespace ProceedsAt

theorem pure (inside : c.In tokens) (h : Q a) :
    ProceedsAt tokens extra 0 (Pure.pure a) (Pure.pure a) Q c where
  made := by
    rintro _ _ ⟨⟩
    exact ⟨inside, Nat.le_refl _, h⟩
  failed := by
    rintro _ ⟨⟩
  blind := rfl

theorem fewer {g' : Nat} (h : ProceedsAt tokens extra g p p' Q c) (le : g' ≤ g) :
    ProceedsAt tokens extra g' p p' Q c where
  made a c' made := by
    obtain ⟨inside, read, ha⟩ := h.made a c' made
    exact ⟨inside, by omega, ha⟩
  failed := h.failed
  blind := h.blind

/-- The tokens that two parsers read, one after the other, add up. -/
theorem bind {first : Nat} (h : ProceedsAt tokens extra first p p' Q c)
    (then_ : ∀ a c₁, c₁.In tokens → c₁.rest.length + first ≤ c.rest.length → Q a →
      ProceedsAt tokens extra (g - first) (next a) (next' a) R c₁) :
    ProceedsAt tokens extra g (p >>= next) (p' >>= next') R c := by
  cases result : p c with
  | error f =>
      have fails : (p >>= next) c = .error f := by
        change Except.bind (p c) _ = _
        rw [result]
        rfl
      refine ⟨?_, ?_, ?_⟩
      · intro b c' made
        rw [fails] at made
        cases made
      · intro f' failed
        rw [fails] at failed
        cases failed
        exact h.failed f result
      · rw [fails]
        change Except.bind (p' (c.followedBy extra)) _ = _
        rw [h.blind, result]
        rfl
  | ok r =>
      obtain ⟨a, c₁⟩ := r
      obtain ⟨inside, read, ha⟩ := h.made a c₁ result
      have rest := then_ a c₁ inside read ha
      have same : p' (c.followedBy extra) = .ok (a, c₁.followedBy extra) := by
        rw [h.blind, result]
        rfl
      refine ⟨?_, ?_, ?_⟩
      · intro b c' made
        rw [bind_eq_of_ok result] at made
        obtain ⟨inside', read', hb⟩ := rest.made b c' made
        exact ⟨inside', by omega, hb⟩
      · intro f failed
        rw [bind_eq_of_ok result] at failed
        exact rest.failed f failed
      · rw [bind_eq_of_ok result, bind_eq_of_ok same]
        exact rest.blind

theorem map {make : α → β} (h : ProceedsAt tokens extra g p p' Q c)
    (made : ∀ a, Q a → R (make a)) :
    ProceedsAt tokens extra g (make <$> p) (make <$> p') R c := by
  rw [map_eq_pure_bind, map_eq_pure_bind]
  refine h.bind fun a c₁ inside _ ha => ?_
  rw [Nat.sub_self]
  exact .pure inside (made a ha)

/-- A parser that reads nothing is left out. -/
theorem look (seen : p c = .ok (a, c))
    (seen' : p' (c.followedBy extra) = .ok (a, c.followedBy extra))
    (then_ : ProceedsAt tokens extra g (next a) (next' a) R c) :
    ProceedsAt tokens extra g (p >>= next) (p' >>= next') R c where
  made b c' made := by
    rw [bind_eq_of_ok seen] at made
    exact then_.made b c' made
  failed f failed := by
    rw [bind_eq_of_ok seen] at failed
    exact then_.failed f failed
  blind := by
    rw [bind_eq_of_ok seen, bind_eq_of_ok seen']
    exact then_.blind

theorem peek {next next' : Token → Parser β} (inside : c.In tokens)
    (then_ : ProceedsAt tokens extra g (next c.next) (next' c.next) R c) :
    ProceedsAt tokens extra g (Source.peek >>= next) (Source.peek >>= next') R c := by
  refine look rfl ?_ then_
  rw [Source.peek, inside.next_followedBy]

theorem onSameLine {next next' : Bool → Parser β} (inside : c.In tokens)
    (then_ : ∀ b, ProceedsAt tokens extra g (next b) (next' b) R c) :
    ProceedsAt tokens extra g (Source.onSameLine >>= next) (Source.onSameLine >>= next') R c := by
  refine look rfl ?_ (then_ _)
  rw [Source.onSameLine, inside.next_followedBy]
  rfl

theorem atMark {m : Mark} {next next' : Bool → Parser β} (inside : c.In tokens)
    (yes : c.next.kind = .mark m → ProceedsAt tokens extra g (next true) (next' true) R c)
    (no : ProceedsAt tokens extra g (next false) (next' false) R c) :
    ProceedsAt tokens extra g (Source.atMark m >>= next) (Source.atMark m >>= next') R c := by
  refine look rfl ?_ (?_ : ProceedsAt tokens extra g (next (c.next.kind == .mark m)) _ R c)
  · rw [Source.atMark, inside.next_followedBy]
  · cases here : c.next.kind == .mark m with
    | true => exact yes (eq_of_beq here)
    | false => exact no

/-- Reading a token that is not the end token. -/
theorem advance {next next' : Unit → Parser β} (inside : c.In tokens)
    (some_ : c.next.kind ≠ .eof)
    (then_ : c.advance.In tokens →
      ProceedsAt tokens extra (g - 1) (next ()) (next' ()) R c.advance) :
    ProceedsAt tokens extra g (Source.advance >>= next) (Source.advance >>= next') R c where
  made b c' made := by
    obtain ⟨inside', read, hb⟩ := (then_ (inside.advance some_)).made b c' made
    have := inside.length_advance
    exact ⟨inside', by omega, hb⟩
  failed f failed := (then_ (inside.advance some_)).failed f failed
  blind := by
    rw [bind_eq_of_ok (p := Source.advance) (a := ()) rfl, inside.advance_followedBy]
    exact (then_ (inside.advance some_)).blind

/-- A repetition has at least as many rounds as there are tokens left. -/
theorem rounds {loop : Nat → Parser β}
    (h : ∀ n n', c.rest.length ≤ n → c.rest.length ≤ n' →
      ProceedsAt tokens extra g (loop n) (loop n') R c) :
    ProceedsAt tokens extra g (tokensLeft >>= loop) (tokensLeft >>= loop) R c := by
  have more : c.rest.length ≤ (c.followedBy extra).rest.length := by
    simp [Cursor.followedBy]
  have both := h _ _ (Nat.le_refl _) more
  exact ⟨both.made, both.failed, both.blind⟩

/-- A parser that fails at a token. -/
theorem fails {d : Detail} (at_ : StandsAt tokens d.loc)
    (failed : p c = .error (.failure .malformed d))
    (failed' : p' (c.followedBy extra) = .error (.failure .malformed d)) :
    ProceedsAt tokens extra g p p' Q c where
  made a c' made := by
    rw [failed] at made
    cases made
  failed f failed_ := by
    rw [failed] at failed_
    cases failed_
    exact ⟨d, rfl, at_⟩
  blind := by
    rw [failed, failed']
    rfl

theorem reject {message : String} {loc : Location} (at_ : StandsAt tokens loc) :
    ProceedsAt tokens extra g (Source.reject (.malformed message loc))
      (Source.reject (.malformed message loc)) Q c :=
  fails at_ rfl rfl

theorem expected (inside : c.In tokens) (what : String) :
    ProceedsAt tokens extra g (Source.expected what) (Source.expected what) Q c := by
  refine fails inside.standsAt rfl ?_
  rw [Source.expected, inside.next_followedBy]
  rfl

theorem expectedWithHint (inside : c.In tokens) (what hint : String) :
    ProceedsAt tokens extra g (Source.expectedWithHint what hint)
      (Source.expectedWithHint what hint) Q c := by
  refine fails inside.standsAt rfl ?_
  rw [Source.expectedWithHint, inside.next_followedBy]
  rfl

theorem nestingTooDeep (inside : c.In tokens) :
    ProceedsAt tokens extra g Source.nestingTooDeep Source.nestingTooDeep Q c := by
  refine fails inside.standsAt rfl ?_
  rw [Source.nestingTooDeep, inside.next_followedBy]
  rfl

theorem ite {b : Prop} [Decidable b] {q q' : Parser α} (yes : ProceedsAt tokens extra g p p' Q c)
    (no : ProceedsAt tokens extra g q q' Q c) :
    ProceedsAt tokens extra g (if b then p else q) (if b then p' else q') Q c := by
  split
  · exact yes
  · exact no

/-- Reading a token if it is of a given kind. -/
theorem eat {eats : Parser Bool} {kind : TokenKind} {next next' : Bool → Parser β}
    (eats_eq : ∀ c : Cursor, eats c =
      if c.next.kind == kind then .ok (true, c.advance) else .ok (false, c))
    (some_ : kind ≠ .eof) (inside : c.In tokens)
    (yes : c.advance.In tokens → c.advance.rest.length + 1 = c.rest.length →
      ProceedsAt tokens extra (g - 1) (next true) (next' true) R c.advance)
    (no : ProceedsAt tokens extra g (next false) (next' false) R c) :
    ProceedsAt tokens extra g (eats >>= next) (eats >>= next') R c := by
  by_cases here : c.next.kind = kind
  · have eaten : eats c = .ok (true, c.advance) := by
      rw [eats_eq, here, if_pos (beq_self_eq_true kind)]
    have eaten' : eats (c.followedBy extra) = .ok (true, c.advance.followedBy extra) := by
      rw [eats_eq, inside.next_followedBy, inside.advance_followedBy, here,
        if_pos (beq_self_eq_true kind)]
    have read : ProceedsAt tokens extra g (Source.advance >>= fun _ => next true)
        (Source.advance >>= fun _ => next' true) R c :=
      advance inside (here ▸ some_) fun inside' => yes inside' inside.length_advance
    refine ⟨?_, ?_, ?_⟩
    · rw [bind_eq_of_ok eaten]
      exact read.made
    · rw [bind_eq_of_ok eaten]
      exact read.failed
    · rw [bind_eq_of_ok eaten, bind_eq_of_ok eaten', ← inside.advance_followedBy]
      exact read.blind
  · have unlike : ¬ (c.next.kind == kind) = true := mt eq_of_beq here
    refine look ?_ ?_ no
    · rw [eats_eq, if_neg unlike]
    · rw [eats_eq, inside.next_followedBy, if_neg unlike]

theorem eatMark {m : Mark} {next next' : Bool → Parser β} (inside : c.In tokens)
    (yes : c.advance.In tokens → c.advance.rest.length + 1 = c.rest.length →
      ProceedsAt tokens extra (g - 1) (next true) (next' true) R c.advance)
    (no : ProceedsAt tokens extra g (next false) (next' false) R c) :
    ProceedsAt tokens extra g (Source.eatMark m >>= next) (Source.eatMark m >>= next') R c :=
  eat (fun _ => rfl) TokenKind.noConfusion inside yes no

theorem eatKeyword {k : Keyword} {next next' : Bool → Parser β} (inside : c.In tokens)
    (yes : c.advance.In tokens →
      ProceedsAt tokens extra (g - 1) (next true) (next' true) R c.advance)
    (no : ProceedsAt tokens extra g (next false) (next' false) R c) :
    ProceedsAt tokens extra g (Source.eatKeyword k >>= next) (Source.eatKeyword k >>= next') R c :=
  eat (fun _ => rfl) TokenKind.noConfusion inside (fun inside' _ => yes inside') no

end ProceedsAt

theorem proceeds_expectMark (m : Mark) (what : String) :
    Proceeds tokens extra 1 (expectMark m what) fun _ => True := by
  intro c inside
  refine .eatMark inside (fun inside' _ => ?_) ?_
  · exact .pure inside' trivial
  · exact .expected inside what

theorem proceeds_expectWord (word : String) :
    Proceeds tokens extra 1 (expectWord word) fun _ => True := by
  intro c inside
  refine .peek inside ?_
  split
  · next here =>
    have some_ : c.next.kind ≠ .eof := by simp [eq_of_beq here]
    rw [← bind_pure advance]
    exact .advance inside some_ fun inside' => .pure inside' trivial
  · exact .expected inside _

theorem proceeds_eatWord (word : String) :
    Proceeds tokens extra 0 (eatWord word) fun _ => True := by
  intro c inside
  refine .onSameLine inside fun sameLine => .peek inside ?_
  split
  · next here =>
    have some_ : c.next.kind ≠ .eof := by simp [eq_of_beq (Bool.and_eq_true_iff.mp here).2]
    exact .advance inside some_ fun inside' => .pure inside' trivial
  · exact .pure inside trivial

theorem proceeds_expectVariable :
    Proceeds tokens extra 1 expectVariable fun _ => True := by
  intro c inside
  refine .peek inside ?_
  split
  · next here => exact .advance inside (by simp [here]) fun inside' => .pure inside' trivial
  · next here => exact .advance inside (by simp [here]) fun inside' => .pure inside' trivial
  · exact .expected inside _

end Rules

section Grammar

variable {tokens extra : List Token}

/-! ### Lists and operators -/

section Lists

variable {item : Parser α} {Q : α → Prop} {c : Cursor}

/-- By induction on the rounds; each of them reads a comma. -/
theorem proceeds_commaTail (h : Proceeds tokens extra 1 item Q) {n n' : Nat}
    (inside : c.In tokens) (enough : c.rest.length ≤ n) (enough' : c.rest.length ≤ n') :
    ProceedsAt tokens extra 0 (commaTail item n) (commaTail item n') (∀ a ∈ ·, Q a) c := by
  have some_ := inside.length_pos
  induction n generalizing n' c with
  | zero => omega
  | succ n ih =>
      obtain ⟨n', rfl⟩ : ∃ k, n' = k + 1 := ⟨n' - 1, by omega⟩
      refine .eatMark inside (fun inside₁ read₁ => ?_) (.pure inside nofun)
      refine (h _ inside₁).bind fun a c₂ inside₂ read₂ ha => ?_
      refine (ih inside₂ (by omega) (by omega) inside₂.length_pos).bind
        fun as c₃ inside₃ _ has => ?_
      exact .pure inside₃ (List.forall_mem_cons.mpr ⟨ha, has⟩)

theorem proceeds_commaList (h : Proceeds tokens extra 1 item Q) :
    Proceeds tokens extra 1 (commaList item) (∀ a ∈ ·, Q a) := by
  intro c inside
  refine (h c inside).bind fun a c₁ inside₁ _ ha => .rounds fun n n' enough enough' => ?_
  refine (proceeds_commaTail h inside₁ enough enough').bind fun as c₂ inside₂ _ has => ?_
  exact .pure inside₂ (List.forall_mem_cons.mpr ⟨ha, has⟩)

/-- By induction on the rounds; each of them reads an item. -/
theorem proceeds_itemsUntil (close : Mark) (h : Proceeds tokens extra 1 item Q) {n n' : Nat}
    (inside : c.In tokens) (enough : c.rest.length ≤ n) (enough' : c.rest.length ≤ n') :
    ProceedsAt tokens extra 0 (itemsUntil close item n) (itemsUntil close item n')
      (∀ a ∈ ·, Q a) c := by
  have some_ := inside.length_pos
  induction n generalizing n' c with
  | zero => omega
  | succ n ih =>
      obtain ⟨n', rfl⟩ : ∃ k, n' = k + 1 := ⟨n' - 1, by omega⟩
      refine .atMark inside (fun _ => .pure inside nofun) ?_
      refine (h c inside).bind fun a c₁ inside₁ read₁ ha => ?_
      refine .eatMark inside₁ (fun inside₂ read₂ => ?_) (.pure inside₁ (by simpa using ha))
      refine (ih inside₂ (by omega) (by omega) inside₂.length_pos).bind
        fun as c₃ inside₃ _ has => ?_
      exact .pure inside₃ (List.forall_mem_cons.mpr ⟨ha, has⟩)

end Lists

section Operators

variable {level : Level} {operand : Parser Expr} {c : Cursor}

/-- By induction on the rounds; each of them reads an operator. -/
theorem proceeds_chainFrom (h : Proceeds tokens extra 1 operand (Expr.Placed (StandsAt tokens)))
    {n n' : Nat} {left : Expr} (inside : c.In tokens) (enough : c.rest.length ≤ n)
    (enough' : c.rest.length ≤ n') (placed : left.Placed (StandsAt tokens)) :
    ProceedsAt tokens extra 0 (chainFrom level operand n left) (chainFrom level operand n' left)
      (Expr.Placed (StandsAt tokens)) c := by
  have some_ := inside.length_pos
  induction n generalizing n' c left with
  | zero => omega
  | succ n ih =>
      obtain ⟨n', rfl⟩ : ∃ k, n' = k + 1 := ⟨n' - 1, by omega⟩
      rw [chainFrom, chainFrom]
      refine .look (operatorAt_eq level c) ?_ ?_
      · rw [operatorAt_eq, inside.next_followedBy]
      · cases found : operatorOf? level c.next.kind with
        | none => exact .pure inside placed
        | some op =>
            have some_ : c.next.kind ≠ .eof := by
              intro eof
              rw [eof] at found
              cases found
            have read := inside.length_advance
            refine .advance inside some_ fun inside₁ => ?_
            refine (h _ inside₁).bind fun right c₂ inside₂ read₂ hright => ?_
            exact ih inside₂ (by omega) (by omega) ⟨placed.loc, placed, hright⟩ inside₂.length_pos

theorem proceeds_chain (level : Level)
    (h : Proceeds tokens extra 1 operand (Expr.Placed (StandsAt tokens))) :
    Proceeds tokens extra 1 (chain level operand) (Expr.Placed (StandsAt tokens)) := by
  intro c inside
  refine (h c inside).bind fun left c₁ inside₁ _ hleft => .rounds fun n n' enough enough' => ?_
  exact proceeds_chainFrom h inside₁ enough enough' hleft

theorem proceeds_exprOver {unary : Parser Expr}
    (h : Proceeds tokens extra 1 unary (Expr.Placed (StandsAt tokens))) :
    Proceeds tokens extra 1 (exprOver unary) (Expr.Placed (StandsAt tokens)) := by
  unfold exprOver
  generalize levels = levels
  induction levels generalizing unary with
  | nil => exact h
  | cons level rest ih => exact ih (proceeds_chain level h)

end Operators

/-! ### Primary forms and accesses -/

theorem proceeds_memberName : Proceeds tokens extra 1 memberName fun _ => True := by
  intro c inside
  refine .peek inside ?_
  split
  · next here => exact .advance inside (by simp [here]) fun inside' => .pure inside' trivial
  · next here => exact .advance inside (by simp [here]) fun inside' => .pure inside' trivial
  · exact .expected inside _

theorem proceeds_entryKey : Proceeds tokens extra 1 entryKey fun _ => True := by
  intro c inside
  have key (s : String) (some_ : c.next.kind ≠ .eof) :
      ProceedsAt tokens extra 1 (do advance; return s) (do advance; return s) (fun _ => True) c :=
    .advance inside some_ fun inside' => .pure inside' trivial
  refine .peek inside ?_
  split
  · next here => exact key _ (by simp [here])
  · next here => exact key _ (by simp [here])
  · next here => exact key _ (by simp [here])
  · next here => exact key _ (by simp [here])
  · next here => exact key _ (by simp [here])
  · exact .expected inside _

theorem proceeds_calledName : Proceeds tokens extra 1 calledName fun _ => True := by
  intro c inside
  refine .peek inside ?_
  split
  · next here => exact .advance inside (by simp [here]) fun inside' => .pure inside' trivial
  · exact .expected inside _

/-- Items between brackets, of which something is made. -/
theorem proceeds_between {α : Type} {Q : α → Prop} {item : Parser α} {close : Mark} {what : String}
    {make : List α → Expr} {c : Cursor} (hitem : Proceeds tokens extra 1 item Q)
    (inside : c.In tokens) (some_ : c.next.kind ≠ .eof)
    (made : ∀ as, (∀ a ∈ as, Q a) → (make as).Placed (StandsAt tokens)) :
    ProceedsAt tokens extra 1
      (do advance; let as ← itemsUntil close item (← tokensLeft); expectMark close what
          return make as)
      (do advance; let as ← itemsUntil close item (← tokensLeft); expectMark close what
          return make as)
      (Expr.Placed (StandsAt tokens)) c := by
  refine .advance inside some_ fun inside₁ => .rounds fun n n' enough enough' => ?_
  refine (proceeds_itemsUntil close hitem inside₁ enough enough').bind fun as c₂ inside₂ _ has => ?_
  refine (proceeds_expectMark _ _ c₂ inside₂).bind fun _ c₃ inside₃ _ _ => ?_
  exact .pure inside₃ (made as has)

section Primary

variable {expr : Parser Expr} {c : Cursor}
  (h : Proceeds tokens extra 1 expr (Expr.Placed (StandsAt tokens)))
include h

theorem proceeds_arguments :
    Proceeds tokens extra 1 (arguments expr) (Expr.PlacedAll (StandsAt tokens)) := by
  intro c inside
  have closed (es : List Expr) (c₁ : Cursor) (inside₁ : c₁.In tokens)
      (placed : ∀ e ∈ es, e.Placed (StandsAt tokens)) :
      ProceedsAt tokens extra 1 (do expectMark .closeParen "')' after arguments"; return es)
        (do expectMark .closeParen "')' after arguments"; return es)
        (Expr.PlacedAll (StandsAt tokens)) c₁ :=
    (proceeds_expectMark _ _ c₁ inside₁).bind fun _ c₂ inside₂ _ _ =>
      .pure inside₂ (Expr.placedAll_iff.mpr placed)
  refine .atMark inside (fun _ => closed [] c inside nofun) ?_
  refine (proceeds_commaList h c inside).bind fun es c₁ inside₁ _ placed => ?_
  exact (closed es c₁ inside₁ placed).fewer (Nat.zero_le 1)

theorem proceeds_objectEntry : Proceeds tokens extra 1 (objectEntry expr)
    fun entry => entry.2.Placed (StandsAt tokens) := by
  intro c inside
  refine (proceeds_entryKey c inside).bind fun key c₁ inside₁ _ _ => ?_
  refine (proceeds_expectMark _ _ c₁ inside₁).bind fun _ c₂ inside₂ _ _ => ?_
  refine (h c₂ inside₂).bind fun e c₃ inside₃ _ placed => ?_
  exact .pure inside₃ placed

theorem proceeds_primaryOver :
    Proceeds tokens extra 1 (primaryOver expr) (Expr.Placed (StandsAt tokens)) := by
  intro c inside
  have here_ := inside.standsAt
  have single (e : Expr) (some_ : c.next.kind ≠ .eof) (placed : e.Placed (StandsAt tokens)) :
      ProceedsAt tokens extra 1 (do advance; return e) (do advance; return e)
        (Expr.Placed (StandsAt tokens)) c :=
    .advance inside some_ fun inside' => .pure inside' placed
  refine .peek inside ?_
  dsimp only
  split
  · next here => exact single _ (by simp [here]) here_
  · next here => exact single _ (by simp [here]) here_
  · next here => exact single _ (by simp [here]) here_
  · next here => exact single _ (by simp [here]) here_
  · next name here =>
    refine .advance inside (by simp [here]) fun inside₁ => .atMark inside₁ (fun opened => ?_) ?_
    · refine .onSameLine inside₁ fun sameLine => .ite ?_ (.pure inside₁ here_)
      refine .advance inside₁ (by simp [opened]) fun inside₂ => ?_
      refine (proceeds_arguments h _ inside₂).bind
        fun es c₃ inside₃ _ placed => ?_
      exact .pure inside₃ ⟨here_, placed⟩
    · exact .onSameLine inside₁ fun sameLine => .pure inside₁ here_
  · next here => exact single _ (by simp [here]) here_
  · next here => exact single _ (by simp [here]) here_
  · next here => exact single _ (by simp [here]) here_
  · next here => exact single _ (by simp [here]) here_
  · next here =>
    refine .advance inside (by simp [here]) fun inside₁ => ?_
    refine (proceeds_calledName _ inside₁).bind fun name c₂ inside₂ _ _ => ?_
    refine (proceeds_expectMark _ _ c₂ inside₂).bind fun _ c₃ inside₃ _ _ => ?_
    refine (proceeds_arguments h c₃ inside₃).bind fun es c₄ inside₄ _ placed => ?_
    exact .pure inside₄ ⟨here_, placed⟩
  · next here =>
    refine .advance inside (by simp [here]) fun inside₁ => ?_
    refine (h _ inside₁).bind fun e c₂ inside₂ _ placed => ?_
    refine (proceeds_expectMark _ _ c₂ inside₂).bind fun _ c₃ inside₃ _ _ => ?_
    exact .pure inside₃ ⟨here_, placed⟩
  · next here =>
    exact proceeds_between h inside (by simp [here]) fun es placed =>
      ⟨here_, Expr.placedAll_iff.mpr placed⟩
  · next here =>
    exact proceeds_between (proceeds_objectEntry h) inside (by simp [here]) fun entries placed =>
      ⟨here_, Expr.placedEntries_iff.mpr placed⟩
  · exact .expected inside _

/-- By induction on the rounds; each of them reads an access. -/
theorem proceeds_accessesFrom {n n' : Nat} {base : Expr} (inside : c.In tokens)
    (enough : c.rest.length ≤ n) (enough' : c.rest.length ≤ n')
    (placed : base.Placed (StandsAt tokens)) :
    ProceedsAt tokens extra 0 (accessesFrom expr n base) (accessesFrom expr n' base)
      (Expr.Placed (StandsAt tokens)) c := by
  have some_ := inside.length_pos
  induction n generalizing n' c base with
  | zero => omega
  | succ n ih =>
      obtain ⟨n', rfl⟩ : ∃ k, n' = k + 1 := ⟨n' - 1, by omega⟩
      have here_ := inside.standsAt
      have read := inside.length_advance
      refine .peek inside ?_
      split
      · next here =>
        refine .advance inside (by simp [here]) fun inside₁ => ?_
        refine (proceeds_memberName _ inside₁).bind fun key c₂ inside₂ read₂ _ => ?_
        exact ih inside₂ (by omega) (by omega) ⟨here_, placed⟩ inside₂.length_pos
      · next here =>
        refine .onSameLine inside fun sameLine => .ite ?_ (.pure inside placed)
        refine .advance inside (by simp [here]) fun inside₁ => ?_
        refine (h _ inside₁).bind fun position c₂ inside₂ read₂ hposition => ?_
        refine (proceeds_expectMark _ _ c₂ inside₂).bind fun _ c₃ inside₃ read₃ _ => ?_
        exact ih inside₃ (by omega) (by omega) ⟨here_, placed, hposition⟩ inside₃.length_pos
      · exact .pure inside placed

theorem proceeds_postfixOver :
    Proceeds tokens extra 1 (postfixOver expr) (Expr.Placed (StandsAt tokens)) := by
  intro c inside
  refine (proceeds_primaryOver h c inside).bind fun base c₁ inside₁ _ hbase => ?_
  exact .rounds fun n n' enough enough' => proceeds_accessesFrom h inside₁ enough enough' hbase

end Primary

/-- By induction on the levels that are left. -/
theorem proceeds_unaryWithin (room : Nat) :
    Proceeds tokens extra 1 (unaryWithin room) (Expr.Placed (StandsAt tokens)) := by
  induction room with
  | zero => exact fun c inside => .nestingTooDeep inside
  | succ room ih =>
      intro c inside
      have negated (op : UnaryOp) (some_ : c.next.kind ≠ .eof) :
          ProceedsAt tokens extra 1 (do advance; return .unary c.next.loc op (← unaryWithin room))
            (do advance; return .unary c.next.loc op (← unaryWithin room))
            (Expr.Placed (StandsAt tokens)) c := by
        refine .advance inside some_ fun inside₁ => ?_
        refine (ih _ inside₁).bind fun e c₂ inside₂ _ placed => ?_
        exact .pure inside₂ ⟨inside.standsAt, placed⟩
      refine .peek inside ?_
      split
      · next here => exact negated .neg (by simp [here])
      · next here => exact negated .not (by simp [here])
      · exact proceeds_postfixOver (proceeds_exprOver ih) c inside

theorem proceeds_exprWithin (room : Nat) :
    Proceeds tokens extra 1 (exprWithin room) (Expr.Placed (StandsAt tokens)) :=
  proceeds_exprOver (proceeds_unaryWithin room)

end Grammar

end HostScript.Source
