import HostScript.Proofs.Grammar.Writing
import HostScript.Proofs.Parsing

/-!
# What the grammar of expressions reads

Whatever an expression parser makes is in normal form, and the tokens it has read are a writing
of it: all tokens from where it began to where it has stopped, each of them once. The rules of
the grammar are gone through one by one. Each is given what is known of the parsers that it is
written over, so the whole is an induction on the levels that are left.
-/

namespace HostScript.Source

/-! ### Tokens that a parser reads -/

section Reading

variable {α β : Type}

/-- If the parser succeeds at the cursor, the tokens that it has read fit what it makes. -/
def ReadsAt (p : Parser α) (Q : α → List TokenKind → Prop) (c : Cursor) : Prop :=
  ∀ a c', p c = .ok (a, c') → ∃ front, c.rest = front ++ c'.rest ∧ Q a (front.map Token.kind)

/-- Wherever the parser succeeds, the tokens that it has read fit what it makes. -/
def Reads (p : Parser α) (Q : α → List TokenKind → Prop) : Prop := ∀ c, ReadsAt p Q c

variable {p : Parser α} {next : α → Parser β} {Q : α → List TokenKind → Prop}
  {R : β → List TokenKind → Prop} {c : Cursor} {a : α}

/-- A token that is not the end token is the first one that is left. -/
theorem Cursor.rest_eq_cons (h : c.next.kind ≠ .eof) : c.rest = c.next :: c.advance.rest := by
  obtain ⟨last, rest⟩ := c
  cases rest with
  | nil => exact (h rfl).elim
  | cons t rest => rfl

namespace ReadsAt

theorem pure (h : Q a []) : ReadsAt (Pure.pure a : Parser α) Q c := by
  rintro _ _ ⟨⟩
  exact ⟨[], rfl, h⟩

theorem expected (what : String) : ReadsAt (Source.expected what : Parser α) Q c := by
  rintro _ _ ⟨⟩

theorem bind (first : ReadsAt p Q c)
    (then_ : ∀ a ts, Q a ts → ∀ c₁, ReadsAt (next a) (fun b us => R b (ts ++ us)) c₁) :
    ReadsAt (p >>= next) R c := by
  intro b c' made
  obtain ⟨a, c₁, ha, hb⟩ := bind_eq_ok_iff.mp made
  obtain ⟨front, split, fits⟩ := first a c₁ ha
  obtain ⟨front', split', fits'⟩ := then_ a _ fits c₁ b c' hb
  refine ⟨front ++ front', ?_, ?_⟩
  · rw [split, split', List.append_assoc]
  · rw [List.map_append]
    exact fits'

theorem mono {Q' : α → List TokenKind → Prop} (h : ReadsAt p Q c)
    (weaker : ∀ a ts, Q a ts → Q' a ts) : ReadsAt p Q' c := by
  intro a c' made
  obtain ⟨front, split, fits⟩ := h a c' made
  exact ⟨front, split, weaker a _ fits⟩

/-- What only looks at the tokens reads none. -/
theorem look (seen : ∀ c, ∃ a, p c = .ok (a, c)) (then_ : ∀ a, ReadsAt (next a) R c) :
    ReadsAt (p >>= next) R c := by
  intro b c' made
  obtain ⟨a, ha⟩ := seen c
  rw [bind_eq_of_ok ha] at made
  exact then_ a b c' made

theorem peek {next : Token → Parser β} (h : ReadsAt (next c.next) R c) :
    ReadsAt (Source.peek >>= next) R c := h

theorem advance {next : Unit → Parser β} (some_ : c.next.kind ≠ .eof)
    (then_ : ReadsAt (next ()) (fun b us => R b (c.next.kind :: us)) c.advance) :
    ReadsAt (Source.advance >>= next) R c := by
  intro b c' made
  obtain ⟨front, split, fits⟩ := then_ b c' made
  refine ⟨c.next :: front, ?_, fits⟩
  rw [Cursor.rest_eq_cons some_, split, List.cons_append]

theorem atMark {m : Mark} {next : Bool → Parser β}
    (yes : c.next.kind = .mark m → ReadsAt (next true) R c) (no : ReadsAt (next false) R c) :
    ReadsAt (Source.atMark m >>= next) R c := by
  intro b c' made
  rw [bind_eq_of_ok (a := c.next.kind == .mark m) rfl] at made
  cases here : c.next.kind == .mark m with
  | true =>
      rw [here] at made
      exact yes (eq_of_beq here) b c' made
  | false =>
      rw [here] at made
      exact no b c' made

theorem ite {b : Prop} [Decidable b] {p' : Parser α} (first : ReadsAt p Q c)
    (second : ReadsAt p' Q c) : ReadsAt (if b then p else p') Q c := by
  split
  · exact first
  · exact second

end ReadsAt

theorem reads_eatMark (m : Mark) :
    Reads (eatMark m) fun b ts => ts = if b then [.mark m] else [] := by
  intro c b c' made
  simp only [eatMark] at made
  split at made
  · next here =>
    have mark : c.next.kind = .mark m := eq_of_beq here
    have some_ : c.next.kind ≠ .eof := by simp [mark]
    cases made
    exact ⟨[c.next], Cursor.rest_eq_cons some_, by simp [mark]⟩
  · cases made
    exact ⟨[], rfl, rfl⟩

theorem reads_expectMark (m : Mark) (what : String) :
    Reads (expectMark m what) fun _ ts => ts = [.mark m] := by
  intro c
  refine (reads_eatMark m c).bind ?_
  rintro (_ | _) _ rfl c₁
  · exact .expected what
  · exact .pure rfl

end Reading

/-! ### Lists -/

section Lists

variable {α : Type} {W : α → List TokenKind → Prop} {item : Parser α}

theorem reads_commaTail (h : Reads item W) (n : Nat) :
    Reads (commaTail item n) fun as ts =>
      as = [] ∧ ts = [] ∨ ∃ us, as ≠ [] ∧ ts = .mark .comma :: us ∧ Items W false as us := by
  induction n with
  | zero => exact fun c => .pure (.inl ⟨rfl, rfl⟩)
  | succ n ih =>
      intro c
      refine (reads_eatMark .comma c).bind ?_
      rintro (_ | _) _ rfl c₁
      · exact .pure (.inl ⟨rfl, rfl⟩)
      · refine (h c₁).bind fun a ts first c₂ => (ih c₂).bind ?_
        rintro as us (⟨rfl, rfl⟩ | ⟨us, some_, rfl, others⟩) c₃
        · exact .pure (.inr ⟨ts, List.cons_ne_nil _ _, by simp, .last first⟩)
        · refine .pure (.inr ⟨_, List.cons_ne_nil _ _, ?_, .comma first others (absurd · some_)⟩)
          simp

theorem reads_commaList (h : Reads item W) : Reads (commaList item) (Items W false) := by
  refine fun c => (h c).bind fun a ts first c₁ => .look (fun _ => ⟨_, rfl⟩) fun n => ?_
  refine (reads_commaTail h n c₁).bind ?_
  rintro as us (⟨rfl, rfl⟩ | ⟨us, some_, rfl, others⟩) c₂
  · exact .pure (by simpa using .last first)
  · exact .pure (by simpa using .comma first others (absurd · some_))

theorem reads_itemsUntil (close : Mark) (h : Reads item W) (n : Nat) :
    Reads (itemsUntil close item n) (Items W true) := by
  induction n with
  | zero => exact fun c => .pure .none
  | succ n ih =>
      refine fun c => .look (fun _ => ⟨_, rfl⟩) fun closed => .ite (.pure .none) ?_
      refine (h c).bind fun a ts first c₁ => (reads_eatMark .comma c₁).bind ?_
      rintro (_ | _) _ rfl c₂
      · exact .pure (by simpa using .last first)
      · refine (ih c₂).bind fun as us others c₃ => .pure ?_
        simpa using .comma first others fun _ => rfl

end Lists

/-! ### Binary operators -/

/-- The expression is in normal form and of rank at least `q`, and the tokens are a writing of
it. -/
structure WellWritten (q : Nat) (e : Expr) (ts : List TokenKind) : Prop where
  normal : e.Normal
  rank : q ≤ e.rank
  writing : e.Writing ts

theorem WellWritten.mono {q q' : Nat} {e : Expr} {ts : List TokenKind} (h : WellWritten q e ts)
    (le : q' ≤ q) : WellWritten q' e ts :=
  ⟨h.normal, Nat.le_trans le h.rank, h.writing⟩

section Operators

variable {q : Nat} {level : Level} {operand : Parser Expr}

/-- By induction on the rounds: what is built up from the left stays well written. -/
theorem reads_chainFrom (of : level.OfRank q) (h : Reads operand (WellWritten (q + 1))) (n : Nat)
    {left : Expr} {ts : List TokenKind} (hleft : WellWritten q left ts) :
    Reads (chainFrom level operand n left) fun e us => WellWritten q e (ts ++ us) := by
  induction n generalizing left ts with
  | zero => exact fun c => .pure (by simpa using hleft)
  | succ n ih =>
      intro c e c' made
      rw [chainFrom, bind_eq_of_ok (operatorAt_eq level c)] at made
      cases found : operatorOf? level c.next.kind with
      | none =>
          rw [found] at made
          cases made
          exact ⟨[], rfl, by simpa using hleft⟩
      | some op =>
          rw [found] at made
          obtain ⟨here, rank⟩ := of.operatorOf?_eq_some_iff.mp found
          refine ReadsAt.advance (R := fun e us => WellWritten q e (ts ++ us)) (by simp [here])
            ?_ e c' made
          refine (h _).bind fun right us hright c₁ => ?_
          have joined : WellWritten q (.binary left.loc op left right)
              (ts ++ .mark op.mark :: us) := by
            refine ⟨⟨?_, ?_, hleft.normal, hright.normal⟩, ?_, .binary hleft.writing hright.writing⟩
            · rw [rank]
              exact hleft.rank
            · rw [rank]
              exact hright.rank
            · exact Nat.le_of_eq rank.symm
          refine (ih joined c₁).mono fun e vs he => ?_
          simpa [here] using he

theorem reads_chain (of : level.OfRank q) (h : Reads operand (WellWritten (q + 1))) :
    Reads (chain level operand) (WellWritten q) :=
  fun c => (h c).bind fun _ _ hleft c₁ => .look (fun _ => ⟨_, rfl⟩) fun n =>
    reads_chainFrom of h n (hleft.mono (Nat.le_succ q)) c₁

/-- Each level takes the operands of the one before and makes those of the next. -/
theorem reads_levels {levels : List Level} (ranked : RankedFrom q levels)
    (h : Reads operand (WellWritten q)) :
    Reads (levels.foldl (fun operand level => chain level operand) operand)
      (WellWritten (q - levels.length)) := by
  induction levels generalizing q operand with
  | nil => exact h
  | cons level rest ih =>
      obtain ⟨q, rfl, of, others⟩ := ranked
      simpa using ih others (reads_chain of h)

theorem reads_exprOver {unary : Parser Expr} (h : Reads unary (WellWritten 7)) :
    Reads (exprOver unary) (WellWritten 1) :=
  reads_levels rankedFrom_levels h

end Operators

/-! ### Primary forms and accesses -/

theorem reads_memberName :
    Reads memberName fun key ts => ∃ kind, kind.memberName? = some key ∧ ts = [kind] := by
  intro c
  refine .peek ?_
  split
  · next s here => exact .advance (by simp [here]) (.pure ⟨_, by rw [here]; rfl, rfl⟩)
  · next k here => exact .advance (by simp [here]) (.pure ⟨_, by rw [here]; rfl, rfl⟩)
  · exact .expected _

theorem reads_entryKey :
    Reads entryKey fun key ts => ∃ kind, kind.entryKey? = some key ∧ ts = [kind] := by
  intro c
  refine .peek ?_
  split
  · next s here => exact .advance (by simp [here]) (.pure ⟨_, by rw [here]; rfl, rfl⟩)
  · next s here => exact .advance (by simp [here]) (.pure ⟨_, by rw [here]; rfl, rfl⟩)
  · next s here => exact .advance (by simp [here]) (.pure ⟨_, by rw [here]; rfl, rfl⟩)
  · next k here => exact .advance (by simp [here]) (.pure ⟨_, by rw [here]; rfl, rfl⟩)
  · next x here => exact .advance (by simp [here]) (.pure ⟨_, by rw [here]; rfl, rfl⟩)
  · exact .expected _

theorem reads_calledName : Reads calledName fun name ts => ts = [.name name] := by
  intro c
  refine .peek ?_
  split
  · next s here => exact .advance (by simp [here]) (.pure (by rw [here]))
  · exact .expected _

section Primary

variable {expr : Parser Expr}

theorem Items.of_wellWritten {trailing : Bool} {es : List Expr} {ts : List TokenKind}
    (h : Items (WellWritten 1) trailing es ts) :
    Expr.NormalAll es ∧ Items Expr.Writing trailing es ts := by
  induction h with
  | none => exact ⟨trivial, .none⟩
  | last item => exact ⟨⟨item.normal, trivial⟩, .last item.writing⟩
  | comma item others end_ ih => exact ⟨⟨item.normal, ih.1⟩, .comma item.writing ih.2 end_⟩

theorem Items.entries_of_wellWritten {entries : List (String × Expr)} {ts : List TokenKind}
    (h : Items (Entry (WellWritten 1)) true entries ts) :
    Expr.NormalEntries entries ∧ Items (Entry Expr.Writing) true entries ts := by
  induction h with
  | none => exact ⟨trivial, .none⟩
  | last item =>
      obtain ⟨named, value⟩ := item
      exact ⟨⟨value.normal, trivial⟩, .last ⟨named, value.writing⟩⟩
  | comma item others end_ ih =>
      obtain ⟨named, value⟩ := item
      exact ⟨⟨value.normal, ih.1⟩, .comma ⟨named, value.writing⟩ ih.2 end_⟩

theorem reads_objectEntry (h : Reads expr (WellWritten 1)) :
    Reads (objectEntry expr) (Entry (WellWritten 1)) := by
  refine fun c => (reads_entryKey c).bind ?_
  rintro key _ ⟨kind, named, rfl⟩ c₁
  refine (reads_expectMark .colon _ c₁).bind ?_
  rintro _ _ rfl c₂
  exact (h c₂).bind fun e ts value c₃ => .pure (by simpa using .mk named value)

theorem reads_arguments (h : Reads expr (WellWritten 1)) :
    Reads (arguments expr) fun es ts => ∃ us, ts = us ++ [.mark .closeParen] ∧
      Items (WellWritten 1) false es us := by
  have closed (es : List Expr) (us : List TokenKind) (items : Items (WellWritten 1) false es us)
      (c : Cursor) : ReadsAt (do expectMark .closeParen "')' after arguments"; return es)
        (fun es ts => ∃ vs, us ++ ts = vs ++ [.mark .closeParen] ∧
          Items (WellWritten 1) false es vs) c := by
    refine (reads_expectMark .closeParen _ c).bind ?_
    rintro _ _ rfl c₁
    exact .pure ⟨us, by simp, items⟩
  refine fun c => .look (fun _ => ⟨_, rfl⟩) fun empty => ?_
  dsimp only
  split
  · exact closed [] [] .none c
  · exact (reads_commaList h c).bind closed

/-- What is made of items between brackets is well written if the whole is a writing of it. -/
theorem reads_between {α : Type} {W : α → List TokenKind → Prop} {item : Parser α} {close : Mark}
    (h : Reads item W) {make : List α → Expr} {c : Cursor} (some_ : c.next.kind ≠ .eof)
    (made : ∀ as ts, Items W true as ts →
      WellWritten 8 (make as) (c.next.kind :: (ts ++ [.mark close]))) (what : String) :
    ReadsAt (do
        advance
        let as ← itemsUntil close item (← tokensLeft)
        expectMark close what
        return make as)
      (WellWritten 8) c := by
  refine .advance some_ (.look (fun _ => ⟨_, rfl⟩) fun n => ?_)
  refine (reads_itemsUntil close h n _).bind fun as ts items c₁ => ?_
  refine (reads_expectMark close what c₁).bind ?_
  rintro _ _ rfl c₂
  exact .pure (by simpa using made as ts items)

/-- Each primary form is well written. -/
theorem reads_primaryOver (h : Reads expr (WellWritten 1)) :
    Reads (primaryOver expr) (WellWritten 8) := by
  intro c
  refine .peek ?_
  have constant (v : Literal) (here : c.next.kind = v.token) (some_ : c.next.kind ≠ .eof) :
      ReadsAt (do advance; return Expr.lit c.next.loc v) (WellWritten 8) c :=
    .advance some_ (.pure ⟨trivial, Nat.le_refl 8, here ▸ .lit _ v⟩)
  dsimp only
  split
  · next x here => exact constant (.number x) here (by simp [here])
  · next s here => exact constant (.text s) here (by simp [here])
  · next parts here =>
    exact .advance (by simp [here]) (.pure ⟨trivial, Nat.le_refl 8, here ▸ .template _ parts⟩)
  · next name here =>
    exact .advance (by simp [here]) (.pure ⟨trivial, Nat.le_refl 8, here ▸ .dollar _ name⟩)
  · next name here =>
    refine .advance (by simp [here]) (.atMark (fun opened => ?_) ?_)
    · refine .look (fun _ => ⟨_, rfl⟩) fun sameLine => .ite ?_ ?_
      · refine .advance (by simp [opened]) ((reads_arguments h _).bind ?_)
        rintro es _ ⟨us, rfl, items⟩ c₁
        obtain ⟨normal, writing⟩ := Items.of_wellWritten items
        exact .pure ⟨normal, Nat.le_refl 8, by simpa [here, opened] using .call writing⟩
      · exact .pure ⟨trivial, Nat.le_refl 8, here ▸ .bare _ name⟩
    · refine .look (fun _ => ⟨_, rfl⟩) fun sameLine => ?_
      exact .pure ⟨trivial, Nat.le_refl 8, here ▸ .bare _ name⟩
  · next here => exact constant (.bool true) here (by simp [here])
  · next here => exact constant (.bool false) here (by simp [here])
  · next here => exact constant .null here (by simp [here])
  · next here => exact constant .undefined here (by simp [here])
  · next here =>
    refine .advance (by simp [here]) ((reads_calledName _).bind ?_)
    rintro name _ rfl c₁
    refine (reads_expectMark .openParen _ c₁).bind ?_
    rintro _ _ rfl c₂
    refine (reads_arguments h c₂).bind ?_
    rintro es _ ⟨us, rfl, items⟩ c₃
    obtain ⟨normal, writing⟩ := Items.of_wellWritten items
    exact .pure ⟨normal, Nat.le_refl 8, by simpa [here] using .callWord writing⟩
  · next here =>
    refine .advance (by simp [here]) ((h _).bind fun e ts inner c₁ => ?_)
    refine (reads_expectMark .closeParen _ c₁).bind ?_
    rintro _ _ rfl c₂
    exact .pure ⟨inner.normal, Nat.le_refl 8, by simpa [here] using .group inner.writing⟩
  · next here =>
    refine reads_between h (by simp [here]) (fun es ts items => ?_) _
    obtain ⟨normal, writing⟩ := Items.of_wellWritten items
    exact ⟨normal, Nat.le_refl 8, here ▸ .array writing⟩
  · next here =>
    refine reads_between (reads_objectEntry h) (by simp [here]) (fun entries ts items => ?_) _
    obtain ⟨normal, writing⟩ := Items.entries_of_wellWritten items
    exact ⟨normal, Nat.le_refl 8, here ▸ .object writing⟩
  · exact .expected _

/-- By induction on the rounds: accesses to what is well written are well written. -/
theorem reads_accessesFrom (h : Reads expr (WellWritten 1)) (n : Nat) {base : Expr}
    {ts : List TokenKind} (hbase : WellWritten 8 base ts) :
    Reads (accessesFrom expr n base) fun e us => WellWritten 8 e (ts ++ us) := by
  induction n generalizing base ts with
  | zero => exact fun c => .pure (by simpa using hbase)
  | succ n ih =>
      intro c
      have stopped : ReadsAt (Pure.pure base) (fun e us => WellWritten 8 e (ts ++ us)) c :=
        .pure (by simpa using hbase)
      refine .peek ?_
      split
      · next here =>
        refine .advance (by simp [here]) ((reads_memberName _).bind ?_)
        rintro key _ ⟨kind, named, rfl⟩ c₁
        have access : WellWritten 8 (.member c.next.loc base key) (ts ++ [.mark .dot, kind]) :=
          ⟨⟨hbase.rank, hbase.normal⟩, Nat.le_refl 8, .member hbase.writing named⟩
        exact (ih access c₁).mono fun e us he => by simpa [here] using he
      · next here =>
        refine .look (fun _ => ⟨_, rfl⟩) fun sameLine => .ite ?_ stopped
        refine .advance (by simp [here]) ((h _).bind fun position us hposition c₁ => ?_)
        refine (reads_expectMark .closeBracket _ c₁).bind ?_
        rintro _ _ rfl c₂
        have access : WellWritten 8 (.index c.next.loc base position)
            (ts ++ .mark .openBracket :: (us ++ [.mark .closeBracket])) :=
          ⟨⟨hbase.rank, hbase.normal, hposition.normal⟩, Nat.le_refl 8,
            .index hbase.writing hposition.writing⟩
        exact (ih access c₂).mono fun e vs he => by simpa [here] using he
      · exact stopped

theorem reads_postfixOver (h : Reads expr (WellWritten 1)) :
    Reads (postfixOver expr) (WellWritten 8) :=
  fun c => (reads_primaryOver h c).bind fun _ _ hbase c₁ => .look (fun _ => ⟨_, rfl⟩) fun n =>
    reads_accessesFrom h n hbase c₁

end Primary

/-! ### The whole grammar -/

/-- By induction on the levels that are left. -/
theorem reads_unaryWithin (room : Nat) : Reads (unaryWithin room) (WellWritten 7) := by
  induction room with
  | zero => rintro c _ _ ⟨⟩
  | succ room ih =>
      intro c
      have negated (op : UnaryOp) (here : c.next.kind = .mark op.mark) :
          ReadsAt (do advance; return Expr.unary c.next.loc op (← unaryWithin room))
            (WellWritten 7) c := by
        refine .advance (by simp [here]) ((ih _).bind fun e ts operand c₁ => .pure ?_)
        exact ⟨⟨operand.rank, operand.normal⟩, Nat.le_refl 7,
          by simpa [here] using .unary operand.writing⟩
      refine .peek ?_
      split
      · next here => exact negated .neg here
      · next here => exact negated .not here
      · exact (reads_postfixOver (reads_exprOver ih) c).mono fun e ts he => he.mono (by decide)

/-- Whatever the grammar makes of the tokens at a cursor is an expression in normal form, and what
it has read, from the cursor to where it has stopped, is a writing of it. -/
theorem exprWithin_sound {room : Nat} {c c' : Cursor} {e : Expr}
    (h : exprWithin room c = .ok (e, c')) :
    e.Normal ∧ ∃ front, c.rest = front ++ c'.rest ∧ e.Writing (front.map Token.kind) := by
  obtain ⟨front, split, made⟩ := reads_exprOver (reads_unaryWithin room) c e c' h
  exact ⟨made.normal, front, split, made.writing⟩

/-- The tokens of `-a.b * [c, $d,] ;`, all on the first line. -/
def productTokens : List Token :=
  [.mark .minus, .name "a", .mark .dot, .name "b", .mark .star, .mark .openBracket, .name "c",
    .mark .comma, .var "d", .mark .comma, .mark .closeBracket, .mark .semicolon].map
      fun kind => ⟨kind, "", .start⟩

/-- A product is read from them, up to the semicolon. -/
theorem productTokens_sound : ∃ e c', exprWithin 2 ⟨0, productTokens⟩ = .ok (e, c') ∧
    c'.rest.map Token.kind = [.mark .semicolon] ∧ e.Normal ∧
    ∃ front, productTokens = front ++ c'.rest ∧ e.Writing (front.map Token.kind) := by
  have made : exprWithin 2 ⟨0, productTokens⟩ = .ok (_, _) := rfl
  exact ⟨_, _, made, rfl, exprWithin_sound made⟩

end HostScript.Source
