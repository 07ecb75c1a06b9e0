import HostScript.Proofs.Grammar.Writing
import HostScript.Proofs.Parsing
import HostScript.Proofs.Relocation

/-!
# Two streams up to a seam

Two streams of tokens are the same up to a token that ends a statement, but for the positions of
their tokens, and go on in their own ways behind it. What the grammar makes of the one stream it
makes of the other one too, at the positions there, as long as it stays in front of the seam: no
rule looks behind a semicolon or the end token before it has read it.

## Implementation notes

Only success is compared, since a failure may be anywhere in the stream that goes on. Repetitions
are bounded by the number of tokens that are left, so both streams are taken to be of one length;
further tokens behind an end token change nothing. The only rule that reads a token at the seam is
the one for whole statements, which takes the semicolon behind them. It is left out here, and
everything else ends where it began, in front of the seam.
-/

namespace HostScript.Source

variable {α β γ δ : Type}

/-- The tokens that end a statement, whatever it is. -/
def endsStatement : TokenKind → Bool
  | .eof | .mark .semicolon => true
  | _ => false

/-- Where two streams part: the last token that they have in common, how the positions before it
have moved, and what follows in each of them. The first stream is over at the seam. -/
structure Seam where
  move : Location → Location
  token : Token
  left : List Token
  right : List Token
  /-- Neighbours on one line stay on one line. -/
  lines : ∀ l l', (move l).line = (move l').line ↔ l.line = l'.line
  ends : endsStatement token.kind = true
  long : left.length = right.length
  finished : (left.head?.getD endToken).kind = .eof

/-- The same tokens are left up to the seam. -/
def Cursor.Abuts (s : Seam) (c d : Cursor) : Prop :=
  ∃ front, c.rest = front ++ s.token :: s.left ∧
    d.rest = front.map (Token.relocate s.move) ++ s.token.relocate s.move :: s.right

/-- The cursors are at the same token in front of the seam. -/
structure Cursor.Faces (s : Seam) (c d : Cursor) : Prop where
  rest : c.Abuts s d
  sameLine : (c.next.loc.line == c.lastLine) = (d.next.loc.line == d.lastLine)

/-- The cursors are right behind the seam. -/
structure Cursor.Past (s : Seam) (c d : Cursor) : Prop where
  left : c.rest = s.left
  right : d = ⟨(s.move s.token.loc).line, s.right⟩

section Cursors

variable {s : Seam} {c d : Cursor}

theorem Cursor.Abuts.next_eq (abuts : c.Abuts s d) : d.next = c.next.relocate s.move := by
  obtain ⟨front, left, right⟩ := abuts
  rw [Cursor.next, Cursor.next, left, right]
  cases front with
  | nil => rfl
  | cons t front => rfl

theorem Cursor.Faces.length_eq (faces : c.Faces s d) : c.rest.length = d.rest.length := by
  obtain ⟨front, left, right⟩ := faces.rest
  simp [left, right, s.long]

/-- The next token lies in front of the seam, and the one behind it is still not behind the seam;
or the next token is the one at the seam. -/
theorem Cursor.Faces.advance_cases (faces : c.Faces s d) :
    c.advance.Faces s d.advance ∨ c.next = s.token ∧ c.advance.Past s d.advance := by
  have moved := faces.rest.next_eq
  obtain ⟨front, left, right⟩ := faces.rest
  cases front with
  | nil =>
      have here : c.next = s.token := by
        rw [Cursor.next, left]
        rfl
      refine .inr ⟨here, ?_, ?_⟩
      · rw [Cursor.advance, left]
        rfl
      · rw [Cursor.advance, moved, here, right]
        rfl
  | cons t front =>
      have abuts : c.advance.Abuts s d.advance := by
        refine ⟨front, ?_, ?_⟩
        · rw [Cursor.advance, left]
          rfl
        · rw [Cursor.advance, right]
          rfl
      refine .inl ⟨abuts, ?_⟩
      rw [abuts.next_eq, Cursor.advance, Cursor.advance, moved, Bool.eq_iff_iff, beq_iff_eq,
        beq_iff_eq]
      exact (s.lines _ _).symm

theorem Cursor.Faces.advance (faces : c.Faces s d) (goesOn : endsStatement c.next.kind = false) :
    c.advance.Faces s d.advance := by
  obtain further | ⟨here, -⟩ := faces.advance_cases
  · exact further
  · rw [here, s.ends] at goesOn
    cases goesOn

end Cursors

/-! ### Parsers that follow -/

/-- If the first parser makes something at its cursor, the second one makes the same of the other
stream, as far as it is looked at, and both stop at the same token in front of the seam. -/
def FollowsAt (s : Seam) (view : α → γ) (p : Parser α) (q : Parser γ) (c d : Cursor) : Prop :=
  ∀ a c', p c = .ok (a, c') → ∃ d', q d = .ok (view a, d') ∧ c'.Faces s d'

/-- The second parser follows the first one wherever they are in front of the seam. -/
def Follows (s : Seam) (view : α → γ) (p : Parser α) (q : Parser γ) : Prop :=
  ∀ c d, c.Faces s d → FollowsAt s view p q c d

namespace FollowsAt

variable {s : Seam} {view : α → γ} {view' : β → δ} {p : Parser α} {q : Parser γ}
  {next : α → Parser β} {next' : γ → Parser δ} {c d : Cursor} {a : α}

theorem pure {b : γ} (faces : c.Faces s d) (same : view a = b) :
    FollowsAt s view (Pure.pure a) (Pure.pure b) c d := by
  rintro _ _ ⟨⟩
  exact ⟨d, same ▸ rfl, faces⟩

theorem bind (first : FollowsAt s view p q c d)
    (then_ : ∀ a c₁ d₁, c₁.Faces s d₁ → FollowsAt s view' (next a) (next' (view a)) c₁ d₁) :
    FollowsAt s view' (p >>= next) (q >>= next') c d := by
  intro b c' made
  obtain ⟨a, c₁, made₁, made₂⟩ := bind_eq_ok_iff.mp made
  obtain ⟨d₁, made₁', faces₁⟩ := first a c₁ made₁
  rw [bind_eq_of_ok made₁']
  exact then_ a c₁ d₁ faces₁ b c' made₂

theorem map {make : α → β} {make' : γ → δ} (h : FollowsAt s view p q c d)
    (same : ∀ a, view' (make a) = make' (view a)) :
    FollowsAt s view' (make <$> p) (make' <$> q) c d := by
  rw [map_eq_pure_bind, map_eq_pure_bind]
  exact h.bind fun a c₁ d₁ faces₁ => .pure faces₁ (same a)

theorem ite {b : Prop} [Decidable b] {p' : Parser α} {q' : Parser γ}
    (yes : FollowsAt s view p q c d) (no : FollowsAt s view p' q' c d) :
    FollowsAt s view (if b then p else p') (if b then q else q') c d := by
  split
  · exact yes
  · exact no

/-- Nothing is asked of the other stream where the parser fails. -/
theorem fails {f : Fault} (failed : p c = .error f) : FollowsAt s view p q c d := by
  intro a c' made
  rw [failed] at made
  cases made

theorem expected (what : String) : FollowsAt s view (Source.expected what) q c d := fails rfl

theorem reject (f : Fault) : FollowsAt s view (Source.reject f) q c d := fails rfl

/-- Parsers that read nothing are left out. -/
theorem look {b : γ} (seen : p c = .ok (a, c)) (seen' : q d = .ok (b, d))
    (then_ : FollowsAt s view' (next a) (next' b) c d) :
    FollowsAt s view' (p >>= next) (q >>= next') c d := by
  intro b c' made
  rw [bind_eq_of_ok seen] at made
  rw [bind_eq_of_ok seen']
  exact then_ b c' made

theorem peek {next : Token → Parser β} {next' : Token → Parser δ} (faces : c.Faces s d)
    (then_ : ∀ kind lexeme loc, c.next = ⟨kind, lexeme, loc⟩ →
      FollowsAt s view' (next ⟨kind, lexeme, loc⟩) (next' ⟨kind, lexeme, s.move loc⟩) c d) :
    FollowsAt s view' (Source.peek >>= next) (Source.peek >>= next') c d := by
  have seen : Source.peek d = .ok (c.next.relocate s.move, d) := by
    rw [← faces.rest.next_eq]
    rfl
  exact look rfl seen (then_ _ _ _ rfl)

theorem onSameLine {next : Bool → Parser β} {next' : Bool → Parser δ} (faces : c.Faces s d)
    (then_ : ∀ b, FollowsAt s view' (next b) (next' b) c d) :
    FollowsAt s view' (Source.onSameLine >>= next) (Source.onSameLine >>= next') c d := by
  refine look rfl ?_ (then_ (c.next.loc.line == c.lastLine))
  rw [faces.sameLine]
  rfl

theorem tokensLeft {next : Nat → Parser β} {next' : Nat → Parser δ} (faces : c.Faces s d)
    (then_ : ∀ n, FollowsAt s view' (next n) (next' n) c d) :
    FollowsAt s view' (Source.tokensLeft >>= next) (Source.tokensLeft >>= next') c d := by
  refine look rfl ?_ (then_ c.rest.length)
  rw [faces.length_eq]
  rfl

theorem atMark {m : Mark} {next : Bool → Parser β} {next' : Bool → Parser δ} (faces : c.Faces s d)
    (then_ : ∀ b, (b = true → c.next.kind = .mark m) → FollowsAt s view' (next b) (next' b) c d) :
    FollowsAt s view' (Source.atMark m >>= next) (Source.atMark m >>= next') c d := by
  refine look rfl ?_ (then_ (c.next.kind == .mark m) eq_of_beq)
  rw [Source.atMark, faces.rest.next_eq]
  rfl

/-- Reading a token that does not end a statement. -/
theorem advance {next : Unit → Parser β} {next' : Unit → Parser δ} {t : Token}
    (faces : c.Faces s d) (here : c.next = t) (goesOn : endsStatement t.kind = false)
    (then_ : ∀ c₁ d₁, c₁.Faces s d₁ → FollowsAt s view' (next ()) (next' ()) c₁ d₁) :
    FollowsAt s view' (Source.advance >>= next) (Source.advance >>= next') c d := by
  subst here
  exact then_ _ _ (faces.advance goesOn)

/-- Reading a token if it is of a kind that does not end a statement. -/
theorem eat {eats : Parser Bool} {kind : TokenKind} {next : Bool → Parser β}
    {next' : Bool → Parser δ} (eats_eq : ∀ c : Cursor, eats c =
      if c.next.kind == kind then .ok (true, c.advance) else .ok (false, c))
    (goesOn : endsStatement kind = false) (faces : c.Faces s d)
    (then_ : ∀ b c₁ d₁, c₁.Faces s d₁ → FollowsAt s view' (next b) (next' b) c₁ d₁) :
    FollowsAt s view' (eats >>= next) (eats >>= next') c d := by
  have same : d.next.kind = c.next.kind := by
    rw [faces.rest.next_eq]
    rfl
  have eaten : FollowsAt s id eats eats c d := by
    intro found c' made
    rw [eats_eq] at made
    rw [eats_eq, same]
    split at made
    · next here =>
      cases made
      exact ⟨_, if_pos here, faces.advance ((eq_of_beq here).symm ▸ goesOn)⟩
    · next other =>
      cases made
      exact ⟨_, if_neg other, faces⟩
  exact eaten.bind then_

theorem eatMark {m : Mark} {next : Bool → Parser β} {next' : Bool → Parser δ}
    (faces : c.Faces s d) (goesOn : endsStatement (.mark m) = false)
    (then_ : ∀ b c₁ d₁, c₁.Faces s d₁ → FollowsAt s view' (next b) (next' b) c₁ d₁) :
    FollowsAt s view' (Source.eatMark m >>= next) (Source.eatMark m >>= next') c d :=
  eat (fun _ => rfl) goesOn faces then_

theorem eatKeyword {k : Keyword} {next : Bool → Parser β} {next' : Bool → Parser δ}
    (faces : c.Faces s d)
    (then_ : ∀ b c₁ d₁, c₁.Faces s d₁ → FollowsAt s view' (next b) (next' b) c₁ d₁) :
    FollowsAt s view' (Source.eatKeyword k >>= next) (Source.eatKeyword k >>= next') c d :=
  eat (fun _ => rfl) rfl faces then_

end FollowsAt

section Grammar

variable {s : Seam}

theorem follows_expectMark {m : Mark} (what : String) (goesOn : endsStatement (.mark m) = false) :
    Follows s id (expectMark m what) (expectMark m what) := by
  intro c d faces
  exact .eatMark faces goesOn fun found c₁ d₁ faces₁ => .ite (.pure faces₁ rfl) (.expected what)

theorem follows_expectWord (word : String) :
    Follows s id (expectWord word) (expectWord word) := by
  intro c d faces
  refine .peek faces fun kind lexeme loc here => ?_
  dsimp only
  split
  · next found =>
    rw [← bind_pure advance]
    refine .advance faces here ?_ fun c₁ d₁ faces₁ => .pure faces₁ rfl
    rw [eq_of_beq found]
    rfl
  · exact .expected _

theorem follows_eatWord (word : String) : Follows s id (eatWord word) (eatWord word) := by
  intro c d faces
  refine .onSameLine faces fun sameLine => .peek faces fun kind lexeme loc here => ?_
  dsimp only
  split
  · next found =>
    refine .advance faces here ?_ fun c₁ d₁ faces₁ => .pure faces₁ rfl
    rw [eq_of_beq (Bool.and_eq_true_iff.mp found).2]
    rfl
  · exact .pure faces rfl

theorem follows_expectVariable : Follows s id expectVariable expectVariable := by
  intro c d faces
  refine .peek faces fun kind lexeme loc here => ?_
  cases kind with
  | var name | name name => exact .advance faces here rfl fun c₁ d₁ faces₁ => .pure faces₁ rfl
  | _ => exact .expected _

theorem follows_operandFollows : Follows s id operandFollows operandFollows := by
  intro c d faces
  exact .onSameLine faces fun sameLine => .peek faces fun kind lexeme loc here => .pure faces rfl

/-! ### Lists and operators -/

section Lists

variable {view : α → γ} {item : Parser α} {item' : Parser γ} (h : Follows s view item item')
include h

theorem follows_commaTail (n : Nat) :
    Follows s (List.map view) (commaTail item n) (commaTail item' n) := by
  induction n with
  | zero => exact fun c d faces => .pure faces rfl
  | succ n ih =>
      intro c d faces
      refine .eatMark faces rfl fun found c₁ d₁ faces₁ => .ite ?_ (.pure faces₁ rfl)
      refine (h c₁ d₁ faces₁).bind fun a c₂ d₂ faces₂ => ?_
      exact (ih c₂ d₂ faces₂).bind fun as c₃ d₃ faces₃ => .pure faces₃ rfl

theorem follows_commaList : Follows s (List.map view) (commaList item) (commaList item') := by
  intro c d faces
  refine (h c d faces).bind fun a c₁ d₁ faces₁ => .tokensLeft faces₁ fun n => ?_
  exact (follows_commaTail h n c₁ d₁ faces₁).bind fun as c₂ d₂ faces₂ => .pure faces₂ rfl

theorem follows_itemsUntil (close : Mark) (n : Nat) :
    Follows s (List.map view) (itemsUntil close item n) (itemsUntil close item' n) := by
  induction n with
  | zero => exact fun c d faces => .pure faces rfl
  | succ n ih =>
      intro c d faces
      refine .atMark faces fun closed _ => .ite (.pure faces rfl) ?_
      refine (h c d faces).bind fun a c₁ d₁ faces₁ => ?_
      refine .eatMark faces₁ rfl fun more c₂ d₂ faces₂ => .ite ?_ (.pure faces₂ rfl)
      exact (ih c₂ d₂ faces₂).bind fun as c₃ d₃ faces₃ => .pure faces₃ rfl

end Lists

section Operators

variable {operand : Parser Expr} {q : Nat} {level : Level}
  (h : Follows s (Expr.relocate s.move) operand operand)
include h

theorem follows_chainFrom (of : level.OfRank q) (n : Nat) (left : Expr) :
    Follows s (Expr.relocate s.move) (chainFrom level operand n left)
      (chainFrom level operand n (left.relocate s.move)) := by
  induction n generalizing left with
  | zero => exact fun c d faces => .pure faces rfl
  | succ n ih =>
      intro c d faces
      have seen : operatorAt level d = .ok (operatorOf? level c.next.kind, d) := by
        rw [operatorAt_eq, faces.rest.next_eq]
        rfl
      rw [chainFrom, chainFrom]
      refine .look (operatorAt_eq level c) seen ?_
      cases found : operatorOf? level c.next.kind with
      | none => exact .pure faces rfl
      | some op =>
          have goesOn : endsStatement c.next.kind = false := by
            rw [(of.operatorOf?_eq_some_iff.mp found).1]
            cases op <;> rfl
          refine .advance faces rfl goesOn fun c₁ d₁ faces₁ => ?_
          refine (h c₁ d₁ faces₁).bind fun right c₂ d₂ faces₂ => ?_
          have grown := ih (.binary left.loc op left right) c₂ d₂ faces₂
          rw [Expr.relocate, ← Expr.loc_relocate (f := s.move)] at grown
          exact grown

theorem follows_chain (of : level.OfRank q) :
    Follows s (Expr.relocate s.move) (chain level operand) (chain level operand) := by
  intro c d faces
  refine (h c d faces).bind fun left c₁ d₁ faces₁ => .tokensLeft faces₁ fun n => ?_
  exact follows_chainFrom h of n left c₁ d₁ faces₁

theorem follows_levels {levels : List Level} (ranked : RankedFrom q levels) :
    Follows s (Expr.relocate s.move)
      (levels.foldl (fun operand level => chain level operand) operand)
      (levels.foldl (fun operand level => chain level operand) operand) := by
  induction levels generalizing operand q with
  | nil => exact h
  | cons level rest ih =>
      obtain ⟨q, rfl, of, ranked⟩ := ranked
      exact ih (follows_chain h of) ranked

theorem follows_exprOver :
    Follows s (Expr.relocate s.move) (exprOver operand) (exprOver operand) :=
  follows_levels h rankedFrom_levels

end Operators

/-! ### Primary forms and accesses -/

theorem follows_memberName : Follows s id memberName memberName := by
  intro c d faces
  refine .peek faces fun kind lexeme loc here => ?_
  cases kind with
  | name _ | keyword _ => exact .advance faces here rfl fun c₁ d₁ faces₁ => .pure faces₁ rfl
  | _ => exact .expected _

theorem follows_entryKey : Follows s id entryKey entryKey := by
  intro c d faces
  refine .peek faces fun kind lexeme loc here => ?_
  cases kind with
  | name _ | text _ | var _ | keyword _ | number _ =>
      exact .advance faces here rfl fun c₁ d₁ faces₁ => .pure faces₁ rfl
  | _ => exact .expected _

theorem follows_calledName : Follows s id calledName calledName := by
  intro c d faces
  refine .peek faces fun kind lexeme loc here => ?_
  cases kind with
  | name _ => exact .advance faces here rfl fun c₁ d₁ faces₁ => .pure faces₁ rfl
  | _ => exact .expected _

section Primary

variable {expr : Parser Expr} (h : Follows s (Expr.relocate s.move) expr expr)
include h

theorem follows_arguments :
    Follows s (List.map (Expr.relocate s.move)) (arguments expr) (arguments expr) := by
  intro c d faces
  have closed (args : List Expr) (c₁ d₁ : Cursor) (faces₁ : c₁.Faces s d₁) :
      FollowsAt s (List.map (Expr.relocate s.move))
        (do expectMark .closeParen "')' after arguments"; return args)
        (do expectMark .closeParen "')' after arguments"; return args.map (Expr.relocate s.move))
        c₁ d₁ :=
    (follows_expectMark _ rfl c₁ d₁ faces₁).bind fun _ c₂ d₂ faces₂ => .pure faces₂ rfl
  refine .atMark faces fun empty _ => .ite (closed [] c d faces) ?_
  exact (follows_commaList h c d faces).bind closed

theorem follows_objectEntry : Follows s (fun e : String × Expr => (e.1, e.2.relocate s.move))
    (objectEntry expr) (objectEntry expr) := by
  intro c d faces
  refine (follows_entryKey c d faces).bind fun key c₁ d₁ faces₁ => ?_
  refine (follows_expectMark _ rfl c₁ d₁ faces₁).bind fun _ c₂ d₂ faces₂ => ?_
  exact (h c₂ d₂ faces₂).bind fun e c₃ d₃ faces₃ => .pure faces₃ rfl

theorem follows_primaryOver :
    Follows s (Expr.relocate s.move) (primaryOver expr) (primaryOver expr) := by
  intro c d faces
  refine .peek faces fun kind lexeme loc here => ?_
  have leaf {e e' : Expr} (goesOn : endsStatement kind = false) (same : e.relocate s.move = e') :
      FollowsAt s (Expr.relocate s.move) (do advance; return e) (do advance; return e') c d :=
    .advance faces here goesOn fun c₁ d₁ faces₁ => .pure faces₁ same
  have call (name : String) (c₁ d₁ : Cursor) (faces₁ : c₁.Faces s d₁) :
      FollowsAt s (Expr.relocate s.move) (do return .call loc name (← arguments expr))
        (do return .call (s.move loc) name (← arguments expr)) c₁ d₁ :=
    (follows_arguments h c₁ d₁ faces₁).bind fun args c₂ d₂ faces₂ => .pure faces₂ (by
      rw [Expr.relocate, Expr.relocateAll_eq_map])
  cases kind with
  | number _ | text _ | template _ | var _ => exact leaf rfl rfl
  | name name =>
      refine .advance faces here rfl fun c₁ d₁ faces₁ => .atMark faces₁ fun opens paren => ?_
      refine .onSameLine faces₁ fun sameLine => ?_
      dsimp only
      split
      · next both =>
        have goesOn : endsStatement c₁.next.kind = false := by
          rw [paren (Bool.and_eq_true_iff.mp both).1]
          rfl
        exact .advance faces₁ rfl goesOn (call name)
      · exact .pure faces₁ rfl
  | keyword k =>
      cases k with
      | trueWord | falseWord | nullWord | undefinedWord => exact leaf rfl rfl
      | callWord =>
          refine .advance faces here rfl fun c₁ d₁ faces₁ => ?_
          refine (follows_calledName c₁ d₁ faces₁).bind fun name c₂ d₂ faces₂ => ?_
          refine (follows_expectMark _ rfl c₂ d₂ faces₂).bind fun _ c₃ d₃ faces₃ => ?_
          exact call name c₃ d₃ faces₃
      | _ => exact .expected _
  | mark m =>
      cases m with
      | openParen =>
          refine .advance faces here rfl fun c₁ d₁ faces₁ => ?_
          refine (h c₁ d₁ faces₁).bind fun e c₂ d₂ faces₂ => ?_
          refine (follows_expectMark _ rfl c₂ d₂ faces₂).bind fun _ c₃ d₃ faces₃ => ?_
          exact .pure faces₃ rfl
      | openBracket =>
          refine .advance faces here rfl fun c₁ d₁ faces₁ => .tokensLeft faces₁ fun n => ?_
          refine (follows_itemsUntil h _ n c₁ d₁ faces₁).bind fun items c₂ d₂ faces₂ => ?_
          refine (follows_expectMark _ rfl c₂ d₂ faces₂).bind fun _ c₃ d₃ faces₃ => ?_
          exact .pure faces₃ (by rw [Expr.relocate, Expr.relocateAll_eq_map])
      | openBrace =>
          refine .advance faces here rfl fun c₁ d₁ faces₁ => .tokensLeft faces₁ fun n => ?_
          refine (follows_itemsUntil (follows_objectEntry h) _ n c₁ d₁ faces₁).bind
            fun entries c₂ d₂ faces₂ => ?_
          refine (follows_expectMark _ rfl c₂ d₂ faces₂).bind fun _ c₃ d₃ faces₃ => ?_
          exact .pure faces₃ (by rw [Expr.relocate, Expr.relocateEntries_eq_map])
      | _ => exact .expected _
  | eof => exact .expected _

theorem follows_accessesFrom (n : Nat) (base : Expr) :
    Follows s (Expr.relocate s.move) (accessesFrom expr n base)
      (accessesFrom expr n (base.relocate s.move)) := by
  induction n generalizing base with
  | zero => exact fun c d faces => .pure faces rfl
  | succ n ih =>
      intro c d faces
      refine .peek faces fun kind lexeme loc here => ?_
      cases kind with
      | mark m =>
          cases m with
          | dot =>
              refine .advance faces here rfl fun c₁ d₁ faces₁ => ?_
              refine (follows_memberName c₁ d₁ faces₁).bind fun key c₂ d₂ faces₂ => ?_
              exact ih (.member loc base key) c₂ d₂ faces₂
          | openBracket =>
              refine .onSameLine faces fun sameLine => .ite ?_ (.pure faces rfl)
              refine .advance faces here rfl fun c₁ d₁ faces₁ => ?_
              refine (h c₁ d₁ faces₁).bind fun position c₂ d₂ faces₂ => ?_
              refine (follows_expectMark _ rfl c₂ d₂ faces₂).bind fun _ c₃ d₃ faces₃ => ?_
              exact ih (.index loc base position) c₃ d₃ faces₃
          | _ => exact .pure faces rfl
      | _ => exact .pure faces rfl

theorem follows_postfixOver :
    Follows s (Expr.relocate s.move) (postfixOver expr) (postfixOver expr) := by
  intro c d faces
  refine (follows_primaryOver h c d faces).bind fun base c₁ d₁ faces₁ => ?_
  exact .tokensLeft faces₁ fun n => follows_accessesFrom h n base c₁ d₁ faces₁

end Primary

/-- By induction on the levels that are left. -/
theorem follows_unaryWithin (room : Nat) :
    Follows s (Expr.relocate s.move) (unaryWithin room) (unaryWithin room) := by
  induction room with
  | zero => exact fun c d faces => .fails rfl
  | succ room ih =>
      intro c d faces
      refine .peek faces fun kind lexeme loc here => ?_
      have operator (op : UnaryOp) (goesOn : endsStatement kind = false) :
          FollowsAt s (Expr.relocate s.move) (do advance; return .unary loc op (← unaryWithin room))
            (do advance; return .unary (s.move loc) op (← unaryWithin room)) c d := by
        refine .advance faces here goesOn fun c₁ d₁ faces₁ => ?_
        exact (ih c₁ d₁ faces₁).bind fun e c₂ d₂ faces₂ => .pure faces₂ rfl
      have other := follows_postfixOver (follows_exprOver ih) c d faces
      cases kind with
      | mark m =>
          cases m with
          | minus => exact operator .neg rfl
          | bang => exact operator .not rfl
          | _ => exact other
      | _ => exact other

theorem follows_exprWithin (room : Nat) :
    Follows s (Expr.relocate s.move) (exprWithin room) (exprWithin room) :=
  follows_exprOver (follows_unaryWithin room)

end Grammar

end HostScript.Source
