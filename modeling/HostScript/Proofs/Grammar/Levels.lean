import HostScript.Proofs.Grammar.Completeness
import HostScript.Proofs.Grammar.Height
import HostScript.Proofs.Grammar.Soundness

/-!
# The height of programs

The grammar counts the levels of statements, unary expressions and primary forms that it is inside
of, and refuses to go deeper than `maxNesting`. What a loop of the grammar builds is not counted. So
the height of a program is bounded by the levels together with its longest chain, and not by the
levels alone: sums of any length are accepted.
-/

namespace HostScript

/-! ### Levels of what the grammar makes -/

namespace Source

section Lists

variable {α : Type} {item : Parser α} {Q : α → Prop}

theorem yields_commaTail (h : Yields item Q) (n : Nat) :
    Yields (commaTail item n) (∀ a ∈ ·, Q a) := by
  induction n with
  | zero => exact .pure nofun
  | succ n ih =>
      refine .after fun comma => .ite ?_ (.pure nofun)
      exact h.bind fun a ha => ih.bind fun as has => .pure (List.forall_mem_cons.mpr ⟨ha, has⟩)

theorem yields_commaList (h : Yields item Q) : Yields (commaList item) (∀ a ∈ ·, Q a) :=
  h.bind fun _ ha => .after fun n => (yields_commaTail h n).bind fun _ has =>
    .pure (List.forall_mem_cons.mpr ⟨ha, has⟩)

theorem yields_itemsUntil (close : Mark) (h : Yields item Q) (n : Nat) :
    Yields (itemsUntil close item n) (∀ a ∈ ·, Q a) := by
  induction n with
  | zero => exact .pure nofun
  | succ n ih =>
      refine .after fun closed => .ite (.pure nofun) ?_
      refine h.bind fun a ha => .after fun comma => .ite ?_ (.pure (by simpa using ha))
      exact ih.bind fun as has => .pure (List.forall_mem_cons.mpr ⟨ha, has⟩)

end Lists

section Expressions

variable {room : Nat} {level : Level} {operand expr : Parser Expr}

theorem nesting_chainFrom (h : Yields operand (·.nesting ≤ room)) (n : Nat) {left : Expr}
    (hleft : left.nesting ≤ room) : Yields (chainFrom level operand n left) (·.nesting ≤ room) := by
  induction n generalizing left with
  | zero => exact .pure hleft
  | succ n ih =>
      refine .after fun found => ?_
      split
      · exact .pure hleft
      · refine .after fun _ => h.bind fun right hright => ih ?_
        exact Nat.max_le.mpr ⟨hleft, hright⟩

theorem nesting_exprOver (h : Yields operand (·.nesting ≤ room)) :
    Yields (exprOver operand) (·.nesting ≤ room) := by
  unfold exprOver
  generalize levels = levels
  induction levels generalizing operand with
  | nil => exact h
  | cons level rest ih =>
      exact ih (h.bind fun left hleft => .after fun n => nesting_chainFrom h n hleft)

theorem nesting_arguments (h : Yields expr (·.nesting ≤ room)) :
    Yields (arguments expr) (Expr.nestingAll · ≤ room) := by
  have closed (es : List Expr) (hes : ∀ e ∈ es, e.nesting ≤ room) :
      Yields (do expectMark .closeParen "')' after arguments"; return es)
        (Expr.nestingAll · ≤ room) :=
    .after fun _ => .pure (Expr.nestingAll_le_iff.mpr hes)
  refine .after fun empty => ?_
  dsimp only
  split
  · exact closed [] nofun
  · exact (yields_commaList h).bind closed

/-- What stands in brackets is one level below the form that the brackets belong to. -/
theorem nesting_primaryOver (h : Yields expr (·.nesting ≤ room)) :
    Yields (primaryOver expr) (·.nesting ≤ room + 1) := by
  have leaf : 1 ≤ room + 1 := Nat.succ_le_succ (Nat.zero_le room)
  refine .after fun token => ?_
  dsimp only
  split
  · exact .after fun _ => .pure leaf
  · exact .after fun _ => .pure leaf
  · exact .after fun _ => .pure leaf
  · exact .after fun _ => .pure leaf
  · refine .after fun _ => .after fun opened => .after fun sameLine => .ite ?_ (.pure leaf)
    exact .after fun _ => (nesting_arguments h).bind fun es hes => .pure (Nat.succ_le_succ hes)
  · exact .after fun _ => .pure leaf
  · exact .after fun _ => .pure leaf
  · exact .after fun _ => .pure leaf
  · exact .after fun _ => .pure leaf
  · refine .after fun _ => .after fun name => .after fun _ => ?_
    exact (nesting_arguments h).bind fun es hes => .pure (Nat.succ_le_succ hes)
  · refine .after fun _ => h.bind fun inner hinner => .after fun _ => ?_
    exact .pure (Nat.succ_le_succ hinner)
  · refine .after fun _ => .after fun n => ?_
    refine (yields_itemsUntil _ h n).bind fun es hes => .after fun _ => ?_
    exact .pure (Nat.succ_le_succ (Expr.nestingAll_le_iff.mpr hes))
  · have entry : Yields (objectEntry expr) (·.2.nesting ≤ room) :=
      .after fun key => .after fun _ => h.bind fun e he => .pure he
    refine .after fun _ => .after fun n => ?_
    refine (yields_itemsUntil _ entry n).bind fun entries hentries => .after fun _ => ?_
    exact .pure (Nat.succ_le_succ (Expr.nestingEntries_le_iff.mpr hentries))
  · exact .expected _

theorem nesting_accessesFrom (h : Yields expr (·.nesting ≤ room)) (n : Nat) {base : Expr}
    (hbase : base.nesting ≤ room + 1) :
    Yields (accessesFrom expr n base) (·.nesting ≤ room + 1) := by
  induction n generalizing base with
  | zero => exact .pure hbase
  | succ n ih =>
      refine .after fun token => ?_
      split
      · exact .after fun _ => .after fun key => ih hbase
      · refine .after fun sameLine => .ite ?_ (.pure hbase)
        refine .after fun _ => h.bind fun position hposition => .after fun _ => ih ?_
        exact Nat.max_le.mpr ⟨hbase, Nat.succ_le_succ hposition⟩
      · exact .pure hbase

/-- By induction on the levels that are left. -/
theorem nesting_unaryWithin (room : Nat) : Yields (unaryWithin room) (·.nesting ≤ room) := by
  induction room with
  | zero => exact .nestingTooDeep
  | succ room ih =>
      refine .after fun token => ?_
      split
      · exact .after fun _ => ih.bind fun e he => .pure (Nat.succ_le_succ he)
      · exact .after fun _ => ih.bind fun e he => .pure (Nat.succ_le_succ he)
      · have below := nesting_exprOver ih
        refine (nesting_primaryOver below).bind fun base hbase => .after fun n => ?_
        exact nesting_accessesFrom below n hbase

/-- The expression is in normal form and nests at most `room` levels. -/
structure Fits (room : Nat) (e : Expr) : Prop where
  normal : e.Normal
  nesting : e.nesting ≤ room

theorem yields_exprWithin (room : Nat) : Yields (exprWithin room) (Fits room) := by
  intro c e c' made
  obtain ⟨front, -, written⟩ := reads_exprOver (reads_unaryWithin room) c e c' made
  exact ⟨written.normal, nesting_exprOver (nesting_unaryWithin room) c e c' made⟩

end Expressions

end Source

/-! ### What statements are made of -/

/-- The operands and the parts of a statement are of the given kinds. -/
structure Stmt.MadeOf (operand : Expr → Prop) (part : Stmt → Prop) (s : Stmt) : Prop where
  operands : ∀ e ∈ s.operands, operand e
  parts : ∀ s' ∈ s.parts, part s'

namespace Source

theorem Fits.mono {room room' : Nat} {e : Expr} (h : Fits room e) (le : room ≤ room') :
    Fits room' e :=
  ⟨h.normal, Nat.le_trans h.nesting le⟩

section Statements

variable {room : Nat} {part : Stmt → Prop} {expr : Parser Expr} {statement : Parser Stmt}
  {below : StatementLevel}

theorem yields_partsUntilBrace (h : Yields statement part) (n : Nat) :
    Yields (statementsUntilBrace statement n) (∀ s ∈ ·, part s) := by
  induction n with
  | zero => exact .expected _
  | succ n ih =>
      refine .after fun token => ?_
      split
      · exact .after fun _ => .pure nofun
      · exact .expected _
      · exact h.bind fun s hs => ih.bind fun rest hrest =>
          .pure (List.forall_mem_cons.mpr ⟨hs, hrest⟩)

theorem yields_parts (h : Yields statement part) : Yields (block statement) (∀ s ∈ ·, part s) :=
  .after fun _ => .after fun n => yields_partsUntilBrace h n

theorem yields_optionalOperand (h : Yields expr (Fits room)) :
    Yields (optionalOperand expr) (∀ e ∈ ·.toList, Fits room e) := by
  refine .after fun follows => .ite ?_ (.pure nofun)
  exact h.bind fun e he => .pure (by simpa using he)

/-- What stands in the brackets of a target is one level below the target. -/
theorem yields_targetFrom (h : Yields expr (Fits room)) (n : Nat) {target : Target}
    (htarget : ∀ loc, Fits (room + 1) (target.toExpr loc)) :
    Yields (targetFrom expr n target) fun target => ∀ loc, Fits (room + 1) (target.toExpr loc) := by
  have access (loc : Location) (target : Target) : 8 ≤ (target.toExpr loc).rank := by
    cases target with
    | var _ | member _ _ | index _ _ => exact Nat.le_refl 8
  induction n generalizing target with
  | zero => exact .pure htarget
  | succ n ih =>
      refine .after fun token => .after fun dot => .ite ?_ (.after fun bracket => .ite ?_ ?_)
      · refine .after fun key => ih fun loc => ?_
        exact ⟨⟨access token.loc target, (htarget token.loc).normal⟩, (htarget token.loc).nesting⟩
      · refine h.bind fun position hposition => .after fun _ => ih fun loc => ?_
        refine ⟨⟨access token.loc target, (htarget token.loc).normal, hposition.normal⟩, ?_⟩
        exact Nat.max_le.mpr ⟨(htarget token.loc).nesting, Nat.succ_le_succ hposition.nesting⟩
      · exact .pure htarget

theorem yields_hostRequest (h : Yields expr (Fits room)) {k : Keyword}
    {request : Parser HostRequest} (found : hostRequest expr k = some request) :
    Yields request (∀ e ∈ ·.operands, Fits room e) := by
  have optional := yields_optionalOperand h
  have one (e : Expr) (he : Fits room e) : ∀ x ∈ [e], Fits room x := by simpa using he
  have two (e : Expr) (others : List Expr) (he : Fits room e)
      (hothers : ∀ x ∈ others, Fits room x) : ∀ x ∈ e :: others, Fits room x :=
    List.forall_mem_cons.mpr ⟨he, hothers⟩
  cases k with
  | emitWord | launchWord | notifyWord =>
      cases found
      exact h.bind fun e he => optional.bind fun other hother => .pure (two e _ he hother)
  | focusWord | minimizeWord | maximizeWord | waitWord | mkdirWord | alertWord | playWord
  | videoWord =>
      cases found
      exact h.bind fun e he => .pure (one e he)
  | closeWord =>
      cases found
      exact optional.bind fun other hother => .pure hother
  | writeWord =>
      cases found
      exact h.bind fun content hcontent => .after fun _ => h.bind fun path hpath =>
        .pure (two content _ hcontent (one path hpath))
  | readWord =>
      cases found
      exact h.bind fun path hpath => .after fun _ => .after fun name => .pure (one path hpath)
  | deleteWord =>
      cases found
      exact h.bind fun path hpath => .after fun recursive => .pure (one path hpath)
  | confirmWord =>
      cases found
      exact h.bind fun message hmessage => .after fun var => .pure (one message hmessage)
  | promptWord =>
      cases found
      refine h.bind fun message hmessage => ?_
      have answered (default : Option Expr) (hdefault : ∀ e ∈ default.toList, Fits room e) :
          Yields (do return HostRequest.prompt message default (← intoVariable))
            (∀ e ∈ ·.operands, Fits room e) :=
        .after fun var => .pure (two message _ hmessage hdefault)
      refine .after fun found => .ite ?_ ?_
      · exact (h.map fun e he => one e he).bind answered
      · exact answered none nofun
  | stopWord =>
      cases found
      exact .pure nofun
  | commandWord =>
      cases found
      refine h.bind fun name hname => .after fun follows => .ite ?_ (.pure (one name hname))
      exact (yields_commaList h).bind fun args hargs => .pure (two name args hname hargs)
  | _ => cases found

/-- The statements that the parsers of a level make are of a kind. -/
structure StatementLevel.Makes (level : StatementLevel) (part : Stmt → Prop) : Prop where
  statement : ∀ loops, Yields (level.statement loops) part
  elseIf : ∀ loops loc, Yields (level.elseIf loops loc) part

theorem madeOf_assignment (h : Yields expr (Fits room)) (loc : Location) :
    Yields (assignment expr loc) (Stmt.MadeOf (Fits (room + 1)) part) := by
  refine .after fun name => .after fun n => ?_
  have bare (loc : Location) : Fits (room + 1) ((Target.var name).toExpr loc) :=
    ⟨trivial, Nat.succ_le_succ (Nat.zero_le room)⟩
  refine (yields_targetFrom h n bare).bind fun target htarget => .after fun token => ?_
  split
  · refine .after fun _ => h.bind fun value hvalue => .pure ⟨?_, nofun⟩
    exact List.forall_mem_cons.mpr ⟨htarget loc, by simpa using hvalue.mono (Nat.le_succ room)⟩
  · exact .expected _

theorem madeOf_definition (hbelow : below.Makes part) (loc : Location) :
    Yields (definition below loc) (Stmt.MadeOf (Fits room) part) := by
  refine .after fun token => ?_
  split
  · next name _ =>
    have rest (params : List String) :
        Yields (do expectMark .closeParen "')' after parameters"
                   return Stmt.define loc name params (← block (below.statement 0)))
          (Stmt.MadeOf (Fits room) part) :=
      .after fun _ => (yields_parts (hbelow.statement 0)).bind fun body hbody =>
        .pure ⟨nofun, hbody⟩
    refine .after fun _ => .after fun _ => .after fun empty => ?_
    dsimp only
    split
    · exact rest []
    · exact .after rest
  · exact .expected _

theorem madeOf_conditional (h : Yields expr (Fits room)) (hbelow : below.Makes part) (loops : Nat)
    (loc : Location) :
    Yields (conditional expr below loops loc) (Stmt.MadeOf (Fits room) part) := by
  have blocks := yields_parts (hbelow.statement loops)
  refine h.bind fun test htest => blocks.bind fun thenBody hthen => ?_
  have operands : ∀ e ∈ [test], Fits room e := by simpa using htest
  have both {elseBody : List Stmt} (helse : ∀ s ∈ elseBody, part s) :
      (Stmt.cond loc test thenBody (some elseBody)).MadeOf (Fits room) part :=
    ⟨operands, List.forall_mem_append.mpr ⟨hthen, helse⟩⟩
  refine .after fun _ => .ite (.after fun token => .after fun _ => .ite ?_ ?_)
    (.pure ⟨operands, hthen⟩)
  · refine (hbelow.elseIf loops token.loc).bind fun inner hinner => .pure (both ?_)
    simpa using hinner
  · exact blocks.bind fun elseBody helse => .pure (both helse)

theorem madeOf_attempt (hbelow : below.Makes part) (loops : Nat) (loc : Location) :
    Yields (attempt below loops loc) (Stmt.MadeOf (Fits room) part) := by
  have blocks := yields_parts (hbelow.statement loops)
  refine blocks.bind fun body hbody => ?_
  have caught (var : String) :
      Yields (do return Stmt.attempt loc body var (← block (below.statement loops)))
        (Stmt.MadeOf (Fits room) part) :=
    blocks.bind fun handler hhandler =>
      .pure ⟨nofun, List.forall_mem_append.mpr ⟨hbody, hhandler⟩⟩
  refine .after fun _ => .ite (.after fun _ => .ite ?_ ?_) (.expected _)
  · exact caught "error"
  · exact .after caught

theorem madeOf_keywordStatement (h : Yields expr (Fits room)) (hbelow : below.Makes part)
    (loops : Nat) (k : Keyword) (loc : Location) :
    Yields (keywordStatement expr below loops k loc) (Stmt.MadeOf (Fits (room + 1)) part) := by
  have h' : Yields expr (Fits (room + 1)) := fun c e c' made =>
    (h c e c' made).mono (Nat.le_succ room)
  have one (e : Expr) (he : Fits (room + 1) e) : ∀ x ∈ [e], Fits (room + 1) x := by simpa using he
  have blocks (loops : Nat) := yields_parts (hbelow.statement loops)
  cases k with
  | setWord => exact .after fun _ => madeOf_assignment h loc
  | ifWord => exact .after fun _ => madeOf_conditional h' hbelow loops loc
  | tryWord => exact .after fun _ => madeOf_attempt hbelow loops loc
  | defWord => exact .after fun _ => madeOf_definition hbelow loc
  | letWord =>
      refine .after fun _ => .after fun name => .after fun _ => h'.bind fun e he => .pure ?_
      exact ⟨one e he, nofun⟩
  | printWord => exact .after fun _ => h'.bind fun e he => .pure ⟨one e he, nofun⟩
  | returnWord =>
      refine .after fun _ => (yields_optionalOperand h').bind fun value hvalue => .pure ?_
      exact ⟨hvalue, nofun⟩
  | loopWord | whileWord =>
      refine .after fun _ => h'.bind fun e he => (blocks (loops + 1)).bind fun body hbody => ?_
      exact .pure ⟨one e he, hbody⟩
  | onWord =>
      refine .after fun _ => h'.bind fun e he => (blocks 0).bind fun body hbody => .pure ?_
      exact ⟨one e he, hbody⟩
  | foreachWord =>
      refine .after fun _ => .after fun var => .after fun _ => h'.bind fun e he => ?_
      exact (blocks (loops + 1)).bind fun body hbody => .pure ⟨one e he, hbody⟩
  | breakWord => exact .after fun _ => .ite (.reject _) (.pure ⟨nofun, nofun⟩)
  | continueWord => exact .after fun _ => .ite (.reject _) (.pure ⟨nofun, nofun⟩)
  | _ =>
      -- what is left asks the host for something
      simp only [keywordStatement]
      split
      · next request found =>
        refine .after fun _ => (yields_hostRequest h' found).bind fun request hrequest => .pure ?_
        exact ⟨hrequest, nofun⟩
      · exact .expected _

theorem madeOf_statementOver (h : Yields expr (Fits room)) (hbelow : below.Makes part)
    (loops : Nat) :
    Yields (statementOver expr below loops) (Stmt.MadeOf (Fits (room + 1)) part) := by
  refine .after fun token => ?_
  have ended (s : Stmt) (made : s.MadeOf (Fits (room + 1)) part) :
      Yields (do let _ ← eatMark .semicolon; return s) (Stmt.MadeOf (Fits (room + 1)) part) :=
    .after fun _ => .pure made
  have evaluated : Yields (exprStatement expr token.loc) (Stmt.MadeOf (Fits (room + 1)) part) := by
    refine h.bind fun e he => .after fun _ => .ite (.expectedWithHint _ _) (.pure ⟨?_, nofun⟩)
    simpa [Stmt.operands] using he.mono (Nat.le_succ room)
  dsimp only
  split
  · refine Yields.bind (Q := Stmt.MadeOf (Fits (room + 1)) part) ?_ ended
    exact (yields_parts (hbelow.statement loops)).map fun body hbody =>
      ⟨List.forall_mem_nil _, hbody⟩
  · split
    · exact evaluated.bind ended
    · exact (madeOf_keywordStatement h hbelow loops _ token.loc).bind ended
  · exact evaluated.bind ended

end Statements

/-- The statement is no higher than its levels and its longest chain allow. -/
def HeightWithin (room : Nat) (s : Stmt) : Prop :=
  ∀ k, s.most 0 Expr.links ≤ k → s.most 1 Expr.height ≤ room + (k + room * (8 * k + 1))

/-- A statement is one level above its parts. -/
theorem heightWithin_of_madeOf {room : Nat} {s : Stmt}
    (made : s.MadeOf (Fits (room + 1)) (HeightWithin room)) : HeightWithin (room + 1) s := by
  intro k links
  obtain ⟨operandLinks, partLinks⟩ := Stmt.most_le_iff.mp links
  have higher : room + (k + room * (8 * k + 1)) ≤ room + (k + (room + 1) * (8 * k + 1)) := by
    rw [Nat.add_mul]
    omega
  have bound : s.most 1 Expr.height ≤ room + (k + (room + 1) * (8 * k + 1)) + 1 := by
    refine Stmt.most_le_iff.mpr ⟨fun e mem => ?_, fun part mem => ?_⟩
    · have fits := made.operands e mem
      have := Expr.height_le fits.normal fits.nesting (operandLinks e mem)
      omega
    · exact Nat.le_trans (made.parts part mem k (partLinks part mem)) higher
  omega

/-- By induction on the levels that are left. -/
theorem heightWithin_statementsWithin (room : Nat) :
    (statementsWithin room).Makes (HeightWithin room) := by
  induction room with
  | zero =>
      constructor
      · exact fun loops => .nestingTooDeep
      · exact fun loops loc => .nestingTooDeep
  | succ room ih =>
      have h := yields_exprWithin room
      have h' : Yields (exprWithin room) (Fits (room + 1)) := fun c e c' made =>
        (h c e c' made).mono (Nat.le_succ room)
      constructor
      · intro loops c s c' made
        exact heightWithin_of_madeOf (madeOf_statementOver h ih loops c s c' made)
      · intro loops loc c s c' made
        exact heightWithin_of_madeOf (madeOf_conditional h' ih loops loc c s c' made)

theorem yields_parts_program {part : Stmt → Prop} {statement : Parser Stmt}
    (h : Yields statement part) (n : Nat) : Yields (programFrom statement n) (∀ s ∈ ·, part s) := by
  induction n with
  | zero => exact .pure nofun
  | succ n ih =>
      refine .after fun token => .ite (.pure nofun) ?_
      exact h.bind fun s hs => ih.bind fun rest hrest =>
        .pure (List.forall_mem_cons.mpr ⟨hs, hrest⟩)

/-- An accepted program is at least as high as its longest chain is long, and no higher than the
levels that may nest, each of them eight chains high, and one more chain. -/
theorem parse_height_bounds {source : String} {p : Program} (h : parse source = .ok p) :
    Stmt.linksAll p ≤ Stmt.heightAll p ∧
    Stmt.heightAll p ≤ maxNesting * (8 * Stmt.linksAll p + 2) + Stmt.linksAll p := by
  refine ⟨Stmt.linksAll_le_height p, Stmt.mostAll_le_iff.mpr fun s mem => ?_⟩
  obtain ⟨tokens, c, -, made⟩ := exists_of_parse h
  have bounded : HeightWithin maxNesting s :=
    yields_parts_program ((heightWithin_statementsWithin maxNesting).statement 0) _ _ p c made s mem
  have bound := bounded _ (Stmt.mostAll_le_iff.mp (Nat.le_refl (Stmt.linksAll p)) s mem)
  rw [Nat.mul_add, Nat.mul_one] at bound
  rw [Nat.mul_add]
  omega

/-! ### Sums of any length -/

/-- Moving over the positions leaves chains as they are. -/
theorem chain_unplaced (e : Expr) : e.unplaced.chain = e.chain := by
  match e with
  | .binary _ _ left _ => exact congrArg (· + 1) (chain_unplaced left)
  | .member _ base _ => exact congrArg (· + 1) (chain_unplaced base)
  | .index _ base _ => exact congrArg (· + 1) (chain_unplaced base)
  | .lit _ _ | .var _ _ | .template _ _ | .unary _ _ _ | .group _ _ | .call _ _ _ | .array _ _
  | .object _ _ => rfl

/-- One lexeme is read where no gap begins. -/
theorem scan_lexeme {loc : Location} {c : Char} {left : List Char} {kind : TokenKind}
    (plain : skipTrivia false (c :: left) = c :: left)
    (read : readLexeme c left = .ok (kind, left)) :
    scan loc (c :: left) = (scan (loc.after c) left).map (⟨kind, String.ofList [c], loc⟩ :: ·) := by
  have whole : consumed (c :: left) (c :: left) = [] := by simp [consumed]
  have first : consumed (c :: left) left = [c] := by simp [consumed]
  rw [scan]
  split
  · next nothing =>
    rw [plain] at nothing
    cases nothing
  · next c' rest skipped =>
    rw [plain] at skipped
    cases skipped
    split
    · next e failed =>
      rw [read] at failed
      cases failed
    · next kind' left' read' =>
      rw [read] at read'
      cases read'
      simp only [whole, first, Location.afterAll_nil, Location.afterAll_cons]
      cases scan (loc.after c) left with
      | ok tokens => rfl
      | error f => rfl

/-- A sum goes on with `n` more terms. -/
def termsText : Nat → List Char
  | 0 => []
  | n + 1 => '+' :: 'x' :: termsText n

/-- The kinds of the tokens of `n` more terms. -/
def termsKinds : Nat → List TokenKind
  | 0 => []
  | n + 1 => .mark .plus :: .name "x" :: termsKinds n

/-- The sum of a variable and `n` more terms, from the left. -/
def sumExpr : Nat → Expr
  | 0 => .var .start "x"
  | n + 1 => .binary .start .add (sumExpr n) (.var .start "x")

theorem termsKinds_succ (n : Nat) :
    termsKinds (n + 1) = termsKinds n ++ [.mark .plus, .name "x"] := by
  induction n with
  | zero => rfl
  | succ n ih => exact congrArg (fun kinds => .mark .plus :: .name "x" :: kinds) ih

theorem writing_sumExpr (n : Nat) : (sumExpr n).Writing (.name "x" :: termsKinds n) := by
  induction n with
  | zero => exact .bare .start "x"
  | succ n ih =>
      rw [termsKinds_succ]
      exact .binary ih (.bare .start "x")

theorem normal_sumExpr (n : Nat) : (sumExpr n).Normal := by
  induction n with
  | zero => trivial
  | succ n ih =>
      refine ⟨?_, by decide, ih, trivial⟩
      cases n with
      | zero => decide
      | succ n => exact Nat.le_refl 5

theorem nesting_sumExpr (n : Nat) : (sumExpr n).nesting = 1 := by
  induction n with
  | zero => rfl
  | succ n ih => rw [sumExpr, Expr.nesting, ih, Expr.nesting, Nat.max_self]

theorem chain_sumExpr (n : Nat) : (sumExpr n).chain = n := by
  induction n with
  | zero => rfl
  | succ n ih => exact congrArg (· + 1) ih

/-- The term of a sum is read as a name. -/
theorem scan_term {loc : Location} {n : Nat} :
    scan loc ('x' :: termsText n) =
      (scan (loc.after 'x') (termsText n)).map (⟨.name "x", "x", loc⟩ :: ·) := by
  refine scan_lexeme rfl ?_
  cases n with
  | zero => rfl
  | succ n => rfl

theorem scan_terms (loc : Location) (n : Nat) : ∃ toks last,
    scan loc (termsText n) = .ok (toks ++ [last]) ∧ OnLine loc.line toks (termsKinds n) ∧
      last.kind = .eof := by
  induction n generalizing loc with
  | zero => exact ⟨[], ⟨.eof, "", loc⟩, by rw [termsText, scan]; rfl, ⟨rfl, nofun⟩, rfl⟩
  | succ n ih =>
      obtain ⟨toks, last, scanned, onLine, eof⟩ := ih ((loc.after '+').after 'x')
      refine ⟨⟨.mark .plus, "+", loc⟩ :: ⟨.name "x", "x", loc.after '+'⟩ :: toks, last, ?_, ?_, eof⟩
      · rw [termsText, scan_lexeme rfl rfl, scan_term, scanned]
        rfl
      · refine ⟨by simp only [List.map_cons, onLine.kinds, termsKinds], ?_⟩
        exact List.forall_mem_cons.mpr ⟨rfl, List.forall_mem_cons.mpr ⟨rfl, onLine.lines⟩⟩

/-- The source text of a sum with `n + 1` terms. -/
def sumSource (n : Nat) : String := String.ofList ('x' :: termsText n)

theorem tokenize_sumSource (n : Nat) : ∃ t toks last,
    tokenize (sumSource n) = .ok (t :: (toks ++ [last])) ∧ t.kind = .name "x" ∧
      OnLine 1 (t :: toks) (.name "x" :: termsKinds n) ∧ last.kind = .eof := by
  obtain ⟨toks, last, scanned, onLine, eof⟩ := scan_terms (Location.start.after 'x') n
  refine ⟨⟨.name "x", "x", .start⟩, toks, last, ?_, rfl, ?_, eof⟩
  · rw [tokenize, sumSource, String.toList_ofList, scan_term, scanned]
    rfl
  · refine ⟨by simp only [List.map_cons, onLine.kinds], ?_⟩
    exact List.forall_mem_cons.mpr ⟨rfl, onLine.lines⟩

/-- At the end of the text a sum is a statement. -/
theorem makes_sumStatement {n : Nat} {t last : Token} {toks : List Token}
    (here : t.kind = .name "x")
    (onLine : OnLine 1 (t :: toks) (.name "x" :: termsKinds n)) (eof : last.kind = .eof) :
    Makes ((statementsWithin maxNesting).statement 0) (fun s => n ≤ s.most 1 Expr.height)
      ⟨0, t :: (toks ++ [last])⟩ ⟨1, [last]⟩ := by
  have ends : ¬ (Cursor.next ⟨1, [last]⟩).Continues 1 1 (.name "x" :: termsKinds n).getLast? := by
    rintro (⟨op, -, found⟩ | found | ⟨found, -⟩ | ⟨found, -⟩)
    all_goals
      change last.kind = _ at found
      rw [eof] at found
      cases found
  have nesting : (sumExpr n).nesting ≤ 127 := by
    rw [nesting_sumExpr]
    decide
  obtain ⟨e, same, made⟩ := complete_exprOver (complete_unaryWithin 127) 0 (normal_sumExpr n)
    (sumExpr n).rank_pos nesting (writing_sumExpr n) onLine ends
  rw [List.cons_append] at made
  have high : n ≤ e.height := by
    have := e.chain_lt_height
    rw [← chain_unplaced, same, chain_unplaced, chain_sumExpr] at this
    omega
  refine ⟨.expr t.loc e, Nat.le_succ_of_le high, ?_⟩
  have value : exprStatement (exprWithin 127) t.loc ⟨0, t :: (toks ++ [last])⟩ =
      .ok (.expr t.loc e, ⟨1, [last]⟩) := by
    rw [exprStatement, exprWithin, bind_eq_of_ok made, bind_eq_of_ok peek_eq, eof]
    rfl
  have noMore : eatMark .semicolon ⟨1, [last]⟩ = .ok (false, ⟨1, [last]⟩) := by
    refine eatMark_eq_false fun found => ?_
    change last.kind = _ at found
    rw [eof] at found
    cases found
  change statementOver (exprWithin 127) (statementsWithin 127) 0 ⟨0, t :: (toks ++ [last])⟩ = _
  rw [statementOver, bind_eq_of_ok peek_eq]
  simp only [here]
  rw [bind_eq_of_ok value, bind_eq_of_ok noMore]
  rfl

theorem programFrom_end {statement : Parser Stmt} {c : Cursor} (n : Nat)
    (end_ : c.next.kind = .eof) : programFrom statement (n + 1) c = .ok ([], c) := by
  rw [programFrom, bind_eq_of_ok (p := peek) (a := c.next) rfl, end_]
  rfl

theorem programFrom_cons {statement : Parser Stmt} {c c₁ c' : Cursor} {s : Stmt} {p : Program}
    {n : Nat} (goesOn : c.next.kind ≠ .eof) (first : statement c = .ok (s, c₁))
    (rest : programFrom statement n c₁ = .ok (p, c')) :
    programFrom statement (n + 1) c = .ok (s :: p, c') := by
  rw [programFrom, bind_eq_of_ok (p := peek) (a := c.next) rfl, if_neg (mt eq_of_beq goesOn),
    bind_eq_of_ok first, bind_eq_of_ok rest]
  rfl

/-- A sum is accepted, and it is at least as high as it has operators. -/
theorem parse_sumSource (n : Nat) :
    ∃ p, parse (sumSource n) = .ok p ∧ n ≤ Stmt.heightAll p := by
  obtain ⟨t, toks, last, scanned, here, onLine, eof⟩ := tokenize_sumSource n
  obtain ⟨s, high, made⟩ := makes_sumStatement here onLine eof
  refine ⟨[s], ?_, Nat.le_trans high (Nat.le_max_left _ _)⟩
  have rounds : (t :: (toks ++ [last])).length = toks.length + 1 + 1 := by simp
  have read : program (.ofTokens (t :: (toks ++ [last]))) = .ok ([s], ⟨1, [last]⟩) := by
    change programFrom _ (t :: (toks ++ [last])).length ⟨0, t :: (toks ++ [last])⟩ = _
    rw [rounds]
    refine programFrom_cons ?_ made (programFrom_end _ eof)
    change t.kind ≠ .eof
    rw [here]
    exact TokenKind.noConfusion
  rw [parse_eq scanned, read]
  rfl

/-- No bound holds for the heights of all accepted programs. -/
theorem height_unbounded :
    ¬ ∃ bound, ∀ source p, parse source = .ok p → Stmt.heightAll p ≤ bound := by
  rintro ⟨bound, bounded⟩
  obtain ⟨p, parsed, high⟩ := parse_sumSource (bound + 1)
  have := bounded _ p parsed
  omega

/-- A sum with three operators is within the bounds. -/
theorem sumSource_three_bounds : ∃ p, parse (sumSource 3) = .ok p ∧ 3 ≤ Stmt.heightAll p ∧
    Stmt.linksAll p ≤ Stmt.heightAll p ∧
    Stmt.heightAll p ≤ maxNesting * (8 * Stmt.linksAll p + 2) + Stmt.linksAll p := by
  obtain ⟨p, parsed, high⟩ := parse_sumSource 3
  exact ⟨p, parsed, high, parse_height_bounds parsed⟩

end Source

end HostScript
