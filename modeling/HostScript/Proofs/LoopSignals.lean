import HostScript.Proofs.Judges
import HostScript.Proofs.Parsing

/-!
# Signals of loops stay in their loops

`break` and `continue` are signals to the loop around them. The grammar takes them only inside a
loop of the same body, where the body of a function or of a handler begins anew outside every
loop. A statement whose jumps are placed so ends by going on or by a `return`, and an engine
that was only ever given such programs knows only functions and handlers whose bodies are of
this kind, in whichever run they were defined.

## Implementation notes

That no jump arrives at the end of a body, in whichever frame of whichever run it is executed,
is said by judges: the engine does the same with every judge who lets other signals pass,
whatever he does with a jump. He might, for one, end the whole run there.
-/

namespace HostScript

/-! ### Where jumps stand -/

mutual

/-- Each `break` and each `continue` in the statement stands in a loop of the same body; `inLoop`
says whether the statement itself stands in one. -/
def Stmt.jumpsWithin (inLoop : Bool) : Stmt → Bool
  | .break _ => inLoop
  | .continue _ => inLoop
  | .block _ body => Stmt.jumpsWithinAll inLoop body
  | .cond _ _ thenBody none => Stmt.jumpsWithinAll inLoop thenBody
  | .cond _ _ thenBody (some elseBody) =>
    Stmt.jumpsWithinAll inLoop thenBody && Stmt.jumpsWithinAll inLoop elseBody
  | .attempt _ body _ handler =>
    Stmt.jumpsWithinAll inLoop body && Stmt.jumpsWithinAll inLoop handler
  | .loop _ _ body => Stmt.jumpsWithinAll true body
  | .while _ _ body => Stmt.jumpsWithinAll true body
  | .foreach _ _ _ body => Stmt.jumpsWithinAll true body
  | .define _ _ _ body => Stmt.jumpsWithinAll false body
  | .on _ _ body => Stmt.jumpsWithinAll false body
  | _ => true

/-- The jumps in each of the statements stand in loops of the same body. -/
def Stmt.jumpsWithinAll (inLoop : Bool) : List Stmt → Bool
  | [] => true
  | s :: rest => s.jumpsWithin inLoop && Stmt.jumpsWithinAll inLoop rest

end

/-- A body outside every loop has all its jumps in loops of its own. -/
def Stmt.Closed (body : List Stmt) : Prop := Stmt.jumpsWithinAll false body = true

namespace Source

variable {inLoop : Bool} {loops : Nat} {statement : Parser Stmt} {below : StatementLevel}

theorem yields_statementsUntilBrace
    (h : Yields statement fun s => s.jumpsWithin inLoop = true) (n : Nat) :
    Yields (statementsUntilBrace statement n) fun body =>
      Stmt.jumpsWithinAll inLoop body = true := by
  induction n with
  | zero => exact .expected _
  | succ n ih =>
      refine .after fun token => ?_
      split
      · exact .after fun _ => .pure rfl
      · exact .expected _
      · refine h.bind fun s hs => ih.bind fun rest hrest => .pure ?_
        exact Bool.and_eq_true_iff.mpr ⟨hs, hrest⟩

theorem yields_block (h : Yields statement fun s => s.jumpsWithin inLoop = true) :
    Yields (block statement) fun body => Stmt.jumpsWithinAll inLoop body = true :=
  .after fun _ => .after fun n => yields_statementsUntilBrace h n

/-- The parsers of a level place jumps in loops, given how many loops are open. -/
structure StatementLevel.PlacesJumps (level : StatementLevel) : Prop where
  statement : ∀ loops, Yields (level.statement loops) fun s => s.jumpsWithin (0 < loops) = true
  elseIf : ∀ loops loc,
    Yields (level.elseIf loops loc) fun s => s.jumpsWithin (0 < loops) = true

theorem yields_assignment (expr : Parser Expr) (loc : Location) :
    Yields (assignment expr loc) fun s => s.jumpsWithin inLoop = true := by
  refine .after fun _ => .after fun _ => .after fun _ => .after fun _ => ?_
  split
  · exact .after fun _ => .after fun _ => .pure rfl
  · exact .expected _

theorem yields_definition (h : below.PlacesJumps) (loc : Location) :
    Yields (definition below loc) fun s => s.jumpsWithin inLoop = true := by
  refine .after fun token => ?_
  split
  · refine .after fun _ => .after fun _ => .after fun _ => ?_
    split
    · refine .after fun _ => .after fun _ => ?_
      exact (yields_block (h.statement 0)).bind fun body hbody => .pure hbody
    · refine .after fun _ => .after fun _ => ?_
      exact (yields_block (h.statement 0)).bind fun body hbody => .pure hbody
  · exact .expected _

theorem yields_conditional (expr : Parser Expr) (h : below.PlacesJumps) (loops : Nat)
    (loc : Location) :
    Yields (conditional expr below loops loc) fun s => s.jumpsWithin (0 < loops) = true := by
  refine .after fun test => (yields_block (h.statement loops)).bind fun thenBody hthen => ?_
  have both {elseBody : List Stmt} (helse : Stmt.jumpsWithinAll (0 < loops) elseBody = true) :
      (Stmt.cond loc test thenBody (some elseBody)).jumpsWithin (0 < loops) = true :=
    Bool.and_eq_true_iff.mpr ⟨hthen, helse⟩
  refine .after fun _ => .ite (.after fun token => .after fun _ => .ite ?_ ?_) (.pure hthen)
  · refine (h.elseIf loops token.loc).bind fun inner hinner => .pure (both ?_)
    exact Bool.and_eq_true_iff.mpr ⟨hinner, rfl⟩
  · exact (yields_block (h.statement loops)).bind fun elseBody helse => .pure (both helse)

theorem yields_attempt (h : below.PlacesJumps) (loops : Nat) (loc : Location) :
    Yields (attempt below loops loc) fun s => s.jumpsWithin (0 < loops) = true := by
  refine (yields_block (h.statement loops)).bind fun body hbody => ?_
  have caught (var : String) :
      Yields (do return Stmt.attempt loc body var (← block (below.statement loops)))
        fun s => s.jumpsWithin (0 < loops) = true :=
    (yields_block (h.statement loops)).bind fun handler hhandler =>
      .pure (Bool.and_eq_true_iff.mpr ⟨hbody, hhandler⟩)
  refine .after fun _ => .ite (.after fun _ => .ite ?_ ?_) (.expected _)
  · exact caught "error"
  · exact .after caught

/-- The words `break` and `continue` are refused outside loops. -/
theorem yields_keywordStatement (expr : Parser Expr) (h : below.PlacesJumps) (loops : Nat)
    (k : Keyword) (loc : Location) :
    Yields (keywordStatement expr below loops k loc) fun s => s.jumpsWithin (0 < loops) = true := by
  have looped : Yields (block (below.statement (loops + 1))) fun body =>
      Stmt.jumpsWithinAll true body = true := by
    simpa using yields_block (h.statement (loops + 1))
  have jump (s : Stmt) (placed : s.jumpsWithin (0 < loops) = decide (0 < loops)) :
      Yields (if loops = 0 then outsideLoop k loc else pure s) fun s =>
        s.jumpsWithin (0 < loops) = true := by
    split
    · exact .reject _
    · refine .pure ?_
      rw [placed]
      exact decide_eq_true (by omega)
  cases k with
  | setWord => exact .after fun _ => yields_assignment expr loc
  | letWord => exact .after fun _ => .after fun _ => .after fun _ => .after fun _ => .pure rfl
  | printWord => exact .after fun _ => .after fun _ => .pure rfl
  | returnWord => exact .after fun _ => .after fun _ => .pure rfl
  | ifWord => exact .after fun _ => yields_conditional expr h loops loc
  | tryWord => exact .after fun _ => yields_attempt h loops loc
  | defWord => exact .after fun _ => yields_definition h loc
  | onWord =>
      exact .after fun _ => .after fun _ =>
        (yields_block (h.statement 0)).bind fun body hbody => .pure hbody
  | loopWord => exact .after fun _ => .after fun _ => looped.bind fun body hbody => .pure hbody
  | whileWord => exact .after fun _ => .after fun _ => looped.bind fun body hbody => .pure hbody
  | foreachWord =>
      exact .after fun _ => .after fun _ => .after fun _ => .after fun _ =>
        looped.bind fun body hbody => .pure hbody
  | breakWord => exact .after fun _ => jump (.break loc) rfl
  | continueWord => exact .after fun _ => jump (.continue loc) rfl
  | _ =>
      -- what is left asks the host for something
      simp only [keywordStatement]
      split
      · exact .after fun _ => .after fun _ => .pure rfl
      · exact .expected _

theorem yields_exprStatement (expr : Parser Expr) (loc : Location) :
    Yields (exprStatement expr loc) fun s => s.jumpsWithin inLoop = true :=
  .after fun _ => .after fun _ => .ite (.expectedWithHint _ _) (.pure rfl)

theorem StatementLevel.PlacesJumps.statementOver (h : below.PlacesJumps) (expr : Parser Expr)
    (loops : Nat) :
    Yields (statementOver expr below loops) fun s => s.jumpsWithin (0 < loops) = true := by
  refine .after fun token => ?_
  have ended (s : Stmt) (placed : s.jumpsWithin (0 < loops) = true) :
      Yields (do let _ ← eatMark .semicolon; return s) fun s =>
        s.jumpsWithin (0 < loops) = true := .after fun _ => .pure placed
  dsimp only
  split
  · refine Yields.bind (Q := fun s => s.jumpsWithin (0 < loops) = true) ?_ ended
    exact (yields_block (h.statement loops)).map fun body hbody => hbody
  · split
    · exact (yields_exprStatement expr token.loc).bind ended
    · exact (yields_keywordStatement expr h loops _ token.loc).bind ended
  · exact (yields_exprStatement expr token.loc).bind ended

/-- By induction on the levels that are left: jumps stand in loops. -/
theorem placesJumps_statementsWithin (room : Nat) : (statementsWithin room).PlacesJumps := by
  induction room with
  | zero => exact ⟨fun _ => .nestingTooDeep, fun _ _ => .nestingTooDeep⟩
  | succ room ih => exact ⟨ih.statementOver _, yields_conditional _ ih⟩

theorem yields_programFrom (h : Yields statement fun s => s.jumpsWithin inLoop = true) (n : Nat) :
    Yields (programFrom statement n) fun program =>
      Stmt.jumpsWithinAll inLoop program = true := by
  induction n with
  | zero => exact .pure rfl
  | succ n ih =>
      refine .after fun token => .ite (.pure rfl) ?_
      refine h.bind fun s hs => ih.bind fun rest hrest => .pure ?_
      exact Bool.and_eq_true_iff.mpr ⟨hs, hrest⟩

/-- The programs that the grammar accepts have all their jumps in loops. -/
theorem closed_of_parse {source : String} {program : Program} (h : parse source = .ok program) :
    Stmt.Closed program := by
  have placed : Yields Source.program Stmt.Closed := .after fun n =>
    yields_programFrom ((placesJumps_statementsWithin maxNesting).statement 0) n
  obtain ⟨tokens, c, -, made⟩ := exists_of_parse h
  exact placed _ _ _ made

end Source

/-! ### How statements end -/

/-- The signal is one to a loop. -/
def Signal.jumps : Signal → Bool
  | .break => true
  | .continue => true
  | .next => false
  | .return _ => false

/-- The computation never ends with a signal to a loop. -/
def Run.Quiet (x : Run Signal) : Prop :=
  ∀ m signal m', x m = .done signal m' → signal.jumps = false

namespace Run.Quiet

variable {α : Type} {x : Run Signal}

theorem result {signal : Signal} (h : signal.jumps = false) : (Run.result signal).Quiet := by
  rintro m _ m' ⟨⟩
  exact h

/-- Only the end of a computation matters. -/
theorem after {y : Run α} {f : α → Run Signal} (h : ∀ a, (f a).Quiet) : (y >>= f).Quiet := by
  intro m signal m' ended
  obtain ⟨a, m₁, -, last⟩ := Run.bind_eq_done_iff.mp ended
  exact h a m₁ signal m' last

theorem thenNext (y : Run Unit) : y.thenNext.Quiet := after fun _ => result rfl

theorem located (h : x.Quiet) (loc : Location) : (x.located loc).Quiet := by
  intro m signal m' ended
  simp only [Run.located] at ended
  cases hx : x m with
  | done signal₁ m₁ =>
      rw [hx] at ended
      cases ended
      exact h m _ _ hx
  | fault f m₁ => rw [hx] at ended; cases ended
  | cut why m₁ => rw [hx] at ended; cases ended

theorem inChildOf (h : x.Quiet) (parent : ScopeId) (vars : Bindings) :
    (x.inChildOf parent vars).Quiet := by
  intro m signal m' ended
  simp only [Run.inChildOf, Run.ensuring] at ended
  cases hx : x (m.enterChild parent vars) with
  | done signal₁ m₁ =>
      rw [hx] at ended
      cases ended
      exact h _ _ _ hx
  | fault f m₁ => rw [hx] at ended; cases ended
  | cut why m₁ => rw [hx] at ended; cases ended

theorem inChild (h : x.Quiet) (vars : Bindings) : (x.inChild vars).Quiet :=
  fun m => h.inChildOf m.engine.scope vars m

theorem attempt {otherwise : String → Run Signal} (h : x.Quiet)
    (hother : ∀ message, (otherwise message).Quiet) : (Run.attempt x otherwise).Quiet := by
  intro m signal m' ended
  simp only [Run.attempt] at ended
  cases hx : x m with
  | cut why m₁ => rw [hx] at ended; cases ended
  | done signal₁ m₁ =>
      rw [hx] at ended
      cases ended
      exact h m _ _ hx
  | fault f m₁ =>
      rw [hx] at ended
      cases f with
      | cancelled => cases ended
      | failure k d => exact hother _ m₁ _ _ ended

theorem ite {b : Prop} [Decidable b] {y : Run Signal} (hx : x.Quiet) (hy : y.Quiet) :
    (if b then x else y).Quiet := by
  split
  · exact hx
  · exact hy

theorem statement (h : x.Quiet) (loc : Location) : (Run.statement loc x).Quiet := by
  rw [Run.statement_eq_bind]
  refine after fun stopping => ite ?_ ((after fun _ => h).located loc)
  rintro m signal m' ⟨⟩

/-- After a round a loop goes on or ends, and keeps signals to itself. -/
theorem afterRound {rest : Run Signal} (h : rest.Quiet) (signal : Signal) :
    (Run.afterRound rest signal).Quiet := by
  cases signal with
  | next => exact h
  | «continue» => exact h
  | «break» => exact result rfl
  | «return» v => exact result rfl

theorem forRounds (body : α → Run Signal) (items : List α) : (Run.forRounds body items).Quiet := by
  induction items with
  | nil => exact result rfl
  | cons a rest ih =>
      rw [Run.forRounds_cons]
      exact after fun _ => after (afterRound ih)

theorem countRounds (body : Nat → Run Signal) (left i : Nat) :
    (Run.countRounds body left i).Quiet := by
  induction left generalizing i with
  | zero => exact result rfl
  | succ left ih =>
      rw [Run.countRounds_succ]
      exact after fun _ => after (afterRound (ih (i + 1)))

theorem whileRounds (limit : Nat) (test : Run Value) (body : Run Signal) (left : Nat) :
    (Run.whileRounds limit test body left).Quiet := by
  induction left with
  | zero =>
      rw [Run.whileRounds_eq]
      refine after fun v => ite ?_ (result rfl)
      rintro m signal m' ⟨⟩
  | succ left ih =>
      rw [Run.whileRounds_eq]
      exact after fun v => ite (after (afterRound ih)) (result rfl)

end Run.Quiet

mutual

/-- A statement outside every loop with its jumps in loops does not jump. -/
theorem quiet_exec (sv : Services) (s : Stmt) (h : s.jumpsWithin false = true) :
    (exec sv s).Quiet := by
  match s with
  | .break _ => cases h
  | .continue _ => cases h
  | .block loc body => exact ((quiet_execAll sv body h).inChild []).statement loc
  | .cond loc test thenBody none =>
      exact .statement (.after fun v =>
        .ite ((quiet_execAll sv thenBody h).inChild []) (.result rfl)) loc
  | .cond loc test thenBody (some elseBody) =>
      obtain ⟨hthen, helse⟩ := Bool.and_eq_true_iff.mp h
      exact .statement (.after fun v => .ite ((quiet_execAll sv thenBody hthen).inChild [])
        ((quiet_execAll sv elseBody helse).inChild [])) loc
  | .attempt loc body var handler =>
      obtain ⟨hbody, hhandler⟩ := Bool.and_eq_true_iff.mp h
      exact .statement (.attempt ((quiet_execAll sv body hbody).inChild []) fun message =>
        (quiet_execAll sv handler hhandler).inChild _) loc
  | .loop loc count body =>
      exact .statement (.after fun _ => .after fun n => .countRounds _ n 0) loc
  | .while loc test body => exact .statement (.after fun limit => .whileRounds limit _ _ limit) loc
  | .foreach loc var items body =>
      exact .statement (.after fun _ => .after fun elements => .forRounds _ elements) loc
  | .set loc target op value => exact .statement (.after fun _ => .thenNext _) loc
  | .declare loc name value => exact .statement (.after fun _ => .thenNext _) loc
  | .print loc value => exact .statement (.after fun _ => .thenNext _) loc
  | .return loc value => exact .statement (.after fun _ => .result rfl) loc
  | .define loc name params body => exact .statement (.thenNext _) loc
  | .expr loc value => exact .statement (.after fun _ => .result rfl) loc
  | .on loc event body => exact .statement (.after fun _ => .thenNext _) loc
  | .host loc r => exact .statement (.thenNext _) loc

theorem quiet_execAll (sv : Services) (body : List Stmt) (h : Stmt.Closed body) :
    (execAll sv body).Quiet := by
  match body with
  | [] => exact .result rfl
  | s :: rest =>
      obtain ⟨hs, hrest⟩ := Bool.and_eq_true_iff.mp h
      intro m signal m' ended
      obtain ⟨first, m₁, hfirst, last⟩ := Run.bind_eq_done_iff.mp ended
      cases first with
      | next => exact quiet_execAll sv rest hrest m₁ signal m' last
      | _ =>
          cases last
          exact quiet_exec sv s hs m _ _ hfirst

end

/-! ### What statements install -/

mutual

/-- Functions and handlers have their jumps in loops of their own bodies. -/
theorem Stmt.installs_of_jumpsWithin (inLoop : Bool) (s : Stmt)
    (h : s.jumpsWithin inLoop = true) : s.Installs Stmt.Closed Stmt.Closed := by
  match s with
  | .define _ _ _ _ => exact h
  | .on _ _ _ => exact h
  | .block _ body => exact Stmt.installsAll_of_jumpsWithin inLoop body h
  | .cond _ _ thenBody none => exact Stmt.installsAll_of_jumpsWithin inLoop thenBody h
  | .cond _ _ thenBody (some elseBody) =>
      obtain ⟨hthen, helse⟩ := Bool.and_eq_true_iff.mp h
      exact ⟨Stmt.installsAll_of_jumpsWithin inLoop thenBody hthen,
        Stmt.installsAll_of_jumpsWithin inLoop elseBody helse⟩
  | .attempt _ body _ handler =>
      obtain ⟨hbody, hhandler⟩ := Bool.and_eq_true_iff.mp h
      exact ⟨Stmt.installsAll_of_jumpsWithin inLoop body hbody,
        Stmt.installsAll_of_jumpsWithin inLoop handler hhandler⟩
  | .loop _ _ body => exact Stmt.installsAll_of_jumpsWithin true body h
  | .while _ _ body => exact Stmt.installsAll_of_jumpsWithin true body h
  | .foreach _ _ _ body => exact Stmt.installsAll_of_jumpsWithin true body h
  | .set _ _ _ _ | .declare _ _ _ | .print _ _ | .break _ | .continue _ | .return _ _
  | .expr _ _ | .host _ _ => trivial

theorem Stmt.installsAll_of_jumpsWithin (inLoop : Bool) (body : List Stmt)
    (h : Stmt.jumpsWithinAll inLoop body = true) :
    Stmt.InstallsAll Stmt.Closed Stmt.Closed body := by
  match body with
  | [] => trivial
  | s :: rest =>
      obtain ⟨hs, hrest⟩ := Bool.and_eq_true_iff.mp h
      exact ⟨Stmt.installs_of_jumpsWithin inLoop s hs,
        Stmt.installsAll_of_jumpsWithin inLoop rest hrest⟩

end

/-! ### Judges of jumps -/

/-- The judge lets every signal pass that is not one to a loop. -/
def Judge.Fair (judge : Judge) : Prop :=
  ∀ signal, signal.jumps = false → judge signal = Run.result signal

theorem Judge.Fair.passes {judge : Judge} (fair : judge.Fair) {body : List Stmt}
    (closed : Stmt.Closed body) : judge.Passes Stmt.Closed Stmt.Closed body where
  same := fun sv => execJudged_eq fun m signal m' ended =>
    fair signal (quiet_execAll sv body closed m signal m' ended)
  installs := Stmt.installsAll_of_jumpsWithin false body closed

theorem Judge.Fair.content {judge : Judge} (fair : judge.Fair) :
    judge.Content Stmt.Closed Stmt.Closed :=
  ⟨fair.passes, fair.passes⟩

/-! ### Engines that are given accepted programs -/

/-- The program is that of some source text. -/
def Accepted (program : Program) : Prop := ∃ source, Source.parse source = .ok program

/-- The engines of hosts that only execute accepted programs, as they are between the calls of the
host and wherever a call is left unfinished. Besides calls a host may do what leaves the functions
and the handlers alone. -/
inductive Hosted : Machine → Prop
  | new (party : Party) (limits : Limits) (world : World) : Hosted (.new party limits world)
  | call {m : Machine} {call : EngineCall} (before : Hosted m) (accepted : call.Brings Accepted)
      (allowance : Nat) : Hosted (call.start allowance m).machine
  | host {m m' : Machine} (before : Hosted m)
      (functions : m'.engine.functions = m.engine.functions)
      (handlers : m'.engine.handlers = m.engine.handlers) : Hosted m'

theorem EngineCall.Brings.passes {judge : Judge} (fair : judge.Fair) {call : EngineCall}
    (accepted : call.Brings Accepted) : call.Brings (judge.Passes Stmt.Closed Stmt.Closed) := by
  cases call with
  | run source => exact fun program parsed => fair.passes (Source.closed_of_parse parsed)
  | execute program =>
      obtain ⟨source, parsed⟩ := accepted
      exact fair.passes (Source.closed_of_parse parsed)
  | _ => trivial

/-- Functions and handlers have closed bodies, whichever run has defined them. -/
theorem Hosted.stores {m : Machine} (hosted : Hosted m) : m.Stores Stmt.Closed Stmt.Closed := by
  induction hosted with
  | new party limits world => exact ⟨List.forall_mem_nil _, List.forall_mem_nil _⟩
  | host before functions handlers ih => exact ih.of_eq functions handlers
  | call before accepted allowance ih =>
      have fair : Judge.Fair Run.result := fun _ _ => rfl
      exact (start_judged fair.content allowance (accepted.passes fair) _ ih).kept

/-- Signals to loops stay in their loops. An accepted program has each `break` and each `continue`
in a loop of the same body. The engine with the judge who lets everything pass is the engine. On
an engine that executes accepted programs, neither an accepted program nor the body of a function
or of a handler ends with a signal to a loop, wherever it is executed; and no call of the host
ever comes to the end of a body with one, so that it makes no difference what a judge would do
with it. -/
theorem loop_signals_confined :
    (∀ source program, Source.parse source = .ok program →
      Stmt.jumpsWithinAll false program = true) ∧
    (∀ (call : EngineCall) (allowance : Nat) (m : Machine),
      call.startJudged Run.result allowance m = call.start allowance m) ∧
    ∀ m, Hosted m →
      (∀ body, Accepted body ∨ (∃ f ∈ m.engine.functions, f.2.body = body) ∨
          (∃ h ∈ m.engine.handlers.handlers, h.body = body) →
        ∀ sv, (execAll sv body).Quiet) ∧
      ∀ (call : EngineCall) (allowance : Nat) (judge : Judge), call.Brings Accepted → judge.Fair →
        call.startJudged judge allowance m = call.start allowance m := by
  refine ⟨fun _ _ => Source.closed_of_parse, startJudged_result, fun m hosted => ⟨?_, ?_⟩⟩
  · intro body known sv
    apply quiet_execAll
    obtain ⟨source, parsed⟩ | ⟨f, mem, rfl⟩ | ⟨h, mem, rfl⟩ := known
    · exact Source.closed_of_parse parsed
    · exact hosted.stores.functions f mem
    · exact hosted.stores.handlers h mem
  · intro call allowance judge accepted fair
    exact (start_judged fair.content allowance (accepted.passes fair) m hosted.stores).eq

/-- The judge who ends everything at the first signal to a loop. -/
def Judge.strict : Judge := fun signal =>
  if signal.jumps then fun m => .cut .allowance m else Run.result signal

/-- A source text with a function that leaves a loop. -/
def leavingSource : String := "def f() \x7b while x \x7b break \x7d \x7d"

/-- The function of one run is called in the next, and no signal comes to its end. -/
theorem leavingSource_confined :
    (∃ program, Source.parse leavingSource = .ok program ∧
      Stmt.jumpsWithinAll false program = true) ∧
    let m := ((EngineCall.run leavingSource).start 9 (.new 0 {} {})).machine
    (EngineCall.run "f()").startJudged Judge.strict 9 m = (EngineCall.run "f()").start 9 m := by
  have accepted (source : String) : (EngineCall.run source).Brings Accepted :=
    fun _ parsed => ⟨source, parsed⟩
  refine ⟨?_, ?_⟩
  · cases parsed : Source.parse leavingSource with
    | ok program => exact ⟨program, rfl, loop_signals_confined.1 _ _ parsed⟩
    | error f =>
        have ok : (Source.parse leavingSource).isOk = true := by decide +kernel
        rw [parsed] at ok
        cases ok
  · have fair : Judge.strict.Fair := fun signal quiet => by simp [Judge.strict, quiet]
    have hosted := Hosted.call (.new 0 {} {}) (accepted leavingSource) 9
    exact (loop_signals_confined.2.2 _ hosted).2 (.run "f()") 9 Judge.strict (accepted "f()") fair

end HostScript
