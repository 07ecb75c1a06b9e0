import HostScript.Proofs.Sessions
import HostScript.Proofs.Termination

/-!
# Engines with a judge

A body is executed in three places: as a program, in a call and for an event. How it ends is
then a signal, of which only a `return` is looked at. Here the engine is written once more with a
judge in these places, who sees every such signal before the engine does. A judge who is content
with all bodies that an engine is given and stores makes no difference to any call of the host,
so what he would do with other signals says which signals never come.

## Implementation notes

Which bodies a judge is content with is a parameter: for functions and for handlers, since
statements install both. `start_judged` compares an engine with the judge and one without, and
so it says that the two are the same engine: for the judge who lets everything pass wherever it
starts, and for another judge where he is content with what the engine stores.
-/

namespace HostScript

/-- Who sees the signal at the end of a body, and decides how the body ends. -/
abbrev Judge := Signal → Run Signal

/-- Execute a body, with a judge at its end. -/
def execJudged (judge : Judge) (sv : Services) (body : List Stmt) : Run Signal :=
  execAll sv body >>= judge

/-- Call a function, with a judge at the end of its body. -/
def callJudged (judge : Judge) (sv : Services) (f : UserFunction) (args : List Value) :
    Run Value := fun m =>
  if m.engine.limits.allowsCall m.engine.callStack.length then
    ((Run.inChildOf f.closure (bindParams f.params args []) (execJudged judge sv f.body)).ensuring
      Machine.popCall >>= fun signal => Run.result signal.returned) (m.pushCall f.name)
  else .fault (.recursion m.engine.limits.maxRecursionDepth m.engine.activeCalls)
    (m.record (.refused f.name))

/-- How the frame of a handler ends that was opened at `m`, given how its body ends. -/
def Outcome.handled (m : Machine) : Outcome Signal → Outcome Bool
  | .done _ m' =>
    .done true (m'.leaveHandler m.engine.scope m.engine.callStack m.engine.clock)
  | .fault .cancelled m' =>
    .done true (m'.leaveHandler m.engine.scope m.engine.callStack m.engine.clock)
  | .fault (.failure k d) m' =>
    .done true ((m'.leaveHandler m.engine.scope m.engine.callStack m.engine.clock).report
      (Fault.failure k d).describe)
  | .cut why m' => .cut why m'

/-- Run one handler invocation, with a judge at the end of its body. -/
def handleJudged (judge : Judge) (sv : Services) (fired : Fired) : Run Bool := fun m =>
  match m.engine.handlers.get? fired.handler with
  | none => .done false m
  | some h =>
    if m.engine.stopping then .done false m
    else (execJudged judge sv h.body (m.enterHandler h fired.payload)).handled m

/-- Wait until an ending has come, with a judge at the end of every handler. -/
def awaitJudged (judge : Judge) (sv : Services) (a : Awaited) : (rounds : Nat) → Run Reply
  | 0, m => .cut .allowance m
  | rounds + 1, m =>
    match m.turn a with
    | .event fired m =>
      Run.andThen (handleJudged judge sv fired) (fun _ => awaitJudged judge sv a rounds) m
    | .ending r m => .done r m
    | .time (some m) _ => awaitJudged judge sv a rounds m
    | .time none m => .cut .allowance m

/-- Calls and waiting, with a judge. -/
def servicesJudged (judge : Judge) : (allowance : Nat) → Services
  | 0 => { call := fun _ _ m => .cut .allowance m, await := fun _ m => .cut .allowance m }
  | allowance + 1 =>
    { call := fun f args m => callJudged judge (servicesJudged judge allowance) f args m
      await := fun a m => awaitJudged judge (servicesJudged judge allowance) a allowance m }

/-- Run queued handlers, with a judge at the end of each. -/
def dispatchJudged (judge : Judge) (sv : Services) : (steps left ran : Nat) → Run Nat
  | 0, _, _, m => .cut .allowance m
  | _ + 1, 0, ran, m => .done ran m
  | steps + 1, left + 1, ran, m =>
    if m.engine.stopping then .done ran m
    else match m with
      | ⟨e, w⟩ =>
        match e.dequeue? .batch with
        | none => .done ran ⟨e, w⟩
        | some (fired, e) =>
          match handleJudged judge sv fired ⟨e, w⟩ with
          | .done true m => dispatchJudged judge sv steps left (ran + 1) m
          | .done false m => dispatchJudged judge sv steps (left + 1) ran m
          | .fault f m => .fault f m
          | .cut why m => .cut why m

/-- Run handlers one after the other, with a judge at the end of each. -/
def fireJudged (judge : Judge) (sv : Services) (payload : Value) :
    (ids : List HandlerId) → (ran : Nat) → Run Nat
  | [], ran, m => .done ran m
  | id :: rest, ran, m =>
    match handleJudged judge sv ⟨id, payload⟩ m with
    | .done true m => fireJudged judge sv payload rest (ran + 1) m
    | .done false m => fireJudged judge sv payload rest ran m
    | .fault f m => .fault f m
    | .cut why m => .cut why m

/-- Execute a program at the top level, with a judge. -/
def executeJudged (judge : Judge) (allowance : Nat) (program : Program) :
    Run (Except Fault Value) := fun m =>
  (execJudged judge (servicesJudged judge allowance) program m.beginRun).concluded

/-- Carry out a call of the host, with a judge at the end of every body. -/
def EngineCall.startJudged (judge : Judge) (allowance : Nat) : EngineCall → Run Answer
  | .run source =>
    match Source.parse source with
    | .ok program => do
      let r ← executeJudged judge allowance program
      return .result r
    | .error f => do
      Run.change fun m => m.withState .errored
      return .result (.error f)
  | .execute program => do
    let r ← executeJudged judge allowance program
    return .result r
  | .dispatch => do
    let ran ← (do
      let limit ← Run.view fun m => m.engine.limits.maxLoopIterations
      let ran ← dispatchJudged judge (servicesJudged judge allowance) allowance limit 0
      Run.change Machine.clearStop
      return ran : Run Nat)
    return .count ran
  | .fire event payload => do
    let ran ← (do
      let ids ← Run.view fun m => m.engine.handlers.forEvent event
      let ran ← fireJudged judge (servicesJudged judge allowance) payload ids 0
      Run.change Machine.clearStop
      return ran : Run Nat)
    return .count ran
  | .pump ms => do
    (do
      let now ← Run.view fun m => m.world.now
      let _ ← (servicesJudged judge allowance).suspend (.timer (now + ms))
      Run.change Machine.clearStop : Run Unit)
    return .nothing
  | .cleanup => do
    Run.change Machine.cleanup
    return .nothing

/-! ### Computations that do the same -/

/-- Two computations have ended in the same way, at a machine with the property. -/
structure Outcome.SameIn {α : Type} (I : Machine → Prop) (o o' : Outcome α) : Prop where
  eq : o = o'
  kept : I o'.machine

/-- The computations do the same on machines with the property, and keep it. -/
def Coincide {α : Type} (I : Machine → Prop) (x y : Run α) : Prop :=
  ∀ m, I m → (x m).SameIn I (y m)

namespace Coincide

variable {α β : Type} {I : Machine → Prop} {x y : Run α} {m : Machine}

theorem refl (h : ∀ m, I m → I (x m).machine) : Coincide I x x := fun m hm => ⟨rfl, h m hm⟩

theorem bind {f g : α → Run β} (first : Coincide I x y) (then_ : ∀ a, Coincide I (f a) (g a)) :
    Coincide I (x >>= f) (y >>= g) := by
  intro m hm
  obtain ⟨same, kept⟩ := first m hm
  simp only [Bind.bind, Run.andThen, same]
  cases hy : y m with
  | done a m₁ =>
      rw [hy] at kept
      exact then_ a m₁ kept
  | fault f m₁ =>
      rw [hy] at kept
      exact ⟨rfl, kept⟩
  | cut why m₁ =>
      rw [hy] at kept
      exact ⟨rfl, kept⟩

theorem located (loc : Location) (h : Coincide I x y) :
    Coincide I (x.located loc) (y.located loc) := by
  intro m hm
  obtain ⟨same, kept⟩ := h m hm
  simp only [Run.located, same]
  cases hy : y m with
  | _ => rw [hy] at kept; exact ⟨rfl, kept⟩

theorem attempt {x y : Run Signal} {otherwise otherwise' : String → Run Signal}
    (h : Coincide I x y) (hother : ∀ message, Coincide I (otherwise message) (otherwise' message)) :
    Coincide I (Run.attempt x otherwise) (Run.attempt y otherwise') := by
  intro m hm
  obtain ⟨same, kept⟩ := h m hm
  simp only [Run.attempt, same]
  cases hy : y m with
  | cut why m₁ => rw [hy] at kept; exact ⟨rfl, kept⟩
  | done signal m₁ => rw [hy] at kept; exact ⟨rfl, kept⟩
  | fault f m₁ =>
      rw [hy] at kept
      cases f with
      | cancelled => exact ⟨rfl, kept⟩
      | failure k d => exact hother _ m₁ kept

/-- What is opened before the computations and closed behind them keeps the property, too. -/
theorem ensuring (open_ : Machine → Machine) (close : Machine → Machine → Machine)
    (h : Coincide I x y) (opens : ∀ {m}, I m → I (open_ m))
    (closes : ∀ m {m'}, I m' → I (close m m')) :
    Coincide I (fun m => x.ensuring (close m) (open_ m))
      fun m => y.ensuring (close m) (open_ m) := by
  intro m hm
  obtain ⟨same, kept⟩ := h (open_ m) (opens hm)
  simp only [Run.ensuring, same]
  cases hy : y (open_ m) with
  | done a m₁ => rw [hy] at kept; exact ⟨rfl, closes m kept⟩
  | fault f m₁ => rw [hy] at kept; exact ⟨rfl, closes m kept⟩
  | cut why m₁ => rw [hy] at kept; exact ⟨rfl, kept⟩

end Coincide

/-! ### What an engine stores -/

/-- The functions and the handlers of the engine have bodies of the given kinds. -/
structure Machine.Stores (functions handlers : List Stmt → Prop) (m : Machine) : Prop where
  functions : ∀ f ∈ m.engine.functions, functions f.2.body
  handlers : ∀ h ∈ m.engine.handlers.handlers, handlers h.body

section Stores

variable {functions handlers : List Stmt → Prop} {m m' : Machine}

theorem Machine.Stores.of_eq (h : m.Stores functions handlers)
    (sameFunctions : m'.engine.functions = m.engine.functions)
    (sameHandlers : m'.engine.handlers = m.engine.handlers) : m'.Stores functions handlers := by
  refine ⟨?_, ?_⟩
  · rw [sameFunctions]
    exact h.functions
  · rw [sameHandlers]
    exact h.handlers

theorem Machine.Stores.notified (h : m.Stores functions handlers)
    (notified : m.engine.Notified m'.engine) : m'.Stores functions handlers := by
  obtain ⟨queue, stopping, journal, same⟩ := notified
  exact h.of_eq (by rw [same]) (by rw [same])

/-- A step is written by an engine with the same functions and handlers. -/
theorem Machine.Stores.note (h : m.Stores functions handlers) {e : Engine} {s : Step} {w : World}
    (sameFunctions : e.functions = m.engine.functions)
    (sameHandlers : e.handlers = m.engine.handlers) :
    Machine.Stores functions handlers ⟨e.record s, w⟩ := by
  refine h.of_eq ?_ ?_
  · simpa only [Engine.record_eq] using sameFunctions
  · simpa only [Engine.record_eq] using sameHandlers

theorem Machine.Stores.body_of_function? (h : m.Stores functions handlers) {name : String}
    {f : UserFunction} (found : m.engine.function? name = some f) : functions f.body := by
  obtain ⟨before, after, table, -⟩ := List.lookup_eq_some_iff.mp found
  refine h.functions (name, f) ?_
  rw [table]
  exact List.mem_append_right _ List.mem_cons_self

theorem Machine.Stores.body_of_get? (h : m.Stores functions handlers) {id : HandlerId}
    {handler : Handler} (found : m.engine.handlers.get? id = some handler) :
    handlers handler.body :=
  h.handlers handler (List.mem_of_find?_eq_some found)

theorem Machine.Stores.register (h : m.Stores functions handlers) (event : String)
    {body : List Stmt} (kind : handlers body) :
    (m.register event body).Stores functions handlers := by
  obtain ⟨e, w⟩ := m
  have added : ∀ x ∈ (e.handlers.register event body e.scope).2.handlers, handlers x.body := by
    intro x mem
    rcases List.mem_append.mp mem with old | new
    · exact h.handlers x old
    · rw [List.mem_singleton.mp new]
      exact kind
  simp only [Machine.register]
  split
  · exact ⟨h.functions, added⟩
  · refine ⟨h.functions, fun x mem => ?_⟩
    obtain ⟨y, mem', rfl⟩ := List.mem_map.mp mem
    split
    · exact added y mem'
    · exact added y mem'

theorem Machine.Stores.define {e : Engine} {w : World}
    (h : Machine.Stores functions handlers ⟨e, w⟩) {f : UserFunction} (kind : functions f.body) :
    Machine.Stores functions handlers ⟨e.define f, w⟩ := by
  refine ⟨?_, h.handlers⟩
  intro g mem
  rcases List.mem_cons.mp mem with rfl | old
  · exact kind
  · exact h.functions g (List.mem_filter.mp old).1

theorem Machine.Stores.cleanup (m : Machine) : m.cleanup.Stores functions handlers :=
  ⟨List.forall_mem_nil _, List.forall_mem_nil _⟩

/-- Each turn of a suspended script takes an event, or lets time pass and events come. -/
theorem Machine.notified_turn (m : Machine) (a : Awaited) :
    match m.turn a with
    | .event _ m' => m.engine.Notified m'.engine
    | .ending _ m' => m.engine.Notified m'.engine
    | .time none m' => m.engine.Notified m'.engine
    | .time (some m') _ => m.engine.Notified m'.engine := by
  have shown : m.engine.Notified m.showing.engine := .refl _
  cases ht : m.turn a with
  | event fired m₁ =>
      obtain ⟨-, e', dequeued, rfl⟩ := nextFired?_eq_some (turn_eq_event ht)
      obtain ⟨queue, journal, rfl⟩ := Engine.eq_of_dequeue? dequeued
      exact ⟨queue, _, journal, rfl⟩
  | ending r m₁ =>
      obtain rfl := turn_eq_ending ht
      exact shown
  | time later m₁ =>
      obtain ⟨rfl, waiting, passed⟩ := turn_eq_time ht
      cases later with
      | none => exact shown
      | some m₂ => exact shown.trans (asides_passTime? waiting passed.symm).notified

theorem Machine.Stores.turn (h : m.Stores functions handlers) (a : Awaited) :
    match m.turn a with
    | .event _ m' => m'.Stores functions handlers
    | .ending _ m' => m'.Stores functions handlers
    | .time none m' => m'.Stores functions handlers
    | .time (some m') _ => m'.Stores functions handlers := by
  have turned := m.notified_turn a
  cases ht : m.turn a with
  | event fired m₁ => rw [ht] at turned; exact h.notified turned
  | ending r m₁ => rw [ht] at turned; exact h.notified turned
  | time later m₁ =>
      rw [ht] at turned
      cases later with
      | none => exact h.notified turned
      | some m₂ => exact h.notified turned

end Stores

/-! ### Content judges -/

/-- The judge lets the signals of a body pass, wherever it is executed, and the body installs
bodies of the given kinds. -/
structure Judge.Passes (judge : Judge) (functions handlers : List Stmt → Prop)
    (body : List Stmt) : Prop where
  same : ∀ sv, execJudged judge sv body = execAll sv body
  installs : Stmt.InstallsAll functions handlers body

/-- The judge lets the signals of all bodies of the given kinds pass. -/
structure Judge.Content (judge : Judge) (functions handlers : List Stmt → Prop) : Prop where
  function : ∀ {body}, functions body → judge.Passes functions handlers body
  handler : ∀ {body}, handlers body → judge.Passes functions handlers body

/-- The services do the same with functions of the given kind, and while they wait. -/
structure Services.Coincide (I : Machine → Prop) (functions : List Stmt → Prop)
    (sv sv' : Services) : Prop where
  call : ∀ {f : UserFunction} (args : List Value), functions f.body →
    HostScript.Coincide I (sv.call f args) (sv'.call f args)
  await : ∀ a, HostScript.Coincide I (sv.await a) (sv'.await a)

/-- A judge who passes what a body can end with does not matter to it. -/
theorem execJudged_eq {judge : Judge} {sv : Services} {body : List Stmt}
    (passes : ∀ m signal m', execAll sv body m = .done signal m' →
      judge signal = Run.result signal) : execJudged judge sv body = execAll sv body := by
  funext m
  simp only [execJudged, Bind.bind, Run.andThen]
  cases hm : execAll sv body m with
  | fault f m' => rfl
  | cut why m' => rfl
  | done signal m' =>
      dsimp only
      rw [passes m signal m' hm]
      rfl

section Law

variable {functions handlers : List Stmt → Prop} {judge : Judge} {sv sv' : Services}

theorem coincide_plain {α : Type} {x : Run α} (hx : x.Plain) :
    Coincide (Machine.Stores functions handlers) x x := by
  refine .refl fun m h => ?_
  have ends := (hx m).1
  cases hm : x m with
  | cut why m₁ => rw [hm] at ends; exact ends.elim
  | done a m₁ => rw [hm] at ends; exact h.of_eq ends.functions ends.handlers
  | fault e m₁ => rw [hm] at ends; exact h.of_eq ends.functions ends.handlers

theorem coincide_inChildOf {α : Type} {x y : Run α} (parent : ScopeId) (vars : Bindings)
    (h : Coincide (Machine.Stores functions handlers) x y) :
    Coincide (Machine.Stores functions handlers) (x.inChildOf parent vars)
      (y.inChildOf parent vars) :=
  .ensuring (fun m => m.enterChild parent vars) (fun m m' => m'.withScope m.engine.scope) h
    (fun h => h.of_eq rfl rfl) fun _ _ h => h.of_eq rfl rfl

theorem coincide_suspend
    (hsv : Services.Coincide (Machine.Stores functions handlers) functions sv sv') (a : Awaited) :
    Coincide (Machine.Stores functions handlers) (sv.suspend a) (sv'.suspend a) :=
  .ensuring Machine.suspend (fun m m' => m'.resume m.world.now) (hsv.await a)
    (fun h => h.note rfl rfl) fun _ _ h => h.note rfl rfl

theorem coincide_callByName
    (hsv : Services.Coincide (Machine.Stores functions handlers) functions sv sv') (name : String)
    (args : List Value) :
    Coincide (Machine.Stores functions handlers) (sv.callByName name args)
      (sv'.callByName name args) := by
  intro m h
  cases hf : m.world.function? name with
  | some f =>
      simp only [Services.callByName, hf, Services.callHost_eq]
      let reply := f.answer { args, heap := m.world.heap, now := m.world.now, earlier := f.calls }
      have acted : Machine.Stores functions handlers
          (reply.acts.foldl Machine.act ⟨m.engine, m.world.countCall f.name⟩) :=
        h.notified (asides_acts ⟨m.engine, m.world.countCall f.name⟩ reply.acts).notified
      have replied : Coincide (Machine.Stores functions handlers) (sv.replied f.name reply)
          (sv'.replied f.name reply) := by
        simp only [Services.replied]
        cases reply.delay with
        | none => exact coincide_plain (.receive f.name reply.result)
        | some ms =>
            refine (coincide_plain (.view fun _ _ _ => rfl)).bind fun now => ?_
            exact (coincide_suspend hsv _).bind fun r => coincide_plain (.receive f.name r)
      exact replied _ acted
  | none =>
      cases hb : Builtin.ofName? name with
      | some b =>
          simp only [Services.callByName, hf, hb]
          exact coincide_plain (.callBuiltin b args) m h
      | none =>
          cases hu : m.engine.function? name with
          | none =>
              simp only [Services.callByName, hf, hb, hu]
              exact ⟨rfl, h⟩
          | some f =>
              simp only [Services.callByName, hf, hb, hu]
              exact hsv.call args (h.body_of_function? hu) m h

theorem coincide_define (name : String) (params : List String) {body : List Stmt}
    (kind : functions body) :
    Coincide (Machine.Stores functions handlers) (Run.define name params body)
      (Run.define name params body) := by
  refine .refl fun m h => ?_
  obtain ⟨e, w⟩ := m
  simp only [Run.define]
  split
  · exact h
  · exact h.define kind

theorem coincide_addHandler (event : String) {body : List Stmt} (kind : handlers body) :
    Coincide (Machine.Stores functions handlers) (Run.addHandler event body)
      (Run.addHandler event body) := by
  refine .refl fun m h => ?_
  simp only [Run.addHandler]
  split
  · exact h.register event kind
  · exact h

theorem coincide_openAt (base index : Value) :
    Coincide (Machine.Stores functions handlers) (Run.openAt base index)
      (Run.openAt base index) := by
  refine .refl fun m h => ?_
  obtain opened | ⟨a, -, -, held⟩ := Run.openAt_cases base index m
  · rw [opened]
    exact h
  · rw [held]
    exact h

/-- With services that do the same, all expressions and statements do the same. -/
theorem coincide_law
    (hsv : Services.Coincide (Machine.Stores functions handlers) functions sv sv') :
    LawOf (fun _ => True) functions handlers fun _ x =>
      Coincide (Machine.Stores functions handlers) (x sv) (x sv') := by
  constructor
  case plain => exact coincide_plain
  case bind => exact fun hx hf => hx.bind hf
  case located => exact fun _ hx => hx.located _
  case attempt => exact Coincide.attempt
  case inChild => exact fun vars hx m h => coincide_inChildOf m.engine.scope vars hx m h
  case bar => exact fun loc => .refl fun m h => h.note rfl rfl
  case openAt => exact coincide_openAt
  case emit =>
    exact fun event payload => .refl fun m h => h.notified (asides_emit m event payload).notified
  case suspend => exact fun _ => coincide_suspend hsv _
  case callByName => exact coincide_callByName hsv
  case define => exact coincide_define
  case addHandler => exact fun event body => coincide_addHandler event

theorem coincide_execJudged
    (hsv : Services.Coincide (Machine.Stores functions handlers) functions sv sv')
    {body : List Stmt} (passes : judge.Passes functions handlers body) :
    Coincide (Machine.Stores functions handlers) (execJudged judge sv body) (execAll sv' body) := by
  rw [passes.same]
  exact execAll_lawOf (coincide_law hsv) body (Stmt.placedAll_of_forall (fun _ => trivial) body)
    passes.installs

/-! ### Calls, handlers and waiting -/

theorem coincide_callJudged
    (hsv : Services.Coincide (Machine.Stores functions handlers) functions sv sv')
    {f : UserFunction} (passes : judge.Passes functions handlers f.body) (args : List Value) :
    Coincide (Machine.Stores functions handlers) (callJudged judge sv f args)
      (callUser sv' f args) := by
  intro m h
  cases room : m.engine.limits.allowsCall m.engine.callStack.length with
  | true =>
      rw [callUser_eq sv' args room]
      simp only [callJudged, room, if_true]
      have inside := coincide_inChildOf f.closure (bindParams f.params args [])
        (coincide_execJudged hsv passes)
      have called := (Coincide.ensuring id (fun _ => Machine.popCall) inside id
        fun _ _ h => h.note rfl rfl).bind fun signal => coincide_plain (.result signal.returned)
      exact called _ (h.note rfl rfl)
  | false =>
      rw [callUser_eq_fault sv' args room]
      simp only [callJudged, room, Bool.false_eq_true, if_false]
      exact ⟨rfl, h.note rfl rfl⟩

theorem runHandler_eq_handled (sv : Services) (fired : Fired) (m : Machine) :
    runHandler sv fired m =
      match m.engine.handlers.get? fired.handler with
      | none => .done false m
      | some h =>
        if m.engine.stopping then .done false m
        else (execAll sv h.body (m.enterHandler h fired.payload)).handled m := by
  simp only [runHandler]
  cases m.engine.handlers.get? fired.handler with
  | none => rfl
  | some h =>
      dsimp only
      split
      · rfl
      · cases execAll sv h.body (m.enterHandler h fired.payload) with
        | done signal m' => rfl
        | cut why m' => rfl
        | fault f m' => cases f with
            | _ => rfl

theorem Machine.Stores.handled {m : Machine} {o : Outcome Signal}
    (h : o.machine.Stores functions handlers) :
    (o.handled m).machine.Stores functions handlers := by
  cases o with
  | cut why m' => exact h
  | done signal m' => exact h.note rfl rfl
  | fault f m' =>
      cases f with
      | cancelled => exact h.note rfl rfl
      | failure k d =>
          have left : (m'.leaveHandler m.engine.scope m.engine.callStack
              m.engine.clock).Stores functions handlers := h.note rfl rfl
          exact left.of_eq rfl rfl

theorem coincide_handleJudged (content : judge.Content functions handlers)
    (hsv : Services.Coincide (Machine.Stores functions handlers) functions sv sv')
    (fired : Fired) :
    Coincide (Machine.Stores functions handlers) (handleJudged judge sv fired)
      (runHandler sv' fired) := by
  intro m h
  rw [runHandler_eq_handled]
  simp only [handleJudged]
  cases found : m.engine.handlers.get? fired.handler with
  | none => exact ⟨rfl, h⟩
  | some handler =>
      dsimp only
      split
      · exact ⟨rfl, h⟩
      · have passes := content.handler (h.body_of_get? found)
        obtain ⟨same, kept⟩ := coincide_execJudged hsv passes
          (m.enterHandler handler fired.payload) (h.note rfl rfl)
        rw [same]
        exact ⟨rfl, kept.handled⟩

theorem coincide_awaitJudged (content : judge.Content functions handlers)
    (hsv : Services.Coincide (Machine.Stores functions handlers) functions sv sv')
    (a : Awaited) (rounds : Nat) :
    Coincide (Machine.Stores functions handlers) (awaitJudged judge sv a rounds)
      (awaitWithin sv' a rounds) := by
  induction rounds with
  | zero => exact .refl fun m h => h
  | succ rounds ih =>
      intro m h
      have turned := h.turn a
      rw [awaitWithin_succ]
      simp only [awaitJudged]
      cases ht : m.turn a with
      | event fired m₁ =>
          rw [ht] at turned
          exact ((coincide_handleJudged content hsv fired).bind fun _ => ih) m₁ turned
      | ending r m₁ => rw [ht] at turned; exact ⟨rfl, turned⟩
      | time later m₁ =>
          rw [ht] at turned
          cases later with
          | none => exact ⟨rfl, turned⟩
          | some m₂ => exact ih m₂ turned

/-- By induction on the allowance: services with a content judge do what those without do. -/
theorem coincide_servicesJudged (content : judge.Content functions handlers) (allowance : Nat) :
    Services.Coincide (Machine.Stores functions handlers) functions
      (servicesJudged judge allowance) (servicesWithin allowance) := by
  induction allowance with
  | zero => exact ⟨fun _ _ => .refl fun _ h => h, fun _ => .refl fun _ h => h⟩
  | succ allowance ih =>
      refine ⟨fun args kind => ?_, fun a => ?_⟩
      · exact coincide_callJudged ih (content.function kind) args
      · exact coincide_awaitJudged content ih a allowance

/-! ### Calls of the host -/

theorem coincide_dispatchJudged (content : judge.Content functions handlers)
    (hsv : Services.Coincide (Machine.Stores functions handlers) functions sv sv')
    (steps left ran : Nat) :
    Coincide (Machine.Stores functions handlers) (dispatchJudged judge sv steps left ran)
      (Run.dispatchWithin sv' steps left ran) := by
  induction steps generalizing left ran with
  | zero => exact .refl fun m h => h
  | succ steps ih =>
      cases left with
      | zero => exact .refl fun m h => h
      | succ left =>
          intro m h
          obtain ⟨e, w⟩ := m
          simp only [dispatchJudged, Run.dispatchWithin]
          split
          · exact ⟨rfl, h⟩
          · cases taken : e.dequeue? .batch with
            | none => exact ⟨rfl, h⟩
            | some next =>
              obtain ⟨fired, e'⟩ := next
              have before : Machine.Stores functions handlers ⟨e', w⟩ := by
                obtain ⟨queue, journal, rfl⟩ := Engine.eq_of_dequeue? taken
                exact h.of_eq rfl rfl
              obtain ⟨same, kept⟩ := coincide_handleJudged content hsv fired _ before
              dsimp only
              rw [same]
              cases hr : runHandler sv' fired ⟨e', w⟩ with
              | fault f m₁ => rw [hr] at kept; exact ⟨rfl, kept⟩
              | cut why m₁ => rw [hr] at kept; exact ⟨rfl, kept⟩
              | done b m₁ =>
                  rw [hr] at kept
                  cases b with
                  | true => exact ih left (ran + 1) m₁ kept
                  | false => exact ih (left + 1) ran m₁ kept

theorem coincide_fireJudged (content : judge.Content functions handlers)
    (hsv : Services.Coincide (Machine.Stores functions handlers) functions sv sv')
    (payload : Value) (ids : List HandlerId) (ran : Nat) :
    Coincide (Machine.Stores functions handlers) (fireJudged judge sv payload ids ran)
      (Run.fireEach sv' payload ids ran) := by
  induction ids generalizing ran with
  | nil => exact .refl fun m h => h
  | cons id rest ih =>
      intro m h
      obtain ⟨same, kept⟩ := coincide_handleJudged content hsv ⟨id, payload⟩ m h
      simp only [fireJudged, Run.fireEach, same]
      cases hr : runHandler sv' ⟨id, payload⟩ m with
      | fault f m₁ => rw [hr] at kept; exact ⟨rfl, kept⟩
      | cut why m₁ => rw [hr] at kept; exact ⟨rfl, kept⟩
      | done b m₁ =>
          rw [hr] at kept
          cases b with
          | true => exact ih (ran + 1) m₁ kept
          | false => exact ih ran m₁ kept

theorem Machine.Stores.concluded {o : Outcome Signal} (h : o.machine.Stores functions handlers) :
    o.concluded.machine.Stores functions handlers := by
  cases o with
  | cut why m => exact h
  | done signal m => cases signal with
      | _ => exact h.note rfl rfl
  | fault f m => cases f with
      | _ => exact h.note rfl rfl

theorem coincide_executeJudged (content : judge.Content functions handlers) (allowance : Nat)
    {program : Program} (passes : judge.Passes functions handlers program) :
    Coincide (Machine.Stores functions handlers) (executeJudged judge allowance program)
      (Run.execute allowance program) := by
  intro m h
  have services := coincide_servicesJudged content allowance
  obtain ⟨same, kept⟩ := coincide_execJudged services passes m.beginRun (h.note rfl rfl)
  rw [Run.execute_eq, executeJudged, same]
  exact ⟨rfl, kept.concluded⟩

/-- The programs that a call hands to the engine have a property. -/
def EngineCall.Brings (P : Program → Prop) : EngineCall → Prop
  | .run source => ∀ program, Source.parse source = .ok program → P program
  | .execute program => P program
  | _ => True

/-- A content judge makes no difference to a call of the host, finished or not. -/
theorem start_judged (content : judge.Content functions handlers) (allowance : Nat)
    {call : EngineCall} (brings : call.Brings (judge.Passes functions handlers)) :
    Coincide (Machine.Stores functions handlers) (call.startJudged judge allowance)
      (call.start allowance) := by
  have services := coincide_servicesJudged content allowance
  have cleared : Coincide (Machine.Stores functions handlers) (Run.change Machine.clearStop)
      (Run.change Machine.clearStop) := .refl fun m h => h.of_eq rfl rfl
  have answered {α : Type} (a : α) :
      Coincide (Machine.Stores functions handlers) (Run.result a) (Run.result a) :=
    .refl fun m h => h
  have seen {α : Type} {f : Machine → α} :
      Coincide (Machine.Stores functions handlers) (Run.view f) (Run.view f) :=
    .refl fun m h => h
  have executed {program : Program} (passes : judge.Passes functions handlers program) :
      Coincide (Machine.Stores functions handlers)
        (executeJudged judge allowance program >>= fun r => Run.result (Answer.result r))
        (Run.execute allowance program >>= fun r => Run.result (Answer.result r)) :=
    (coincide_executeJudged content allowance passes).bind fun r => answered (Answer.result r)
  cases call with
  | execute program => exact executed brings
  | run source =>
      simp only [EngineCall.startJudged, EngineCall.start]
      cases parsed : Source.parse source with
      | ok program => exact executed (brings program parsed)
      | error f => exact .refl fun m h => h.of_eq rfl rfl
  | cleanup => exact .refl fun m _ => .cleanup m
  | dispatch =>
      have batch (limit : Nat) := coincide_dispatchJudged content services allowance limit 0
      exact (seen.bind fun limit => (batch limit).bind fun ran => cleared.bind fun _ =>
        answered ran).bind fun ran => answered (Answer.count ran)
  | fire event payload =>
      have each (ids : List HandlerId) := coincide_fireJudged content services payload ids 0
      exact (seen.bind fun ids => (each ids).bind fun ran => cleared.bind fun _ =>
        answered ran).bind fun ran => answered (Answer.count ran)
  | pump ms =>
      have waited (now : Nat) := coincide_suspend services (.timer (now + ms))
      exact (seen.bind fun now => (waited now).bind fun _ => cleared).bind fun _ =>
        answered Answer.nothing

/-- The engine with the judge who lets everything pass is the engine. -/
theorem startJudged_result (call : EngineCall) (allowance : Nat) (m : Machine) :
    call.startJudged Run.result allowance m = call.start allowance m := by
  -- the kinds of bodies that every statement installs
  have passes (body : List Stmt) : Judge.Passes Run.result
      (fun body => True ∨ Stmt.handlerFreeAll body = true) (fun _ => True) body :=
    ⟨fun sv => execJudged_eq fun _ _ _ _ => rfl,
      Stmt.installsAll_of_handlerFree body (.inl trivial)⟩
  have stores : m.Stores (fun body => True ∨ Stmt.handlerFreeAll body = true) fun _ => True :=
    ⟨fun _ _ => .inl trivial, fun _ _ => trivial⟩
  have brings : call.Brings (Judge.Passes Run.result
      (fun body => True ∨ Stmt.handlerFreeAll body = true) fun _ => True) := by
    cases call with
    | run source => exact fun program _ => passes program
    | execute program => exact passes program
    | _ => trivial
  have content : Judge.Content Run.result
      (fun body => True ∨ Stmt.handlerFreeAll body = true) fun _ => True :=
    ⟨fun _ => passes _, fun _ => passes _⟩
  exact (start_judged content allowance brings m stores).eq

end Law

end HostScript
