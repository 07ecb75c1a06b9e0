import HostScript.Proofs.Grammar.Consumption
import HostScript.Proofs.Judges

/-!
# Failures are located

What raises a failure mostly does not know where it is. The failure takes a position on its way
out, from the innermost expression or statement that it leaves, so a failure that leaves a
statement has one, and it is that of a node of the program. The nodes of a program have the
positions of tokens. So what a host gets to see of a failure, as the result of a run or as the
report of a handler, names a token of the source.

## Implementation notes

Inside a statement a failure may still be without a position, so what is kept along a computation
is that a position which is known is one of the places. That nothing leaves a body without a
position is another matter, of `Run.statement` alone.
-/

namespace HostScript

variable {α β : Type} {places : Location → Prop}

/-! ### Faults and places -/

/-- A failure has one of the places. -/
def Fault.At (places : Location → Prop) : Fault → Prop
  | .failure _ d => places d.loc
  | .cancelled => True

/-- A failure has one of the places, or its position is not yet known. -/
def Fault.Loose (places : Location → Prop) : Fault → Prop :=
  Fault.At fun loc => loc.isKnown = true → places loc

theorem Fault.Loose.at {f : Fault} (h : f.Loose places) (known : f.At (·.isKnown = true)) :
    f.At places := by
  cases f with
  | cancelled => trivial
  | failure k d => exact h known

theorem Fault.loose_of_bare {f : Fault} (bare : f.bare = true) : f.Loose places := by
  cases f with
  | cancelled => trivial
  | failure k d =>
      intro known
      cases k with
      | recursion active => cases bare
      | _ =>
          simp only [Fault.bare, known] at bare
          cases bare

theorem Fault.Loose.located {f : Fault} {loc : Location} (h : f.Loose places) (at_ : places loc) :
    (f.located loc).Loose places := by
  cases f with
  | cancelled => trivial
  | failure k d =>
      rw [Fault.located]
      split
      · exact h
      · exact fun _ => at_

/-- A failure that has left a construct at a known position is at a known position. -/
theorem Fault.known_located (f : Fault) {loc : Location} (known : loc.isKnown = true) :
    (f.located loc).At (·.isKnown = true) := by
  cases f with
  | cancelled => trivial
  | failure k d =>
      rw [Fault.located]
      split
      · assumption
      · exact known

/-- All of the places are known positions. -/
def AllKnown (places : Location → Prop) : Prop := ∀ loc, places loc → loc.isKnown = true

/-! ### What leaves a statement -/

section Statements

variable {sv : Services} {m m' : Machine} {f : Fault}

theorem Run.known_statement {loc : Location} {body : Run Signal} (known : loc.isKnown = true)
    (h : Run.statement loc body m = .fault f m') : f.At (·.isKnown = true) := by
  rw [Run.statement] at h
  split at h
  · cases h
    trivial
  · rw [Run.located] at h
    split at h
    · cases h
      exact Fault.known_located _ known
    · next other => exact absurd h (other f m')

theorem exists_statement (sv : Services) (s : Stmt) :
    ∃ body, exec sv s = Run.statement s.loc body := by
  cases s with
  | cond loc test thenBody elseBody => cases elseBody with
      | _ => exact ⟨_, rfl⟩
  | _ => exact ⟨_, rfl⟩

/-- By induction on the statements: a failure leaves the one in which it arose. -/
theorem known_execAll (known : AllKnown places) {body : List Stmt}
    (placed : Stmt.PlacedAll places body) (h : execAll sv body m = .fault f m') :
    f.At (·.isKnown = true) := by
  induction body generalizing m with
  | nil => cases h
  | cons s rest ih =>
      obtain ⟨body, statement⟩ := exists_statement sv s
      rw [execAll] at h
      cases first : exec sv s m with
      | cut why m₁ =>
          rw [Run.bind_cut first] at h
          cases h
      | fault e m₁ =>
          rw [Run.bind_fault first] at h
          cases h
          rw [statement] at first
          exact Run.known_statement (known s.loc placed.1.loc) first
      | done signal m₁ =>
          rw [Run.bind_done first] at h
          cases signal with
          | next => exact ih placed.2 h
          | _ => cases h

end Statements

/-! ### What an engine stores and reports -/

mutual

/-- A placed statement installs placed bodies. -/
theorem Stmt.installs_of_placed (s : Stmt) (placed : s.Placed places) :
    s.Installs (Stmt.PlacedAll places) (Stmt.PlacedAll places) := by
  match s with
  | .define _ _ _ body => exact placed.2
  | .on _ _ body => exact placed.2.2
  | .block _ body => exact Stmt.installsAll_of_placed body placed.2
  | .loop _ _ body => exact Stmt.installsAll_of_placed body placed.2.2
  | .while _ _ body => exact Stmt.installsAll_of_placed body placed.2.2
  | .foreach _ _ _ body => exact Stmt.installsAll_of_placed body placed.2.2
  | .cond _ _ thenBody none => exact Stmt.installsAll_of_placed thenBody placed.2.2
  | .cond _ _ thenBody (some elseBody) =>
      obtain ⟨-, -, hthen, helse⟩ := placed
      exact ⟨Stmt.installsAll_of_placed thenBody hthen, Stmt.installsAll_of_placed elseBody helse⟩
  | .attempt _ body _ handler =>
      obtain ⟨-, hbody, hhandler⟩ := placed
      exact ⟨Stmt.installsAll_of_placed body hbody, Stmt.installsAll_of_placed handler hhandler⟩
  | .set _ _ _ _ | .declare _ _ _ | .print _ _ | .break _ | .continue _ | .return _ _
  | .expr _ _ | .host _ _ => trivial

theorem Stmt.installsAll_of_placed (body : List Stmt) (placed : Stmt.PlacedAll places body) :
    Stmt.InstallsAll (Stmt.PlacedAll places) (Stmt.PlacedAll places) body := by
  match body with
  | [] => trivial
  | s :: rest =>
      exact ⟨s.installs_of_placed placed.1, Stmt.installsAll_of_placed rest placed.2⟩

end

/-- The message describes a failure at one of the places. -/
def Describes (places : Location → Prop) (message : String) : Prop :=
  ∃ k d, message = (Fault.failure k d).describe ∧ places d.loc

/-- The bodies that the engine stores are placed, and the errors of its handlers are at places. -/
structure Machine.Pinned (places : Location → Prop) (m : Machine) : Prop where
  stores : m.Stores (Stmt.PlacedAll places) (Stmt.PlacedAll places)
  errors : ∀ message ∈ m.engine.errors, Describes places message

section Pinned

variable {m m' : Machine}

theorem Machine.Pinned.of_eq (h : m.Pinned places)
    (functions : m'.engine.functions = m.engine.functions)
    (handlers : m'.engine.handlers = m.engine.handlers)
    (errors : m'.engine.errors = m.engine.errors) : m'.Pinned places := by
  refine ⟨h.stores.of_eq functions handlers, ?_⟩
  rw [errors]
  exact h.errors

theorem Machine.Pinned.notified (h : m.Pinned places) (notified : m.engine.Notified m'.engine) :
    m'.Pinned places := by
  obtain ⟨queue, stopping, journal, same⟩ := notified
  exact h.of_eq (by rw [same]) (by rw [same]) (by rw [same])

/-- A step is written by an engine with the same functions, handlers and errors. -/
theorem Machine.Pinned.note (h : m.Pinned places) {e : Engine} {s : Step} {w : World}
    (functions : e.functions = m.engine.functions) (handlers : e.handlers = m.engine.handlers)
    (errors : e.errors = m.engine.errors) : Machine.Pinned places ⟨e.record s, w⟩ := by
  refine h.of_eq ?_ ?_ ?_
  · simpa only [Engine.record_eq] using functions
  · simpa only [Engine.record_eq] using handlers
  · simpa only [Engine.record_eq] using errors

theorem Machine.Pinned.register (h : m.Pinned places) (event : String) {body : List Stmt}
    (placed : Stmt.PlacedAll places body) : (m.register event body).Pinned places := by
  refine ⟨h.stores.register event placed, ?_⟩
  obtain ⟨e, w⟩ := m
  simp only [Machine.register]
  split
  · exact h.errors
  · exact h.errors

theorem Machine.Pinned.report (h : m.Pinned places) {message : String}
    (describes : Describes places message) : (m.report message).Pinned places := by
  refine ⟨h.stores.of_eq rfl rfl, fun other mem => ?_⟩
  rcases Array.mem_push.mp mem with old | rfl
  · exact h.errors other old
  · exact describes

theorem Machine.Pinned.define {e : Engine} {w : World} (h : Machine.Pinned places ⟨e, w⟩)
    {f : UserFunction} (placed : Stmt.PlacedAll places f.body) :
    Machine.Pinned places ⟨e.define f, w⟩ :=
  ⟨h.stores.define placed, h.errors⟩

theorem Machine.Pinned.cleanup (h : m.Pinned places) : m.cleanup.Pinned places :=
  ⟨.cleanup m, h.errors⟩

end Pinned

/-! ### Computations that locate failures -/

/-- The engine still stores placed bodies, and a failure that has a position is at a place. -/
structure Outcome.Located (places : Location → Prop) (o : Outcome α) : Prop where
  pinned : o.machine.Pinned places
  loose : ∀ f m, o = .fault f m → f.Loose places

/-- The computation locates its failures. -/
def Locates (places : Location → Prop) (x : Run α) : Prop :=
  ∀ m, m.Pinned places → (x m).Located places

namespace Outcome.Located

theorem done {a : α} {m : Machine} (h : m.Pinned places) : (Outcome.done a m).Located places :=
  ⟨h, fun _ _ eq => by cases eq⟩

theorem cut {why : Cut} {m : Machine} (h : m.Pinned places) :
    (Outcome.cut why m : Outcome α).Located places :=
  ⟨h, fun _ _ eq => by cases eq⟩

theorem fault {f : Fault} {m : Machine} (h : m.Pinned places) (loose : f.Loose places) :
    (Outcome.fault f m : Outcome α).Located places := by
  refine ⟨h, ?_⟩
  rintro _ _ ⟨⟩
  exact loose

end Outcome.Located

namespace Locates

variable {x : Run α}

theorem result (a : α) : Locates places (Run.result a) := fun _ h => .done h

theorem change {g : Machine → Machine} (keeps : ∀ m, m.Pinned places → (g m).Pinned places) :
    Locates places (Run.change g) := fun m h => .done (keeps m h)

theorem plain (hx : x.Plain) : Locates places x := by
  intro m h
  obtain ⟨ends, mild, -⟩ := hx m
  cases hm : x m with
  | cut why m' => rw [hm] at ends; exact ends.elim
  | done a m' => rw [hm] at ends; exact .done (h.of_eq ends.functions ends.handlers ends.errors)
  | fault f m' =>
      rw [hm] at ends mild
      exact .fault (h.of_eq ends.functions ends.handlers ends.errors) (Fault.loose_of_bare mild)

theorem bind {next : α → Run β} (first : Locates places x)
    (then_ : ∀ a, Locates places (next a)) : Locates places (x >>= next) := by
  intro m h
  have hx := first m h
  cases hm : x m with
  | done a m' =>
      rw [hm] at hx
      rw [Run.bind_done hm]
      exact then_ a m' hx.pinned
  | fault f m' =>
      rw [hm] at hx
      rw [Run.bind_fault hm]
      exact .fault hx.pinned (hx.loose f m' rfl)
  | cut why m' =>
      rw [hm] at hx
      rw [Run.bind_cut hm]
      exact .cut hx.pinned

theorem located {loc : Location} (at_ : places loc) (hx : Locates places x) :
    Locates places (x.located loc) := by
  intro m h
  have ended := hx m h
  simp only [Run.located]
  cases hm : x m with
  | fault f m' =>
      rw [hm] at ended
      exact .fault ended.pinned ((ended.loose f m' rfl).located at_)
  | done a m' => rw [hm] at ended; exact .done ended.pinned
  | cut why m' => rw [hm] at ended; exact .cut ended.pinned

theorem attempt {x : Run Signal} {otherwise : String → Run Signal} (hx : Locates places x)
    (hother : ∀ message, Locates places (otherwise message)) :
    Locates places (Run.attempt x otherwise) := by
  intro m h
  have ended := hx m h
  simp only [Run.attempt]
  cases hm : x m with
  | cut why m' => rw [hm] at ended; exact .cut ended.pinned
  | done signal m' => rw [hm] at ended; exact .done ended.pinned
  | fault f m' =>
      rw [hm] at ended
      cases f with
      | cancelled => exact .fault ended.pinned trivial
      | failure k d => exact hother _ m' ended.pinned

/-- What is done before and behind a computation keeps what is stored and reported. -/
theorem ensuring (open_ : Machine → Machine) (close : Machine → Machine → Machine)
    (hx : Locates places x) (opens : ∀ {m}, m.Pinned places → (open_ m).Pinned places)
    (closes : ∀ m {m'}, m'.Pinned places → (close m m').Pinned places) :
    Locates places fun m => x.ensuring (close m) (open_ m) := by
  intro m h
  have ended := hx (open_ m) (opens h)
  simp only [Run.ensuring]
  cases hm : x (open_ m) with
  | done a m' => rw [hm] at ended; exact .done (closes m ended.pinned)
  | fault f m' => rw [hm] at ended; exact .fault (closes m ended.pinned) (ended.loose f m' rfl)
  | cut why m' => rw [hm] at ended; exact .cut ended.pinned

theorem inChildOf (parent : ScopeId) (vars : Bindings) (hx : Locates places x) :
    Locates places (x.inChildOf parent vars) :=
  ensuring (fun m => m.enterChild parent vars) (fun m m' => m'.withScope m.engine.scope) hx
    (fun h => h.of_eq rfl rfl rfl) fun _ _ h => h.of_eq rfl rfl rfl

end Locates

/-! ### Expressions and statements -/

/-- Calls of placed functions locate their failures, and so does waiting. -/
structure Services.Locate (places : Location → Prop) (sv : Services) : Prop where
  call : ∀ {f : UserFunction} (args : List Value), Stmt.PlacedAll places f.body →
    Locates places (sv.call f args)
  await : ∀ a, Locates places (sv.await a)

section Syntax

variable {sv : Services}

theorem locates_suspend (hsv : sv.Locate places) (a : Awaited) :
    Locates places (sv.suspend a) :=
  .ensuring Machine.suspend (fun m m' => m'.resume m.world.now) (hsv.await a)
    (fun h => h.note rfl rfl rfl) fun _ _ h => h.note rfl rfl rfl

theorem locates_replied (hsv : sv.Locate places) (name : String) (reply : HostReply) :
    Locates places (sv.replied name reply) := by
  simp only [Services.replied]
  cases reply.delay with
  | none => exact .plain (.receive name reply.result)
  | some ms =>
      refine (Locates.plain (.view fun _ _ _ => rfl)).bind fun now => ?_
      exact (locates_suspend hsv _).bind fun r => .plain (.receive name r)

theorem locates_callByName (hsv : sv.Locate places) (name : String) (args : List Value) :
    Locates places (sv.callByName name args) := by
  intro m h
  cases hf : m.world.function? name with
  | some f =>
      simp only [Services.callByName, hf, Services.callHost_eq]
      -- the host acts before it answers, and then only the queue of the engine is another one
      exact locates_replied hsv f.name _ _
        (h.notified (asides_acts ⟨m.engine, m.world.countCall f.name⟩ _).notified)
  | none =>
      cases hb : Builtin.ofName? name with
      | some b =>
          simp only [Services.callByName, hf, hb]
          exact Locates.plain (.callBuiltin b args) m h
      | none =>
          cases hu : m.engine.function? name with
          | none =>
              simp only [Services.callByName, hf, hb, hu]
              exact .fault h (Fault.loose_of_bare rfl)
          | some f =>
              simp only [Services.callByName, hf, hb, hu]
              exact hsv.call args (h.stores.body_of_function? hu) m h

theorem locates_define (name : String) (params : List String) {body : List Stmt}
    (placed : Stmt.PlacedAll places body) : Locates places (Run.define name params body) := by
  intro m h
  obtain ⟨e, w⟩ := m
  simp only [Run.define]
  split
  · exact .fault h (Fault.loose_of_bare rfl)
  · exact .done (h.define placed)

theorem locates_addHandler (event : String) {body : List Stmt}
    (placed : Stmt.PlacedAll places body) : Locates places (Run.addHandler event body) := by
  intro m h
  simp only [Run.addHandler]
  split
  · exact .done (h.register event placed)
  · exact .fault h (Fault.loose_of_bare rfl)

theorem locates_openAt (base index : Value) : Locates places (Run.openAt base index) := by
  intro m h
  obtain opened | ⟨a, -, -, held⟩ := Run.openAt_cases base index m
  · rw [opened]
    exact .done h
  · rw [held]
    exact .cut h

/-- Placed expressions and statements locate their failures if services do. -/
theorem locates_law (hsv : sv.Locate places) :
    LawOf places (Stmt.PlacedAll places) (Stmt.PlacedAll places) fun _ x =>
      Locates places (x sv) := by
  constructor
  case plain => exact Locates.plain
  case bind => exact fun hx hf => hx.bind hf
  case located => exact fun at_ hx => hx.located at_
  case attempt => exact Locates.attempt
  case inChild => exact fun vars hx m h => hx.inChildOf m.engine.scope vars m h
  case bar => exact fun loc m h => .fault (h.note rfl rfl rfl) trivial
  case openAt => exact locates_openAt
  case emit =>
    exact fun event payload m h => .done (h.notified (asides_emit m event payload).notified)
  case suspend => exact fun _ => locates_suspend hsv _
  case callByName => exact locates_callByName hsv
  case define => exact locates_define
  case addHandler => exact fun event body => locates_addHandler event

theorem locates_execAll (hsv : sv.Locate places) {body : List Stmt}
    (placed : Stmt.PlacedAll places body) : Locates places (execAll sv body) :=
  execAll_lawOf (locates_law hsv) body placed (Stmt.installsAll_of_placed body placed)

end Syntax

/-! ### Calls, handlers and waiting -/

section Frames

variable {sv : Services}

theorem locates_callUser (hsv : sv.Locate places) {f : UserFunction} (args : List Value)
    (placed : Stmt.PlacedAll places f.body) : Locates places (callUser sv f args) := by
  intro m h
  cases room : m.engine.limits.allowsCall m.engine.callStack.length with
  | true =>
      rw [callUser_eq sv args room]
      have inside := (locates_execAll hsv placed).inChildOf f.closure (bindParams f.params args [])
      have called := (Locates.ensuring id (fun _ => Machine.popCall) inside id
        fun _ _ h => h.note rfl rfl rfl).bind fun signal => .result signal.returned
      exact called _ (h.note rfl rfl rfl)
  | false =>
      rw [callUser_eq_fault sv args room]
      exact .fault (h.note rfl rfl rfl) nofun

/-- A failure that ends a handler has left a statement of its body, so the report names a place. -/
theorem locates_runHandler (known : AllKnown places) (hsv : sv.Locate places) (fired : Fired) :
    Locates places (runHandler sv fired) := by
  intro m h
  rw [runHandler_eq_handled]
  cases found : m.engine.handlers.get? fired.handler with
  | none => exact .done h
  | some handler =>
      dsimp only
      split
      · exact .done h
      · have placed := h.stores.body_of_get? found
        have ended := locates_execAll hsv placed (m.enterHandler handler fired.payload)
          (h.note rfl rfl rfl)
        cases hx : execAll sv handler.body (m.enterHandler handler fired.payload) with
        | cut why m' => rw [hx] at ended; exact .cut ended.pinned
        | done signal m' => rw [hx] at ended; exact .done (ended.pinned.note rfl rfl rfl)
        | fault f m' =>
            rw [hx] at ended
            have left : (m'.leaveHandler m.engine.scope m.engine.callStack
                m.engine.clock).Pinned places := ended.pinned.note rfl rfl rfl
            cases f with
            | cancelled => exact .done left
            | failure k d =>
                have at_ := (ended.loose _ _ rfl).at (known_execAll known placed hx)
                exact .done (left.report ⟨k, d, rfl, at_⟩)

theorem locates_awaitWithin (known : AllKnown places) (hsv : sv.Locate places) (a : Awaited)
    (rounds : Nat) : Locates places (awaitWithin sv a rounds) := by
  induction rounds with
  | zero => exact fun m h => .cut h
  | succ rounds ih =>
      intro m h
      have turned := m.notified_turn a
      rw [awaitWithin_succ]
      cases ht : m.turn a with
      | event fired m₁ =>
          rw [ht] at turned
          exact ((locates_runHandler known hsv fired).bind fun _ => ih) m₁ (h.notified turned)
      | ending r m₁ => rw [ht] at turned; exact .done (h.notified turned)
      | time later m₁ =>
          rw [ht] at turned
          cases later with
          | none => exact .cut (h.notified turned)
          | some m₂ => exact ih m₂ (h.notified turned)

/-- By induction on the allowance: services locate the failures of placed functions and handlers. -/
theorem locate_servicesWithin (known : AllKnown places) (allowance : Nat) :
    (servicesWithin allowance).Locate places := by
  induction allowance with
  | zero => exact ⟨fun _ _ m h => .cut h, fun _ m h => .cut h⟩
  | succ allowance ih =>
      refine ⟨fun args placed => ?_, fun a => ?_⟩
      · exact locates_callUser ih args placed
      · exact locates_awaitWithin known ih a allowance

end Frames

/-! ### Calls of the host -/

section Calls

variable {sv : Services} {m m' : Machine} {program : Program} {allowance : Nat}

theorem locates_dispatchWithin (known : AllKnown places) (hsv : sv.Locate places)
    (steps left ran : Nat) : Locates places (Run.dispatchWithin sv steps left ran) := by
  induction steps generalizing left ran with
  | zero => exact fun m h => .cut h
  | succ steps ih =>
      cases left with
      | zero => exact fun m h => .done h
      | succ left =>
          intro m h
          obtain ⟨e, w⟩ := m
          simp only [Run.dispatchWithin]
          split
          · exact .done h
          · cases taken : e.dequeue? .batch with
            | none => exact .done h
            | some next =>
              obtain ⟨fired, e'⟩ := next
              have before : Machine.Pinned places ⟨e', w⟩ := by
                obtain ⟨queue, journal, rfl⟩ := Engine.eq_of_dequeue? taken
                exact h.of_eq rfl rfl rfl
              have ran := locates_runHandler known hsv fired _ before
              dsimp only
              cases hr : runHandler sv fired ⟨e', w⟩ with
              | fault f m₁ => rw [hr] at ran; exact .fault ran.pinned (ran.loose f m₁ rfl)
              | cut why m₁ => rw [hr] at ran; exact .cut ran.pinned
              | done b m₁ =>
                  rw [hr] at ran
                  cases b with
                  | true => exact ih left _ m₁ ran.pinned
                  | false => exact ih (left + 1) _ m₁ ran.pinned

theorem locates_fireEach (known : AllKnown places) (hsv : sv.Locate places) (payload : Value)
    (ids : List HandlerId) (ran : Nat) : Locates places (Run.fireEach sv payload ids ran) := by
  induction ids generalizing ran with
  | nil => exact fun m h => .done h
  | cons id rest ih =>
      intro m h
      have fired := locates_runHandler known hsv ⟨id, payload⟩ m h
      simp only [Run.fireEach]
      cases hr : runHandler sv ⟨id, payload⟩ m with
      | fault f m₁ => rw [hr] at fired; exact .fault fired.pinned (fired.loose f m₁ rfl)
      | cut why m₁ => rw [hr] at fired; exact .cut fired.pinned
      | done b m₁ =>
          rw [hr] at fired
          cases b with
          | true => exact ih (ran + 1) m₁ fired.pinned
          | false => exact ih ran m₁ fired.pinned

theorem locates_execute (known : AllKnown places) (allowance : Nat)
    (placed : Stmt.PlacedAll places program) : Locates places (Run.execute allowance program) := by
  intro m h
  have ended := locates_execAll (locate_servicesWithin known allowance) placed m.beginRun
    (h.note rfl rfl rfl)
  rw [Run.execute_eq]
  cases hx : execAll (servicesWithin allowance) program m.beginRun with
  | cut why m' => rw [hx] at ended; exact .cut ended.pinned
  | done signal m' =>
      rw [hx] at ended
      cases signal with
      | _ => exact .done (ended.pinned.note rfl rfl rfl)
  | fault f m' =>
      rw [hx] at ended
      cases f with
      | _ => exact .done (ended.pinned.note rfl rfl rfl)

/-- A run that fails has a failure at a place as its result, and no cancellation. -/
theorem exists_of_execute (known : AllKnown places) (placed : Stmt.PlacedAll places program)
    (h : m.Pinned places) {f : Fault}
    (failed : Run.execute allowance program m = .done (.error f) m') :
    ∃ k d, f = .failure k d ∧ places d.loc := by
  have ended := locates_execAll (locate_servicesWithin known allowance) placed m.beginRun
    (h.note rfl rfl rfl)
  rw [Run.execute_eq] at failed
  cases hx : execAll (servicesWithin allowance) program m.beginRun with
  | cut why m' => rw [hx] at failed; cases failed
  | done signal m' =>
      rw [hx] at failed
      cases signal with
      | _ => cases failed
  | fault e m' =>
      rw [hx] at failed ended
      cases e with
      | cancelled => cases failed
      | failure k d =>
          cases failed
          exact ⟨k, d, rfl, (ended.loose _ _ rfl).at (known_execAll known placed hx)⟩

/-- A call of the host that brings placed programs leaves placed bodies and located reports,
finished or not. -/
theorem locates_start (known : AllKnown places) (allowance : Nat)
    {call : EngineCall} (brings : call.Brings (Stmt.PlacedAll places)) :
    Locates places (call.start allowance) := by
  have services := locate_servicesWithin known allowance
  have cleared : Locates places (Run.change Machine.clearStop) :=
    .change fun m h => h.of_eq rfl rfl rfl
  have seen {α : Type} {f : Machine → α} : Locates places (Run.view f) := fun m h => .done h
  have executed {program : Program} (placed : Stmt.PlacedAll places program) :
      Locates places (Run.execute allowance program >>= fun r => Run.result (Answer.result r)) :=
    (locates_execute known allowance placed).bind fun r => .result _
  cases call with
  | execute program => exact executed brings
  | run source =>
      simp only [EngineCall.start]
      cases parsed : Source.parse source with
      | ok program => exact executed (brings program parsed)
      | error f =>
          have errored : Locates places (Run.change fun m => m.withState .errored) :=
            .change fun m h => h.of_eq rfl rfl rfl
          exact errored.bind fun _ => .result _
  | cleanup => exact (Locates.change fun m h => h.cleanup).bind fun _ => .result _
  | dispatch =>
      have batch (limit : Nat) := locates_dispatchWithin known services allowance limit 0
      exact (seen.bind fun limit => (batch limit).bind fun ran => cleared.bind fun _ =>
        .result ran).bind fun ran => .result _
  | fire event payload =>
      have each (ids : List HandlerId) := locates_fireEach known services payload ids 0
      exact (seen.bind fun ids => (each ids).bind fun ran => cleared.bind fun _ =>
        .result ran).bind fun ran => .result _
  | pump ms =>
      have waited (now : Nat) := locates_suspend services (.timer (now + ms))
      exact (seen.bind fun now => (waited now).bind fun _ => cleared).bind fun _ => .result _

end Calls

/-! ### Engines that are given one source text -/

namespace Source

variable {source : String} {loc : Location}

/-- The source text can be scanned, and the position is that of one of its tokens. -/
def TokenAt (source : String) (loc : Location) : Prop :=
  ∃ tokens, tokenize source = .ok tokens ∧ StandsAt tokens loc

/-- The position is that of a token of the source text, or of the place where no token can be
read. -/
def Pinpoints (source : String) (loc : Location) : Prop :=
  TokenAt source loc ∨
    ∃ before c rest e, source.toList = before ++ c :: rest ∧ loc.Marks before ∧
      readLexeme c rest = .error e ∧ tokenize source = .error (e.toFault loc)

theorem tokenAt_eq {tokens : List Token} (scanned : tokenize source = .ok tokens) :
    TokenAt source = StandsAt tokens := by
  funext loc
  simp only [TokenAt, scanned, Except.ok.injEq, exists_eq_left']

theorem TokenAt.isKnown (h : TokenAt source loc) : loc.isKnown = true := by
  obtain ⟨tokens, scanned, t, mem, rfl⟩ := h
  obtain ⟨-, -, -, -, -, known⟩ := tokens_of_tokenize scanned
  exact known t mem

theorem Pinpoints.isKnown (h : Pinpoints source loc) : loc.isKnown = true := by
  obtain token | ⟨before, c, rest, e, -, marks, -⟩ := h
  · exact token.isKnown
  · exact marks.isKnown

/-- The nodes of a program stand at tokens of its source text. -/
theorem placed_tokenAt {program : Program} (parsed : parse source = .ok program) :
    Stmt.PlacedAll (TokenAt source) program := by
  obtain ⟨tokens, c, scanned, -⟩ := exists_of_parse parsed
  rw [tokenAt_eq scanned]
  exact placed_of_parse scanned parsed

/-- A text that is no program is refused at a token, or where no token can be read. -/
theorem exists_of_parse_error {f : Fault} (refused : parse source = .error f) :
    ∃ k d, f = .failure k d ∧ Pinpoints source d.loc := by
  cases scanned : tokenize source with
  | error f' =>
      obtain ⟨body, text, gap, c, rest, e, split, -, -, unread, rfl⟩ :=
        tiling_of_scan_eq_error Location.marks_start scanned
      rw [parse, scanned] at refused
      cases refused
      exact ⟨_, _, e.toFault_eq _, .inr ⟨text ++ gap, c, rest, e, split,
        Location.marks_start.afterAll (text ++ gap), unread, scanned⟩⟩
  | ok tokens =>
      obtain ⟨body, last, rfl, eof, -, -⟩ := tokens_of_tokenize scanned
      rw [parse_eq scanned] at refused
      cases made : program (.ofTokens (body ++ [last])) with
      | ok r =>
          rw [made] at refused
          cases refused
      | error e =>
          rw [made] at refused
          cases refused
          obtain ⟨d, rfl, at_⟩ := (proceeds_program [] (Cursor.in_ofTokens body eof)).failed _ made
          exact ⟨_, d, rfl, .inl ⟨_, scanned, at_⟩⟩

end Source

/-- The engines of hosts that only execute the program of one source text, as they are between the
calls of the host and wherever a call is left unfinished. Besides calls a host may do what leaves
the functions and the handlers alone and reports nothing in the name of a handler. -/
inductive Serves (source : String) : Machine → Prop
  | new (party : Party) (limits : Limits) (world : World) :
      Serves source (.new party limits world)
  | call {m : Machine} {call : EngineCall} (before : Serves source m)
      (own : call.Brings fun program => Source.parse source = .ok program) (allowance : Nat) :
      Serves source (call.start allowance m).machine
  | host {m m' : Machine} (before : Serves source m)
      (functions : m'.engine.functions = m.engine.functions)
      (handlers : m'.engine.handlers = m.engine.handlers)
      (errors : ∀ message ∈ m'.engine.errors, message ∈ m.engine.errors) : Serves source m'

theorem Serves.pinned {source : String} {m : Machine} (serves : Serves source m) :
    m.Pinned (Source.TokenAt source) := by
  induction serves with
  | new party limits world =>
      exact ⟨⟨List.forall_mem_nil _, List.forall_mem_nil _⟩, 
        fun _ mem => absurd mem (Array.not_mem_empty _)⟩
  | host before functions handlers errors ih =>
      exact ⟨ih.stores.of_eq functions handlers, fun message mem =>
        ih.errors message (errors message mem)⟩
  | @call m call before own allowance ih =>
      have brings : call.Brings (Stmt.PlacedAll (Source.TokenAt source)) := by
        cases call with
        | run other => exact fun program parsed => Source.placed_tokenAt (own program parsed)
        | execute program => exact Source.placed_tokenAt own
        | _ => trivial
      exact (locates_start (fun _ => Source.TokenAt.isKnown) allowance brings m ih).pinned

/-- Every failure is located. On an engine that is given one source text, new or not, a run of the
text that fails gives a failure and no cancellation. Its position is known, and it is that of a
token of the text or of the place where no token can be read. The same holds of all that the
handlers of the text have reported. -/
theorem failures_located (source : String) (m : Machine) (serves : Serves source m) :
    (∀ allowance f m', m.run allowance source = some (.error f, m') →
      ∃ k d, f = .failure k d ∧ d.loc.isKnown = true ∧ Source.Pinpoints source d.loc) ∧
    ∀ message ∈ m.engine.errors, ∃ k d, message = (Fault.failure k d).describe ∧
      d.loc.isKnown = true ∧ Source.Pinpoints source d.loc := by
  refine ⟨fun allowance f m' failed => ?_, fun message mem => ?_⟩
  · rw [Machine.run_eq] at failed
    cases parsed : Source.parse source with
    | error e =>
        rw [parsed] at failed
        cases failed
        obtain ⟨k, d, rfl, at_⟩ := Source.exists_of_parse_error parsed
        exact ⟨k, d, rfl, at_.isKnown, at_⟩
    | ok program =>
        rw [parsed] at failed
        obtain ⟨k, d, rfl, at_⟩ := exists_of_execute (fun _ => Source.TokenAt.isKnown)
          (Source.placed_tokenAt parsed) serves.pinned (Outcome.done?_eq_some_iff.mp failed)
        exact ⟨k, d, rfl, at_.isKnown, .inl at_⟩
  · obtain ⟨k, d, described, at_⟩ := serves.pinned.errors message mem
    exact ⟨k, d, described, at_.isKnown, .inl at_⟩

/-- A source text whose handler fails, and that fails itself. -/
def strayingSource : String := "on \"a\" \x7b x \x7d\ny"

/-- The run fails at the last token of the text, and the handler at a token of its body. -/
theorem strayingSource_located :
    (∃ k d m', (Machine.new 0 {} {}).run 9 strayingSource = some (.error (.failure k d), m') ∧
      d.loc.isKnown = true ∧ Source.Pinpoints strayingSource d.loc) ∧
    let m := ((EngineCall.fire "a" .undefined).start 9
      ((EngineCall.run strayingSource).start 9 (.new 0 {} {})).machine).machine
    m.engine.errors = #["ReferenceError: variable 'x' is not defined at line 1, column 10"] ∧
      ∀ message ∈ m.engine.errors, ∃ k d, message = (Fault.failure k d).describe ∧
        d.loc.isKnown = true ∧ Source.Pinpoints strayingSource d.loc := by
  have new : Serves strayingSource (.new 0 {} {}) := .new 0 {} {}
  refine ⟨?_, by decide +kernel, ?_⟩
  · have failed : ((Machine.new 0 {} {}).run 9 strayingSource).map (·.1.isOk) = some false := by
      decide +kernel
    obtain ⟨⟨result, m'⟩, ran, isOk⟩ := Option.map_eq_some_iff.mp failed
    cases result with
    | ok v => cases isOk
    | error f =>
        obtain ⟨k, d, rfl, located⟩ := (failures_located _ _ new).1 9 f m' ran
        exact ⟨k, d, m', ran, located⟩
  · have own : (EngineCall.run strayingSource).Brings
        fun program => Source.parse strayingSource = .ok program := fun _ parsed => parsed
    have nothing : (EngineCall.fire "a" .undefined).Brings
        fun program => Source.parse strayingSource = .ok program := trivial
    exact (failures_located _ _ ((new.call own 9).call nothing 9)).2

end HostScript
