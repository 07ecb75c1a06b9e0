import HostScript.Proofs.Accounting
import HostScript.Proofs.Evolution.Operations

/-!
# Events are delivered exactly once and in order

A host uses an engine through a sequence of calls. As long as no stop is requested, every
event that was ever queued has been handed to its handler or is queued still, the former
before the latter and all in the order in which they were queued. This holds at each
moment of the journal, within calls of any nesting as well as between them.

## Implementation notes

A sequence of calls may end with one that is not finished. The journal then shows the
moments up to the point where that call was cut off.
-/

namespace HostScript

/-- What a host can do with an engine while events go to handlers. -/
inductive HostUse where
  | execute (program : Program)
  | dispatch
  | pump (ms : Nat)
  /-- Emit an event on the bus. -/
  | emit (event : String) (payload : Value)
  /-- Plan what the host does by itself during later calls. -/
  | schedule (moves : List (Nat × HostMove))
  /-- Do what is left of the plan. -/
  | finish

/-- One use of an engine, for an allowance. -/
def HostUse.run (allowance : Nat) : HostUse → Run Unit
  | .execute program => do let _ ← Run.execute allowance program
  | .dispatch => do let _ ← Run.dispatch allowance
  | .pump ms => Run.pump allowance ms
  | .emit event payload => Run.change fun m => m.emitOnBus event payload
  | .schedule moves => Run.change fun m => m.schedule moves
  | .finish => Run.change Machine.finishTimeline

/-- A sequence of uses, each for an allowance of its own. -/
def HostUse.runAll : List (Nat × HostUse) → Run Unit
  | [] => pure ()
  | (allowance, use) :: rest => do
    use.run allowance
    runAll rest

/-- Where a computation ends does not depend on whether its result is used. -/
theorem Run.machine_discard {α : Type} (x : Run α) (m : Machine) :
    ((do let _ ← x : Run Unit) m).machine = (x m).machine := by
  cases hx : x m with
  | done a m' => rw [Run.bind_done hx]; rfl
  | fault f m' => rw [Run.bind_fault hx]; rfl
  | cut why m' => rw [Run.bind_cut hx]; rfl

/-- A new engine that keeps a journal, in a world. -/
def Machine.new (party : Party) (limits : Limits) (world : World) : Machine :=
  ⟨{ party, limits, journal := some [] }, world⟩

/-- A machine whose events have handlers, with a balanced account and every stop on record. -/
structure Machine.Accountable (start : List Fired) (past : List Moment) (m : Machine) :
    Prop where
  registered : m.Registered
  accounts : m.engine.Accounts start past []
  candid : m.engine.Candid

section Accountable

variable {limit : Nat} {start : List Fired} {past : List Moment} {m m' : Machine}

theorem steady_accountable : Steady limit (Machine.Accountable start past) where
  move := fun step h =>
    have kept := (steady_accounts : Steady limit _).move step ⟨h.registered, h.accounts⟩
    ⟨kept.1, kept.2, (steady_candid : Steady limit _).move step h.candid⟩
  opens := fun opened h =>
    have kept := steady_accounts.opens opened ⟨h.registered, h.accounts⟩
    ⟨kept.1, kept.2, steady_candid.opens opened h.candid⟩
  closes := fun opened h =>
    have kept := steady_accounts.closes opened ⟨h.registered, h.accounts⟩
    ⟨kept.1, kept.2, steady_candid.closes opened h.candid⟩

/-- An accountable machine stays so when nothing about events changes. -/
theorem Machine.Accountable.quiet (h : m.Accountable start past)
    (quiet : m.engine.Quiet m'.engine) (bus : m'.world.bus = m.world.bus)
    (party : m'.engine.party = m.engine.party)
    (handlers : m'.engine.handlers = m.engine.handlers) : m'.Accountable start past := by
  refine ⟨?_, h.accounts.quiet quiet, h.candid.quiet quiet⟩
  refine h.registered.of_eq ?_ (by rw [bus]) party handlers
  intro fired mem
  rwa [quiet.queue] at mem

/-- A moment about no event can be written at any time. -/
theorem Machine.Accountable.record (h : m.Accountable start past) {s : Step}
    (joining : s.joining = []) (leaving : s.leaving = []) (starting : s.starting = []) :
    (m.record s).Accountable start past := by
  have logs := (Engine.Quiet.refl m.engine).record s joining leaving
  exact ⟨h.registered.record s, h.accounts.logs_other logs leaving starting, h.candid.logs logs⟩

theorem Machine.Accountable.beginRun (h : m.Accountable start past) :
    m.beginRun.Accountable start past := by
  obtain ⟨e, w⟩ := m
  have ready : Machine.Accountable start past ⟨{ e with
      stopping := false
      state := .running
      scope := e.globals
      callStack := []
      clock := .started w.now }, w⟩ := h.quiet ⟨rfl, rfl, nofun⟩ rfl rfl rfl
  exact ready.record rfl rfl rfl

theorem Machine.Accountable.endRun (h : m.Accountable start past) (state : RunState) :
    (m.endRun state).Accountable start past := by
  obtain ⟨e, w⟩ := m
  have ready : Machine.Accountable start past ⟨{ e with
      stopping := false
      scope := e.globals
      clock := .stopped
      state }, w⟩ := h.quiet ⟨rfl, rfl, nofun⟩ rfl rfl rfl
  exact ready.record rfl rfl rfl

theorem Machine.Accountable.clearStop (h : m.Accountable start past) :
    m.clearStop.Accountable start past :=
  h.quiet ⟨rfl, rfl, nofun⟩ rfl rfl rfl

/-- Every use of an engine keeps it accountable, finished or not. -/
theorem HostUse.accountable_run (allowance : Nat) (use : HostUse)
    (h : m.Accountable start past) : (use.run allowance m).machine.Accountable start past := by
  cases use with
  | execute program =>
      have steady : Steady maxHandlerNesting (Machine.Accountable start past) := steady_accountable
      rw [HostUse.run, Run.machine_discard]
      exact steady.execute le_rfl (fun _ state h => h.endRun state) allowance program h.beginRun
  | dispatch =>
      rw [HostUse.run, Run.machine_discard]
      exact dispatch_of_steady (fun _ => steady_accountable) (fun _ h => h.clearStop) allowance h
  | pump ms =>
      have steady : Steady maxHandlerNesting (Machine.Accountable start past) := steady_accountable
      exact steady.pump le_rfl (fun _ h => h.clearStop) allowance ms h
  | emit event payload =>
      have evolved : Evolves 0 ∅ m (m.emitOnBus event payload) :=
        (asides_emitOnBus m event payload).evolves
      exact steady_accountable.evolves evolved h
  | schedule moves => exact h.quiet (.refl _) rfl rfl rfl
  | finish =>
      have evolved : Evolves 0 ∅ m m.finishTimeline :=
        (asides_performAll m m.world.timeline).evolves
      exact steady_accountable.evolves evolved h

theorem HostUse.accountable_runAll (uses : List (Nat × HostUse)) (h : m.Accountable start past) :
    (HostUse.runAll uses m).machine.Accountable start past := by
  induction uses generalizing m with
  | nil => exact h
  | cons first rest ih =>
      obtain ⟨allowance, use⟩ := first
      have used := use.accountable_run allowance h
      simp only [HostUse.runAll]
      cases hu : use.run allowance m with
      | done a m' =>
          rw [hu] at used
          rw [Run.bind_done hu]
          exact ih used
      | fault f m' =>
          rw [hu] at used
          rw [Run.bind_fault hu]
          exact used
      | cut why m' =>
          rw [hu] at used
          rw [Run.bind_cut hu]
          exact used

end Accountable

/-- A new engine is accountable if nobody listens on its behalf yet. -/
theorem Machine.accountable_new {party : Party} {limits : Limits} {world : World}
    (alone : ∀ bus ∈ world.bus, ∀ s ∈ bus.subscriptions, s.listener.party ≠ party) :
    (Machine.new party limits world).Accountable [] [] := by
  refine ⟨⟨?_, ?_⟩, Engine.accounts_of_journal rfl, ?_⟩
  · intro fired mem
    cases mem
  · intro id reaches
    unfold Machine.Reaches at reaches
    cases hb : world.bus with
    | none => simp [Machine.new, hb] at reaches
    | some bus =>
        simp only [Machine.new, hb] at reaches
        obtain ⟨s, hs, listener⟩ := reaches
        exact absurd (by rw [listener]) (alone bus hb s hs)
  · intro moments journal _
    cases journal
    exact ⟨rfl, fun x hx => absurd hx List.not_mem_nil⟩

section Calm

variable {start : List Fired} {history : List Moment} {hand queue : List Fired}

/-- An account without stops: what joined has been started, is in hand, or is queued. -/
theorem Balanced.delivered (balanced : Balanced start history hand queue)
    (calm : ∀ x ∈ history, x.registers.stopping = false) :
    start ++ joinedIn history = startedIn history ++ hand ++ queue := by
  have accepted : acceptedIn history = leftIn history :=
    acceptedIn_eq_leftIn_iff.mpr fun x hx _ _ _ => calm x hx
  rw [balanced.conserved, balanced.started, accepted]

/-- A handler starts only right after its event was taken, and then it does start. -/
theorem Balanced.starting_eq {x y : Moment} {earlier : List Moment}
    (before : Balanced start (x :: earlier) x.accepted hand)
    (after : Balanced start (y :: x :: earlier) y.accepted queue) :
    y.step.starting = x.accepted := by
  have started : startedIn (x :: earlier) ++ y.step.starting ++ y.accepted =
      startedIn (x :: earlier) ++ x.accepted ++ y.accepted := by
    calc startedIn (x :: earlier) ++ y.step.starting ++ y.accepted
        = startedIn (y :: x :: earlier) ++ y.accepted := by simp [startedIn]
      _ = acceptedIn (x :: earlier) ++ y.accepted := by
          rw [after.started]
          simp [acceptedIn]
      _ = startedIn (x :: earlier) ++ x.accepted ++ y.accepted := by rw [before.started]
  exact List.append_cancel_left (List.append_cancel_right started)

end Calm

/-- As long as no stop is requested, the events that were ever queued are those whose handlers
have started, in the order of their start, followed by those in the queue. At the moment when
an event is taken from the queue it stands between the two, and its handler is what starts
next. -/
theorem delivery_exactly_once {party : Party} {limits : Limits} {world : World}
    (alone : ∀ bus ∈ world.bus, ∀ s ∈ bus.subscriptions, s.listener.party ≠ party)
    (uses : List (Nat × HostUse)) :
    let engine := (HostUse.runAll uses (Machine.new party limits world)).machine.engine
    ∃ moments, engine.journal = some moments ∧
      ((∀ x ∈ moments, x.step ≠ .stopped) →
        joinedIn moments = startedIn moments ++ engine.queue.toList ∧
        (∀ x earlier, x :: earlier <:+ moments →
          joinedIn (x :: earlier) =
            startedIn (x :: earlier) ++ x.step.leaving ++ x.registers.queue) ∧
        ∀ x y earlier, y :: x :: earlier <:+ moments → y.step.starting = x.step.leaving) := by
  intro engine
  have kept : (HostUse.runAll uses (Machine.new party limits world)).machine.Accountable [] [] :=
    HostUse.accountable_runAll uses (Machine.accountable_new alone)
  obtain ⟨moments, journal, balanced, each⟩ := kept.accounts
  rw [List.append_nil] at journal
  refine ⟨moments, journal, ?_⟩
  intro unstopped
  obtain ⟨_, calm⟩ := kept.candid moments journal unstopped
  have accepted : ∀ x ∈ moments, x.accepted = x.step.leaving := by
    intro x hx
    simp [Moment.accepted, calm x hx]
  refine ⟨?_, ?_, ?_⟩
  · simpa using balanced.delivered calm
  · intro x earlier suffix
    have delivered := (each x earlier suffix).1.delivered fun y hy => calm y (suffix.subset hy)
    rw [accepted x (suffix.subset List.mem_cons_self)] at delivered
    simpa using delivered
  · intro x y earlier suffix
    have older : x :: earlier <:+ moments := (List.suffix_cons _ _).trans suffix
    have next := (each x earlier older).1.starting_eq (each y (x :: earlier) suffix).1
    rwa [accepted x (older.subset List.mem_cons_self)] at next

/-- A program with a handler that emits an event for another one. -/
def relayProgram : Program :=
  [.on {} (.lit {} (.text "a")) [.host {} (.emit (.lit {} (.text "b")) none)],
    .on {} (.lit {} (.text "b")) []]

/-- Two events are queued, and a batch of two handlers leaves what they emitted in the queue. -/
def relayUses : List (Nat × HostUse) :=
  [(1, .execute relayProgram), (0, .emit "a" .undefined), (0, .emit "a" .null), (3, .dispatch)]

/-- A batch that ends at its limit loses nothing: two events have been handed to the first
handler, and the two that it emitted are queued. -/
theorem relay_exactly_once :
    let world : World := { bus := some {} }
    let limits : Limits := { maxLoopIterations := 2 }
    let engine := (HostUse.runAll relayUses (.new 0 limits world)).machine.engine
    (∀ bus ∈ world.bus, ∀ s ∈ bus.subscriptions, s.listener.party ≠ 0) ∧
      ∃ moments, engine.journal = some moments ∧ (∀ x ∈ moments, x.step ≠ .stopped) ∧
        joinedIn moments = startedIn moments ++ engine.queue.toList ∧
        startedIn moments = [⟨0, .undefined⟩, ⟨0, .null⟩] ∧
        engine.queue.toList = [⟨1, .null⟩, ⟨1, .null⟩] := by
  intro world limits engine
  have alone : ∀ bus ∈ world.bus, ∀ s ∈ bus.subscriptions, s.listener.party ≠ 0 := by
    intro bus hbus s hs
    cases hbus
    cases hs
  have shown : engine.journal.all (fun moments => moments.all (fun x => x.step ≠ .stopped) &&
      startedIn moments = [⟨0, .undefined⟩, ⟨0, .null⟩]) = true := by decide +kernel
  have queued : engine.queue.toList = [⟨1, .null⟩, ⟨1, .null⟩] := by decide +kernel
  obtain ⟨moments, journal, delivered⟩ := delivery_exactly_once alone relayUses
  rw [journal, Option.all_some, Bool.and_eq_true, List.all_eq_true] at shown
  have unstopped : ∀ x ∈ moments, x.step ≠ .stopped := fun x hx => of_decide_eq_true (shown.1 x hx)
  exact ⟨alone, moments, journal, unstopped, (delivered unstopped).1, of_decide_eq_true shown.2,
    queued⟩

end HostScript
