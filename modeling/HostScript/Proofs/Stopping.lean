import HostScript.Engine.HostFunctions
import HostScript.Proofs.Delivery

/-!
# What a stop does to queued events

A batch of events ends when a stop is requested, and the request is withdrawn. Whether
the events that were not handled are still queued then depends on who took them: a
suspension goes on to take events while a stop is pending, and none of their handlers
starts. Exactly those events are lost.

## Implementation notes

A pump is a suspension at the top level, so it ends with an empty queue whether a stop was
requested or not. A dispatch looks at the stop before it takes an event; it loses events
only through handlers that suspend.
-/

namespace HostScript

section Emptied

variable {limit : Nat} {sv : Services} {m m' : Machine}

/-- A suspension that takes events goes on until none is left. -/
theorem queue_of_awaitWithin (hsv : sv.Follow limit) (bound : maxHandlerNesting ≤ limit)
    {a : Awaited} {rounds : Nat} {r : Reply} (room : m.engine.handlerDepth < maxHandlerNesting)
    (h : awaitWithin sv a rounds m = .done r m') : m'.engine.queue.toList = [] := by
  induction rounds generalizing m with
  | zero => cases h
  | succ rounds ih =>
      obtain ⟨e, w⟩ := m
      simp only [awaitWithin] at h
      split at h
      · next fired m₁ hnext =>
        obtain ⟨_, e', taken, rfl⟩ := nextFired?_eq_some hnext
        have ran : (runHandler sv fired ⟨e', w⟩).Follows limit ∅ ⟨e, w⟩ :=
          runHandler_follows hsv (Nat.lt_of_lt_of_le room bound) (fun _ => rfl) taken
        cases hr : runHandler sv fired ⟨e', w⟩ with
        | done b m₂ =>
            rw [hr] at ran h
            have depth := (Evolves.restored ran).handlerDepth
            exact ih (by rw [depth]; exact room) h
        | fault f m₂ => rw [hr] at h; cases h
        | cut why m₂ => rw [hr] at h; cases h
      · next hnext =>
        split at h
        · have empty : e.queue.toList = [] := Machine.queue_of_nextFired?_eq_none room hnext
          cases h
          exact empty
        · next waiting =>
          split at h
          · next m₂ passed =>
            have later : Evolves limit ∅ _ m₂ := (asides_passTime? waiting passed).evolves
            have depth := later.restored.handlerDepth
            exact ih (by rw [depth]; exact room) h
          · cases h

/-- A pump that ends has waited, and then withdraws the stop. -/
theorem exists_of_pump {allowance ms : Nat} (h : m.pump allowance ms = some m') :
    ∃ r m₁, (servicesWithin allowance).await (.timer (m.world.now + ms)) m.suspend = .done r m₁ ∧
      m' = (m₁.resume m.world.now).clearStop := by
  simp only [Machine.pump, Option.map_eq_some_iff] at h
  obtain ⟨⟨_, m₂⟩, ended, rfl⟩ := h
  obtain ⟨now, m₃, hnow, ended⟩ := Run.bind_eq_done_iff.mp (Outcome.done?_eq_some_iff.mp ended)
  cases hnow
  obtain ⟨r, m₄, suspended, cleared⟩ := Run.bind_eq_done_iff.mp ended
  cases cleared
  simp only [Services.suspend, Run.ensuring] at suspended
  split at suspended
  · next r' m₁ waited =>
    cases suspended
    exact ⟨_, m₁, waited, rfl⟩
  · cases suspended
  · cases suspended

theorem queue_of_pump {allowance ms : Nat} (room : m.engine.handlerDepth < maxHandlerNesting)
    (h : m.pump allowance ms = some m') : m'.engine.queue.toList = [] := by
  obtain ⟨r, m₁, waited, rfl⟩ := exists_of_pump h
  cases allowance with
  | zero => cases waited
  | succ allowance =>
      have services := servicesWithin_follow (le_refl maxHandlerNesting) allowance
      have suspended : m.suspend.engine.handlerDepth < maxHandlerNesting := by
        simpa [Machine.suspend, Machine.record, Engine.record_eq] using room
      have empty := queue_of_awaitWithin services le_rfl suspended waited
      simpa [Machine.clearStop, Machine.resume, Engine.record_eq] using empty

/-- A dispatch that ends has handled a batch, and then withdraws the stop. -/
theorem exists_of_dispatchPending {allowance ran : Nat}
    (h : m.dispatchPending allowance = some (ran, m')) :
    ∃ m₁, Run.dispatchWithin (servicesWithin allowance) allowance
        m.engine.limits.maxLoopIterations 0 m = .done ran m₁ ∧ m' = m₁.clearStop := by
  obtain ⟨limit, m₂, hlimit, ended⟩ := Run.bind_eq_done_iff.mp (Outcome.done?_eq_some_iff.mp h)
  cases hlimit
  obtain ⟨ran', m₁, handled, ended⟩ := Run.bind_eq_done_iff.mp ended
  obtain ⟨_, m₃, cleared, counted⟩ := Run.bind_eq_done_iff.mp ended
  cases cleared
  cases counted
  exact ⟨m₁, handled, rfl⟩

end Emptied

/-- Each event that was queued before or joined meanwhile has had its handler started or is
queued still, the former before the latter and all in order. -/
def KeepsEvents (before : List Fired) (during : List Moment) (after : List Fired) : Prop :=
  before ++ joinedIn during = startedIn during ++ after

/-- Every moment of a history stands at the head of what happened up to it. -/
theorem heeds_of_mem {start : List Fired} {history : List Moment}
    (each : ∀ x earlier, x :: earlier <:+ history →
      Balanced start (x :: earlier) x.accepted x.registers.queue ∧ x.Heeds) :
    ∀ x ∈ history, x.Heeds := by
  intro x hx
  obtain ⟨later, earlier, rfl⟩ := List.append_of_mem hx
  exact (each x earlier ⟨later, rfl⟩).2

section Batches

variable {m m' : Machine} {past : List Moment} {allowance : Nat}

theorem Machine.accounts_clearStop {start : List Fired}
    (h : m.Registered ∧ m.engine.Accounts start past []) :
    m.clearStop.Registered ∧ m.clearStop.engine.Accounts start past [] :=
  ⟨h.1.of_eq (fun _ mem => mem) rfl rfl rfl, h.2.quiet ⟨rfl, rfl, nofun⟩⟩

theorem accounts_of_dispatchPending {ran : Nat} (registered : m.Registered)
    (journal : m.engine.journal = some past) (h : m.dispatchPending allowance = some (ran, m')) :
    m'.engine.Accounts m.engine.queue.toList past [] := by
  have kept := dispatch_of_steady (fun _ => steady_accounts)
    (fun _ h => Machine.accounts_clearStop h) allowance
    ⟨registered, Engine.accounts_of_journal journal⟩
  rw [Outcome.done?_eq_some_iff.mp h] at kept
  exact kept.2

theorem accounts_of_pump {ms : Nat} (registered : m.Registered)
    (journal : m.engine.journal = some past) (h : m.pump allowance ms = some m') :
    m'.engine.Accounts m.engine.queue.toList past [] := by
  have steady : Steady maxHandlerNesting fun m₁ =>
      m₁.Registered ∧ m₁.engine.Accounts m.engine.queue.toList past [] := steady_accounts
  have kept := steady.pump le_rfl (fun _ h => Machine.accounts_clearStop h) allowance ms
    ⟨registered, Engine.accounts_of_journal journal⟩
  obtain ⟨⟨_, m₁⟩, ended, rfl⟩ := Option.map_eq_some_iff.mp h
  rw [Outcome.done?_eq_some_iff.mp ended] at kept
  exact kept.2

/-- A balanced account keeps events exactly if no suspension took one while a stop was
pending. -/
theorem Balanced.keepsEvents_iff {start queue : List Fired} {during : List Moment}
    (balanced : Balanced start during [] queue) (heeds : ∀ x ∈ during, x.Heeds) :
    KeepsEvents start during queue ↔
      ∀ x ∈ during, ∀ fired, x.step = .taken .suspension fired →
        x.registers.stopping = false := by
  have started : startedIn during = acceptedIn during := by
    simpa using balanced.started
  rw [KeepsEvents, balanced.conserved, started, List.append_left_inj, eq_comm,
    acceptedIn_eq_leftIn_iff]
  constructor
  · intro free x hx fired taken
    exact free x hx .suspension fired taken
  · intro free x hx taker fired taken
    cases taker with
    | batch => exact heeds x hx fired taken
    | suspension => exact free x hx fired taken

end Batches

/-- When a batch ends, no stop is pending. Every event whose handler was not started is still
queued, in its order, exactly if no suspension took an event while a stop was pending. A pump
that takes events at all leaves none in the queue, so it loses all that a stop kept from
starting. -/
theorem batch_keepsEvents_iff {allowance : Nat} {m m' : Machine} {past : List Moment}
    (registered : m.Registered) (journal : m.engine.journal = some past)
    (ended : (∃ ran, m.dispatchPending allowance = some (ran, m')) ∨
      ∃ ms, m.pump allowance ms = some m') :
    m'.engine.stopping = false ∧
      ∃ during, m'.engine.journal = some (during ++ past) ∧
        (KeepsEvents m.engine.queue.toList during m'.engine.queue.toList ↔
          ∀ x ∈ during, ∀ fired, x.step = .taken .suspension fired →
            x.registers.stopping = false) ∧
        ∀ ms, m.pump allowance ms = some m' →
          m.engine.handlerDepth < maxHandlerNesting → m'.engine.queue.toList = [] := by
  have accounts : m'.engine.Accounts m.engine.queue.toList past [] := by
    rcases ended with ⟨ran, dispatched⟩ | ⟨ms, pumped⟩
    · exact accounts_of_dispatchPending registered journal dispatched
    · exact accounts_of_pump registered journal pumped
  have withdrawn : m'.engine.stopping = false := by
    rcases ended with ⟨ran, dispatched⟩ | ⟨ms, pumped⟩
    · obtain ⟨m₁, _, rfl⟩ := exists_of_dispatchPending dispatched
      rfl
    · obtain ⟨r, m₁, _, rfl⟩ := exists_of_pump pumped
      rfl
  obtain ⟨during, journal', balanced, each⟩ := accounts
  refine ⟨withdrawn, during, journal', balanced.keepsEvents_iff (heeds_of_mem each), ?_⟩
  intro ms pumped room
  exact queue_of_pump room pumped

/-- A program with a handler that stops the engine and another one that does nothing. -/
def stoppingProgram : Program :=
  [.on {} (.lit {} (.text "a")) [.expr {} (.call {} "halt" [])],
    .on {} (.lit {} (.text "b")) []]

/-- A machine on which the program has run, with an event for each of its handlers. -/
def stoppingMachine : Machine :=
  (HostUse.runAll
    [(1, .execute stoppingProgram), (0, .emit "a" .undefined), (0, .emit "b" .undefined)]
    (.new 0 {} { bus := some {}, functions := [⟨"halt", HostFunction.halt, 0⟩] })).machine

theorem stoppingMachine_accountable : stoppingMachine.Accountable [] [] := by
  apply HostUse.accountable_runAll
  apply Machine.accountable_new
  intro bus hbus s hs
  cases hbus
  cases hs

/-- The journal of the machine has no stop yet. -/
theorem stoppingMachine_journal :
    ∃ past, stoppingMachine.engine.journal = some past ∧
      ∀ x ∈ past, x.step ≠ .stopped ∧ x.registers.stopping = false := by
  obtain ⟨past, journal, _⟩ := stoppingMachine_accountable.accounts
  have calm : stoppingMachine.engine.journal.all (fun moments => moments.all fun x =>
      decide (x.step ≠ .stopped ∧ x.registers.stopping = false)) = true := by decide +kernel
  rw [List.append_nil] at journal
  rw [journal, Option.all_some, List.all_eq_true] at calm
  exact ⟨past, journal, fun x hx => of_decide_eq_true (calm x hx)⟩

/-- A dispatch that is stopped by the first of two events leaves the second in the queue. -/
theorem dispatch_leaves_event_queued :
    ∃ past m' during, stoppingMachine.engine.journal = some past ∧
      stoppingMachine.dispatchPending 3 = some (1, m') ∧ m'.engine.stopping = false ∧
      m'.engine.journal = some (during ++ past) ∧
      KeepsEvents [⟨0, .undefined⟩, ⟨1, .undefined⟩] during [⟨1, .undefined⟩] := by
  obtain ⟨past, journal, _⟩ := stoppingMachine_journal
  have queued : stoppingMachine.engine.queue.toList = [⟨0, .undefined⟩, ⟨1, .undefined⟩] := by
    decide +kernel
  have ran : (stoppingMachine.dispatchPending 3).map
      (fun p => (p.1, p.2.engine.queue.toList)) = some (1, [⟨1, .undefined⟩]) := by decide +kernel
  have calm : (stoppingMachine.dispatchPending 3).all (fun p => p.2.engine.journal.all
      fun moments => moments.all fun x => x.step.leaving = [] || !x.registers.stopping) = true := by
    decide +kernel
  obtain ⟨⟨_, m'⟩, dispatched, heq⟩ := Option.map_eq_some_iff.mp ran
  obtain ⟨rfl, left⟩ := Prod.mk.inj heq
  obtain ⟨withdrawn, during, journal', keeps, _⟩ :=
    batch_keepsEvents_iff stoppingMachine_accountable.registered journal (.inl ⟨1, dispatched⟩)
  rw [dispatched, Option.all_some, journal', Option.all_some, List.all_eq_true] at calm
  have kept := keeps.mpr (by
    intro x hx fired taken
    have free := calm x (List.mem_append_left _ hx)
    rw [taken] at free
    simpa [Step.leaving] using free)
  rw [queued, left] at kept
  exact ⟨past, m', during, journal, dispatched, withdrawn, journal', kept⟩

/-- A pump that is stopped by the first of two events loses the second: its handler was not
started, and it is not in the queue. -/
theorem pump_loses_event :
    ∃ past m' during, stoppingMachine.Registered ∧ stoppingMachine.engine.journal = some past ∧
      stoppingMachine.pump 4 0 = some m' ∧ m'.engine.journal = some (during ++ past) ∧
      (∃ x ∈ during, x.step = .stopped) ∧
      ¬ KeepsEvents stoppingMachine.engine.queue.toList during m'.engine.queue.toList := by
  obtain ⟨past, journal, calm⟩ := stoppingMachine_journal
  have registered := stoppingMachine_accountable.registered
  have ran : (stoppingMachine.pump 4 0).isSome = true := by decide +kernel
  have shown : (stoppingMachine.pump 4 0).all (fun m' => m'.engine.journal.all fun moments =>
      moments.any (fun x => x.step = .stopped) && moments.any fun x =>
        x.step = .taken .suspension ⟨1, .undefined⟩ && x.registers.stopping) = true := by
    decide +kernel
  obtain ⟨m', pumped⟩ := Option.isSome_iff_exists.mp ran
  obtain ⟨during, journal', balanced, each⟩ := accounts_of_pump registered journal pumped
  rw [pumped, Option.all_some, journal', Option.all_some, Bool.and_eq_true, List.any_eq_true,
    List.any_eq_true] at shown
  obtain ⟨⟨x, hx, stopped⟩, ⟨y, hy, taken⟩⟩ := shown
  rw [Bool.and_eq_true] at taken
  have mem : x ∈ during := by
    rcases List.mem_append.mp hx with new | old
    · exact new
    · exact absurd (of_decide_eq_true stopped) (calm x old).1
  have mem' : y ∈ during := by
    rcases List.mem_append.mp hy with new | old
    · exact new
    · exact absurd taken.2 (by simp [(calm y old).2])
  refine ⟨past, m', during, registered, journal, pumped, journal', ⟨x, mem, ?_⟩, ?_⟩
  · exact of_decide_eq_true stopped
  · rw [balanced.keepsEvents_iff (heeds_of_mem each)]
    intro free
    have running := free y mem' _ (of_decide_eq_true taken.1)
    rw [running] at taken
    exact absurd taken.2 (by simp)

end HostScript
