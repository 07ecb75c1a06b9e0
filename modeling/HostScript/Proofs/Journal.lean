import HostScript.Proofs.Evolution.Execution

/-!
# What is written in the journal

A move and the opening or closing of a frame write at most one step in the journal of an
engine, except for the frame of a handler: its event is taken, and then the frame begins.
Laws about all moments of an engine follow from what is written and from what the steps
say about the queue.

## Implementation notes

Events enter and leave the queue only together with a step that says so. `Engine.Logs`
states this once, so that no law about the journal looks at single moves again.
-/

namespace HostScript

/-- The event that a step adds to the queue. -/
def Step.joining : Step → List Fired
  | .queued fired => [fired]
  | _ => []

/-- The event that a step takes from the queue. -/
def Step.leaving : Step → List Fired
  | .taken _ fired => [fired]
  | _ => []

/-- The event for which a step starts a handler. -/
def Step.starting : Step → List Fired
  | .entered _ (some fired) => [fired]
  | _ => []

/-- Nothing is written, the queue stays, and no stop is requested. -/
structure Engine.Quiet (e e' : Engine) : Prop where
  journal : e'.journal = e.journal
  queue : e'.queue = e.queue
  stopping : e'.stopping = true → e.stopping = true

/-- A moment is written; it says what happened to the queue and whether a stop is requested. -/
structure Engine.Logs (x : Moment) (e e' : Engine) : Prop where
  journal : e'.journal = e.journal.map (x :: ·)
  queue : x.registers.queue = e'.queue.toList
  stopping : x.registers.stopping = e'.stopping
  moved : e.queue.toList ++ x.step.joining = x.step.leaving ++ e'.queue.toList
  asked : e'.stopping = true → e.stopping = true ∨ x.step = .stopped

section Writing

variable {limit : Nat} {names : Set String} {e e₁ e' : Engine} {m m' inside : Machine}
  {close : Machine → Machine}

theorem Engine.Quiet.refl (e : Engine) : e.Quiet e := ⟨rfl, rfl, id⟩

/-- Any step can be written that says what became of the queue. -/
theorem Engine.logs_record {s : Step} (journal : e₁.journal = e.journal)
    (moved : e.queue.toList ++ s.joining = s.leaving ++ e₁.queue.toList)
    (asked : e₁.stopping = true → e.stopping = true ∨ s = .stopped) :
    Engine.Logs ⟨s, e₁.registers⟩ e (e₁.record s) := by
  rw [Engine.record_eq, journal]
  exact ⟨rfl, rfl, rfl, moved, asked⟩

/-- A step about no event can be written at any time. -/
theorem Engine.Quiet.record (quiet : e.Quiet e₁) (s : Step) (joining : s.joining = [])
    (leaving : s.leaving = []) : Engine.Logs ⟨s, e₁.registers⟩ e (e₁.record s) := by
  refine Engine.logs_record quiet.journal ?_ fun h => .inl (quiet.stopping h)
  rw [joining, leaving, quiet.queue, List.append_nil, List.nil_append]

/-- What is written stays when registers change that have nothing to do with events. -/
theorem Engine.Logs.of_eq {x : Moment} (h : Engine.Logs x e e₁)
    (journal : e'.journal = e₁.journal) (queue : e'.queue = e₁.queue)
    (stopping : e'.stopping = e₁.stopping) : Engine.Logs x e e' where
  journal := journal.trans h.journal
  queue := by rw [queue]; exact h.queue
  stopping := h.stopping.trans stopping.symm
  moved := by rw [queue]; exact h.moved
  asked := by rw [stopping]; exact h.asked

theorem Engine.logs_enqueue (e : Engine) (fired : Fired) :
    ∃ registers, Engine.Logs ⟨.queued fired, registers⟩ e (e.enqueue fired) := by
  refine ⟨_, Engine.logs_record rfl ?_ .inl⟩
  simp [Step.joining, Step.leaving]

theorem Engine.logs_requestStop (e : Engine) :
    ∃ registers, Engine.Logs ⟨.stopped, registers⟩ e e.requestStop := by
  refine ⟨_, Engine.logs_record rfl ?_ fun _ => .inr rfl⟩
  simp [Step.joining, Step.leaving]

theorem Engine.logs_dequeue? {taker : Taker} {fired : Fired}
    (taken : e.dequeue? taker = some (fired, e')) :
    ∃ registers, Engine.Logs ⟨.taken taker fired, registers⟩ e e' := by
  have first := Engine.queue_of_dequeue? taken
  unfold Engine.dequeue? at taken
  split at taken
  · cases taken
  · cases taken
    refine ⟨_, Engine.logs_record rfl ?_ .inl⟩
    simpa [Step.joining, Step.leaving, Engine.record_eq] using first

theorem Machine.quiet_register (m : Machine) (event : String) (body : List Stmt) :
    m.engine.Quiet (m.register event body).engine := by
  simp only [Machine.register]
  split
  · exact ⟨rfl, rfl, id⟩
  · exact ⟨rfl, rfl, id⟩

/-- A move writes nothing or one moment. It starts no handler, and if it takes an event, then
because the handler is gone or for a suspension while a stop is pending. -/
theorem Move.logs (h : Move names m m') :
    m.engine.Quiet m'.engine ∨ ∃ x, Engine.Logs x m.engine m'.engine ∧ x.step.starting = [] ∧
      ∀ taker fired, x.step = .taken taker fired →
        m.engine.handlers.get? fired.handler = none ∨
          taker = .suspension ∧ x.registers.stopping = true := by
  cases h with
  | checked | statement | bar | round | refuseCall =>
      exact .inr ⟨_, (Engine.Quiet.refl _).record _ rfl rfl, rfl, nofun⟩
  | register event body room => exact .inl (m.quiet_register event body)
  | @enqueue e w fired reached =>
      obtain ⟨registers, logs⟩ := e.logs_enqueue fired
      exact .inr ⟨_, logs, rfl, nofun⟩
  | stop =>
      obtain ⟨registers, logs⟩ := m.engine.logs_requestStop
      exact .inr ⟨_, logs, rfl, nofun⟩
  | refuse taken refused =>
      obtain ⟨registers, logs⟩ := Engine.logs_dequeue? taken
      refine .inr ⟨_, logs, rfl, ?_⟩
      rintro _ _ ⟨⟩
      rw [logs.stopping]
      obtain ⟨queue, journal, rfl⟩ := Engine.eq_of_dequeue? taken
      exact refused
  | _ => exact .inl ⟨rfl, rfl, id⟩

/-- Opening a frame writes nothing or one moment, and for a handler two. -/
theorem Frame.logs_open (opened : Frame limit names m inside close) :
    m.engine.Quiet inside.engine ∨
      (∃ x, Engine.Logs x m.engine inside.engine ∧ x.step.leaving = [] ∧
        x.step.starting = []) ∨
      ∃ x y taker fired e, Engine.Logs x m.engine e ∧ Engine.Logs y e inside.engine ∧
        x.step = .taken taker fired ∧ x.registers.stopping = false ∧
        y.step = .entered m.world.now (some fired) := by
  cases opened with
  | child => exact .inl ⟨rfl, rfl, id⟩
  | @call _ _ _ f args found room =>
      have active : m.engine.Quiet
          { m.engine with callStack := f.name :: m.engine.callStack } := ⟨rfl, rfl, id⟩
      have called := active.record (.called f.name) rfl rfl
      exact .inr (.inl ⟨_, called.of_eq rfl rfl rfl, rfl, rfl⟩)
  | suspension =>
      exact .inr (.inl ⟨_, (Engine.Quiet.refl _).record (.suspended m.world.now) rfl rfl, rfl, rfl⟩)
  | @handler _ e e' w taker fired h room taken found running =>
      have number : h.id = fired.handler := by
        simpa using List.find?_some found
      have event : (⟨h.id, fired.payload⟩ : Fired) = fired := by
        rw [number]
      obtain ⟨registers, logs⟩ := Engine.logs_dequeue? taken
      have begun : e'.Quiet
          { (Machine.enterChild ⟨e', w⟩ h.closure [("event", fired.payload)]).engine with
            callStack := []
            clock := .started w.now
            handlerDepth := e'.handlerDepth + 1 } := ⟨rfl, rfl, id⟩
      have started := begun.record (.entered w.now (some ⟨h.id, fired.payload⟩)) rfl rfl
      refine .inr (.inr ⟨_, _, taker, fired, e', logs, started, rfl, ?_, ?_⟩)
      · exact logs.stopping.trans running
      · simp only [event]

/-- Closing a frame writes nothing or one moment. -/
theorem Frame.logs_close (opened : Frame limit names m inside close) (m' : Machine) :
    m'.engine.Quiet (close m').engine ∨
      ∃ x, Engine.Logs x m'.engine (close m').engine ∧ x.step.leaving = [] ∧
        x.step.starting = [] := by
  cases opened with
  | child => exact .inl ⟨rfl, rfl, id⟩
  | call args found room =>
      have popped : m'.engine.Quiet { (m'.withScope m.engine.scope).engine with
          callStack := m'.engine.callStack.tail } := ⟨rfl, rfl, id⟩
      exact .inr ⟨_, popped.record .returned rfl rfl, rfl, rfl⟩
  | suspension =>
      have excluded : m'.engine.Quiet { m'.engine with
          clock := m'.engine.clock.exclude (m'.world.now - m.world.now) } := ⟨rfl, rfl, id⟩
      exact .inr ⟨_, excluded.record (.resumed m'.world.now) rfl rfl, rfl, rfl⟩
  | @handler _ e e' w taker fired h room taken found running =>
      have left : m'.engine.Quiet { m'.engine with
          scope := e'.scope
          callStack := e'.callStack
          clock := e'.clock
          handlerDepth := m'.engine.handlerDepth - 1 } := ⟨rfl, rfl, id⟩
      exact .inr ⟨_, left.record .left rfl rfl, rfl, rfl⟩

end Writing

end HostScript
