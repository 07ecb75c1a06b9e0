import HostScript.Proofs.Journal

/-!
# The account of events

The journal of an engine says which events joined its queue, which left it, and for
which a handler started. An account holds of an engine when at every moment the events
that joined are those that left followed by those that are queued, and the handlers
that started are those of the events that left while no stop was pending. Every
evolution keeps the account as long as events go to handlers that are there.

## Implementation notes

An event leaves the queue one step before its handler starts. At the moment between the
two it is in hand: `Moment.accepted` lists it.
-/

namespace HostScript

/-- The event that leaves the queue at a moment when no stop is pending. -/
def Moment.accepted (x : Moment) : List Fired :=
  if x.registers.stopping then [] else x.step.leaving

/-- A batch that takes an event does so while no stop is pending. -/
def Moment.Heeds (x : Moment) : Prop :=
  ∀ fired, x.step = .taken .batch fired → x.registers.stopping = false

/-- What moments contribute, in the order of time; the moments come newest first. -/
def eventsOf (pick : Moment → List Fired) (past : List Moment) : List Fired :=
  past.reverse.flatMap pick

@[simp] theorem eventsOf_nil (pick : Moment → List Fired) : eventsOf pick [] = [] := rfl

@[simp] theorem eventsOf_cons (pick : Moment → List Fired) (x : Moment) (past : List Moment) :
    eventsOf pick (x :: past) = eventsOf pick past ++ pick x := by
  simp [eventsOf]

/-- The events that joined the queue. -/
def joinedIn (past : List Moment) : List Fired := eventsOf (fun x => x.step.joining) past

/-- The events that left the queue. -/
def leftIn (past : List Moment) : List Fired := eventsOf (fun x => x.step.leaving) past

/-- The events for which a handler started. -/
def startedIn (past : List Moment) : List Fired := eventsOf (fun x => x.step.starting) past

/-- The events that left the queue while no stop was pending. -/
def acceptedIn (past : List Moment) : List Fired := eventsOf Moment.accepted past

/-- The account of a history that begins with the events of `start` in the queue: `queue` is
queued at its end, and `hand` was taken without its handler having started. -/
structure Balanced (start : List Fired) (history : List Moment) (hand queue : List Fired) :
    Prop where
  conserved : start ++ joinedIn history = leftIn history ++ queue
  started : startedIn history ++ hand = acceptedIn history

/-- An engine whose journal goes on from `past`, when `start` was queued, with a balanced
account now and at every moment since. Batches have heeded stops. -/
def Engine.Accounts (start : List Fired) (past : List Moment) (hand : List Fired) (e : Engine) :
    Prop :=
  ∃ history, e.journal = some (history ++ past) ∧
    Balanced start history hand e.queue.toList ∧
    ∀ x earlier, x :: earlier <:+ history →
      Balanced start (x :: earlier) x.accepted x.registers.queue ∧ x.Heeds

section Account

variable {start hand : List Fired} {past : List Moment} {e e' : Engine}

/-- An account begins when nothing has happened yet. -/
theorem Engine.accounts_of_journal (journal : e.journal = some past) :
    e.Accounts e.queue.toList past [] := by
  refine ⟨[], journal, ⟨by simp [joinedIn, leftIn], rfl⟩, ?_⟩
  intro x earlier suffix
  simp at suffix

theorem Engine.Accounts.quiet (h : e.Accounts start past hand) (quiet : e.Quiet e') :
    e'.Accounts start past hand := by
  obtain ⟨history, journal, balanced, moments⟩ := h
  refine ⟨history, quiet.journal.trans journal, ?_, moments⟩
  rw [quiet.queue]
  exact balanced

/-- A moment that starts the handler of the event in hand, and no other, goes on with the
account. What it takes in turn is in hand after it. -/
theorem Engine.Accounts.logs (h : e.Accounts start past hand) {x : Moment}
    (logs : Engine.Logs x e e') (starting : x.step.starting = hand) (heeds : x.Heeds) :
    e'.Accounts start past x.accepted := by
  obtain ⟨history, journal, balanced, moments⟩ := h
  have after : Balanced start (x :: history) x.accepted e'.queue.toList := by
    constructor
    · calc start ++ joinedIn (x :: history)
          = (start ++ joinedIn history) ++ x.step.joining := by simp [joinedIn]
        _ = leftIn history ++ (e.queue.toList ++ x.step.joining) := by
            rw [balanced.conserved, List.append_assoc]
        _ = leftIn (x :: history) ++ e'.queue.toList := by
            rw [logs.moved]
            simp [leftIn]
    · calc startedIn (x :: history) ++ x.accepted
          = (startedIn history ++ hand) ++ x.accepted := by simp [startedIn, starting]
        _ = acceptedIn (x :: history) := by
            rw [balanced.started]
            simp [acceptedIn]
  refine ⟨x :: history, by simp [logs.journal, journal], after, ?_⟩
  intro y earlier suffix
  rcases List.suffix_cons_iff.mp suffix with heq | older
  · cases heq
    rw [logs.queue]
    exact ⟨after, heeds⟩
  · exact moments y earlier older

theorem Moment.accepted_eq_nil {x : Moment}
    (h : ∀ taker fired, x.step = .taken taker fired → x.registers.stopping = true) :
    x.accepted = [] := by
  unfold Moment.accepted
  split
  · rfl
  · next going =>
    cases hs : x.step with
    | taken taker fired => exact absurd (h taker fired hs) going
    | _ => rfl

/-- What is taken is accepted exactly if no stop is pending. -/
theorem Moment.accepted_eq_leaving_iff {x : Moment} :
    x.accepted = x.step.leaving ↔
      ∀ taker fired, x.step = .taken taker fired → x.registers.stopping = false := by
  unfold Moment.accepted
  cases hs : x.step with
  | taken taker fired => cases x.registers.stopping <;> simp [Step.leaving]
  | _ => simp [Step.leaving]

theorem Moment.length_accepted_le (x : Moment) : x.accepted.length ≤ x.step.leaving.length := by
  unfold Moment.accepted
  split
  · exact Nat.zero_le _
  · exact le_rfl

theorem length_acceptedIn_le (history : List Moment) :
    (acceptedIn history).length ≤ (leftIn history).length := by
  induction history with
  | nil => exact le_rfl
  | cons x earlier ih =>
      have now := x.length_accepted_le
      simp only [acceptedIn, leftIn, eventsOf_cons, List.length_append] at ih ⊢
      omega

/-- All that left the queue was accepted exactly if nothing was taken while a stop was
pending. -/
theorem acceptedIn_eq_leftIn_iff {history : List Moment} :
    acceptedIn history = leftIn history ↔
      ∀ x ∈ history, ∀ taker fired, x.step = .taken taker fired →
        x.registers.stopping = false := by
  induction history with
  | nil => simp [acceptedIn, leftIn]
  | cons x earlier ih =>
      rw [List.forall_mem_cons, ← Moment.accepted_eq_leaving_iff, ← ih]
      simp only [acceptedIn, leftIn, eventsOf_cons]
      constructor
      · intro heq
        have before := length_acceptedIn_le earlier
        have now := x.length_accepted_le
        have total := congrArg List.length heq
        simp only [acceptedIn, leftIn] at before
        simp only [List.length_append] at total
        obtain ⟨older, newest⟩ := List.append_inj heq (by omega)
        exact ⟨newest, older⟩
      · rintro ⟨newest, older⟩
        rw [newest, older]

theorem Moment.accepted_of_leaving {x : Moment} (h : x.step.leaving = []) :
    x.accepted = [] := by
  apply Moment.accepted_eq_nil
  intro taker fired hs
  rw [hs] at h
  cases h

theorem Moment.heeds_of_leaving {x : Moment} (h : x.step.leaving = []) : x.Heeds := by
  intro fired hs
  rw [hs] at h
  cases h

end Account

/-! ### Events have handlers -/

/-- Every event that is queued, and every event that an emission can queue, has a handler. -/
structure Machine.Registered (m : Machine) : Prop where
  queued : ∀ fired ∈ m.engine.queue.toList,
    ∃ h ∈ m.engine.handlers.handlers, h.id = fired.handler
  reached : ∀ id, m.Reaches id → ∃ h ∈ m.engine.handlers.handlers, h.id = id

section Registered

variable {limit : Nat} {names : Set String} {m m' inside : Machine} {close : Machine → Machine}

theorem Machine.Reaches.of_eq {id : HandlerId} (h : m'.Reaches id)
    (listeners : m'.world.bus.map Bus.subscriptions = m.world.bus.map Bus.subscriptions)
    (party : m'.engine.party = m.engine.party)
    (handlers : m'.engine.handlers = m.engine.handlers) : m.Reaches id := by
  unfold Machine.Reaches at h ⊢
  rw [party, handlers] at h
  cases hb : m.world.bus with
  | none =>
      rw [hb, Option.map_none, Option.map_eq_none_iff] at listeners
      simpa [listeners] using h
  | some bus =>
      rw [hb, Option.map_some, Option.map_eq_some_iff] at listeners
      obtain ⟨bus', hbus', subscriptions⟩ := listeners
      simpa [hbus', subscriptions] using h

/-- Nothing is lost when the listeners and the handlers stay and no event joins. -/
theorem Machine.Registered.of_eq (h : m.Registered)
    (queue : ∀ fired ∈ m'.engine.queue.toList, fired ∈ m.engine.queue.toList)
    (listeners : m'.world.bus.map Bus.subscriptions = m.world.bus.map Bus.subscriptions)
    (party : m'.engine.party = m.engine.party)
    (handlers : m'.engine.handlers = m.engine.handlers) : m'.Registered := by
  constructor
  · intro fired mem
    rw [handlers]
    exact h.queued fired (queue fired mem)
  · intro id reaches
    rw [handlers]
    exact h.reached id (reaches.of_eq listeners party handlers)

/-- A new handler is there for the events that its subscription brings. -/
theorem Machine.Registered.register (h : m.Registered) (event : String) (body : List Stmt) :
    (m.register event body).Registered := by
  obtain ⟨e, w⟩ := m
  have more : ∀ id, (∃ k ∈ e.handlers.handlers, k.id = id) →
      ∃ k ∈ (e.handlers.register event body e.scope).2.handlers, k.id = id := by
    rintro id ⟨k, hk, number⟩
    exact ⟨k, List.mem_append_left _ hk, number⟩
  simp only [Machine.register]
  split
  · next hb =>
    constructor
    · intro fired mem
      exact more _ (h.queued fired mem)
    · intro id reaches
      simpa [Machine.Reaches, hb] using reaches
  · next bus hb =>
    have noted : ∀ id, (∃ k ∈ (e.handlers.register event body e.scope).2.handlers, k.id = id) →
        ∃ k ∈ ((e.handlers.register event body e.scope).2.setListener
          e.handlers.nextId bus.nextId).handlers, k.id = id := by
      rintro id ⟨k, hk, number⟩
      refine ⟨_, List.mem_map_of_mem hk, ?_⟩
      split
      · exact number
      · exact number
    constructor
    · intro fired mem
      exact noted _ (more _ (h.queued fired mem))
    · intro id reaches
      apply noted
      simp only [Machine.Reaches, Bus.on, List.mem_append, List.mem_singleton] at reaches
      obtain ⟨s, old | rfl, hs⟩ := reaches
      · exact more id (h.reached id (by simpa [Machine.Reaches, hb] using ⟨s, old, hs⟩))
      · cases hs
        exact ⟨_, List.mem_append_right _ (List.mem_singleton_self _), rfl⟩

theorem Machine.Registered.enqueue {e : Engine} {w : World} (h : Machine.Registered ⟨e, w⟩)
    {fired : Fired} (reached : Machine.Reaches ⟨e, w⟩ fired.handler) :
    Machine.Registered ⟨e.enqueue fired, w⟩ := by
  have handlers : (e.enqueue fired).handlers = e.handlers := by
    rw [Engine.enqueue, Engine.record_eq]
  have party : (e.enqueue fired).party = e.party := by
    rw [Engine.enqueue, Engine.record_eq]
  constructor
  · intro other mem
    rw [Engine.queue_enqueue, List.mem_append, List.mem_singleton] at mem
    rw [handlers]
    rcases mem with old | rfl
    · exact h.queued other old
    · exact h.reached _ reached
  · intro id reaches
    rw [handlers]
    exact h.reached id (reaches.of_eq rfl party handlers)

theorem Machine.Registered.dequeue {e e' : Engine} {w : World} (h : Machine.Registered ⟨e, w⟩)
    {taker : Taker} {fired : Fired} (taken : e.dequeue? taker = some (fired, e')) :
    Machine.Registered ⟨e', w⟩ := by
  have first := Engine.queue_of_dequeue? taken
  obtain ⟨queue, journal, rfl⟩ := Engine.eq_of_dequeue? taken
  refine h.of_eq ?_ rfl rfl rfl
  intro other mem
  rw [first]
  exact List.mem_cons_of_mem _ mem

theorem Machine.Registered.record (h : m.Registered) (s : Step) : (m.record s).Registered := by
  obtain ⟨e, w⟩ := m
  simp only [Machine.record, Engine.record_eq]
  exact h.of_eq (fun _ mem => mem) rfl rfl rfl

theorem Move.registered (step : Move names m m') (h : m.Registered) : m'.Registered := by
  cases step with
  | host alike => exact h.of_eq (fun _ mem => mem) alike.listeners rfl rfl
  | checked | statement | bar | round | refuseCall => exact h.record _
  | register event body room => exact h.register event body
  | enqueue fired reached => exact h.enqueue reached
  | stop =>
      simp only [Machine.requestStop, Engine.requestStop, Engine.record_eq]
      exact h.of_eq (fun _ mem => mem) rfl rfl rfl
  | refuse taken refused => exact h.dequeue taken
  | _ => exact h.of_eq (fun _ mem => mem) rfl rfl rfl

theorem Frame.registered_open (opened : Frame limit names m inside close) (h : m.Registered) :
    inside.Registered := by
  cases opened with
  | child => exact h.of_eq (fun _ mem => mem) rfl rfl rfl
  | call args found room =>
      simp only [Machine.pushCall, Machine.enterChild, Engine.record_eq]
      exact h.of_eq (fun _ mem => mem) rfl rfl rfl
  | suspension => exact h.record _
  | handler room taken found running =>
      have rest := h.dequeue taken
      simp only [Machine.enterHandler, Machine.enterChild, Engine.record_eq]
      exact rest.of_eq (fun _ mem => mem) rfl rfl rfl

theorem Frame.registered_close (opened : Frame limit names m inside close) (h : m'.Registered) :
    (close m').Registered := by
  cases opened with
  | child => exact h.of_eq (fun _ mem => mem) rfl rfl rfl
  | call args found room =>
      simp only [Machine.popCall, Machine.withScope, Engine.record_eq]
      exact h.of_eq (fun _ mem => mem) rfl rfl rfl
  | suspension =>
      simp only [Machine.resume, Engine.record_eq]
      exact h.of_eq (fun _ mem => mem) rfl rfl rfl
  | handler room taken found running =>
      simp only [Machine.leaveHandler, Engine.record_eq]
      exact h.of_eq (fun _ mem => mem) rfl rfl rfl

end Registered

/-! ### The account is kept -/

section Kept

variable {limit : Nat} {names : Set String} {m m' inside : Machine} {close : Machine → Machine}
  {start : List Fired} {past : List Moment} {e e' : Engine}

/-- A moment that takes no event and starts no handler leaves nothing in hand. -/
theorem Engine.Accounts.logs_other (h : e.Accounts start past []) {x : Moment}
    (logs : Engine.Logs x e e') (leaving : x.step.leaving = []) (starting : x.step.starting = []) :
    e'.Accounts start past [] := by
  have after := h.logs logs starting (Moment.heeds_of_leaving leaving)
  rwa [Moment.accepted_of_leaving leaving] at after

theorem Move.accounts (step : Move names m m') (registered : m.Registered)
    (h : m.engine.Accounts start past []) : m'.engine.Accounts start past [] := by
  rcases step.logs with quiet | ⟨x, logs, starting, refused⟩
  · exact h.quiet quiet
  · have waiting : ∀ taker fired, x.step = .taken taker fired →
        taker = .suspension ∧ x.registers.stopping = true := by
      intro taker fired hs
      rcases refused taker fired hs with gone | stopping
      · -- The event was the first one in the queue, so its handler is there.
        have mem : fired ∈ m.engine.queue.toList := by
          have moved := logs.moved
          rw [hs] at moved
          simp only [Step.joining, Step.leaving, List.append_nil] at moved
          rw [moved]
          exact List.mem_cons_self
        obtain ⟨k, hk, number⟩ := registered.queued fired mem
        have other := List.find?_eq_none.mp gone k hk
        simp [number] at other
      · exact stopping
    have heeds : x.Heeds := by
      intro fired hs
      cases (waiting .batch fired hs).1
    have after := h.logs logs starting heeds
    have empty : x.accepted = [] :=
      Moment.accepted_eq_nil fun taker fired hs => (waiting taker fired hs).2
    rwa [empty] at after

/-- The event that a handler is invoked for is in hand until its frame begins. -/
theorem Frame.accounts_open (opened : Frame limit names m inside close)
    (h : m.engine.Accounts start past []) : inside.engine.Accounts start past [] := by
  rcases opened.logs_open with quiet | ⟨x, logs, leaving, starting⟩ |
    ⟨x, y, taker, fired, e, taken, entered, hx, running, hy⟩
  · exact h.quiet quiet
  · exact h.logs_other logs leaving starting
  · have inHand := h.logs taken (by rw [hx]; rfl) fun _ _ => running
    have accepted : x.accepted = [fired] := by
      simp [Moment.accepted, running, hx, Step.leaving]
    rw [accepted] at inHand
    have started := inHand.logs entered (by rw [hy]; rfl)
      (Moment.heeds_of_leaving (by rw [hy]; rfl))
    rwa [Moment.accepted_of_leaving (by rw [hy]; rfl)] at started

theorem Frame.accounts_close (opened : Frame limit names m inside close)
    (h : m'.engine.Accounts start past []) : (close m').engine.Accounts start past [] := by
  rcases opened.logs_close m' with quiet | ⟨x, logs, leaving, starting⟩
  · exact h.quiet quiet
  · exact h.logs_other logs leaving starting

/-- A machine whose events have handlers keeps the account, whatever it does. -/
theorem steady_accounts : Steady limit fun m => m.Registered ∧ m.engine.Accounts start past [] where
  move := fun step h => ⟨step.registered h.1, step.accounts h.1 h.2⟩
  opens := fun opened h => ⟨opened.registered_open h.1, opened.accounts_open h.2⟩
  closes := fun opened h => ⟨opened.registered_close h.1, opened.accounts_close h.2⟩

end Kept

/-! ### Stops are on record -/

/-- A stop is pending, now or at a moment of the journal, only if the journal says that one
was requested. -/
def Engine.Candid (e : Engine) : Prop :=
  ∀ moments, e.journal = some moments → (∀ x ∈ moments, x.step ≠ .stopped) →
    e.stopping = false ∧ ∀ x ∈ moments, x.registers.stopping = false

section Candid

variable {limit : Nat} {e e' : Engine}

theorem Engine.Candid.quiet (h : e.Candid) (quiet : e.Quiet e') : e'.Candid := by
  intro moments journal calm
  obtain ⟨stopping, earlier⟩ := h moments (quiet.journal.symm.trans journal) calm
  refine ⟨?_, earlier⟩
  rw [← Bool.not_eq_true] at stopping ⊢
  exact fun now => stopping (quiet.stopping now)

theorem Engine.Candid.logs (h : e.Candid) {x : Moment} (logs : Engine.Logs x e e') :
    e'.Candid := by
  intro moments journal calm
  rw [logs.journal, Option.map_eq_some_iff] at journal
  obtain ⟨before, hbefore, rfl⟩ := journal
  obtain ⟨stopping, earlier⟩ := h before hbefore fun y hy => calm y (List.mem_cons_of_mem _ hy)
  have still : e'.stopping = false := by
    rw [← Bool.not_eq_true] at stopping ⊢
    intro now
    rcases logs.asked now with old | new
    · exact stopping old
    · exact calm x List.mem_cons_self new
  refine ⟨still, ?_⟩
  intro y hy
  rcases List.mem_cons.mp hy with rfl | old
  · exact logs.stopping.trans still
  · exact earlier y old

theorem steady_candid : Steady limit fun m => m.engine.Candid where
  move := by
    intro names m m' step h
    rcases step.logs with quiet | ⟨x, logs, _⟩
    · exact h.quiet quiet
    · exact h.logs logs
  opens := by
    intro names m inside close opened h
    rcases opened.logs_open with quiet | ⟨x, logs, _⟩ |
      ⟨x, y, taker, fired, e, taken, entered, _⟩
    · exact h.quiet quiet
    · exact h.logs logs
    · exact (h.logs taken).logs entered
  closes := by
    intro names m inside m' close opened h
    rcases opened.logs_close m' with quiet | ⟨x, logs, _⟩
    · exact h.quiet quiet
    · exact h.logs logs

end Candid

end HostScript
