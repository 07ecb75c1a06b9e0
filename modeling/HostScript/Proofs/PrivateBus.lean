import HostScript.Proofs.Agreement
import HostScript.Proofs.Delivery
import HostScript.Proofs.Laws
import HostScript.Proofs.Starvation

/-!
# An engine with a bus of its own

Without a bus an emission goes to the handlers that the engine has for the event. With a bus
on which nobody else listens or emits, it goes to the listeners of the event, and these are
the same handlers in the same order. So forgetting the bus and the numbers of subscriptions
turns whatever the engine does with the bus into what it does without.

## Implementation notes

The two engines are compared step by step by a law of computations: the run without the bus
is the run with the bus, seen through `Machine.alone`. That handlers agree with
subscriptions is needed for emissions only, and carried along.
-/

namespace HostScript

/-! ### Forgetting the bus -/

/-- A handler without its subscription. -/
def Handler.unsubscribed (h : Handler) : Handler := { h with listener := none }

/-- The handlers without their subscriptions. -/
def Registry.unsubscribed (r : Registry) : Registry :=
  { r with handlers := r.handlers.map Handler.unsubscribed }

/-- The machine without a bus. -/
def Machine.alone (m : Machine) : Machine := m.recast m.engine.handlers.unsubscribed none

/-- The host does not emit by itself, neither in its functions nor on its timeline. -/
structure World.Silent (w : World) : Prop where
  functions : ∀ answer ∈ w.functions.map HostFunction.answer, ∀ call event payload,
    HostAct.emit event payload ∉ (answer call).acts
  timeline : ∀ time event payload, (time, HostMove.emit event payload) ∉ w.timeline

/-- An engine that agrees with its bus, on which nobody else listens or emits. -/
structure Machine.Private (party : Party) (limits : Limits) (m : Machine) : Prop where
  orderly : m.Orderly party limits []
  silent : m.world.Silent

section Forgetting

variable {party : Party} {limits : Limits} {m m' : Machine} {e : Engine} {w : World}
  {r : Registry}

@[simp] theorem Registry.size_unsubscribed (r : Registry) : r.unsubscribed.size = r.size :=
  List.length_map _

theorem Registry.forEvent_unsubscribed (r : Registry) (event : String) :
    r.unsubscribed.forEvent event = r.forEvent event := by
  simp only [Registry.forEvent, Registry.unsubscribed, List.filter_map, List.map_map]
  rfl

theorem Registry.get?_unsubscribed (r : Registry) (id : HandlerId) :
    r.unsubscribed.get? id = (r.get? id).map Handler.unsubscribed := by
  simp only [Registry.get?, Registry.unsubscribed, List.find?_map]
  rfl

theorem Machine.Private.of_eq (h : m.Private party limits)
    (sameParty : m'.engine.party = m.engine.party)
    (sameLimits : m'.engine.limits = m.engine.limits)
    (handlers : m'.engine.handlers = m.engine.handlers) (bus : m'.world.bus = m.world.bus)
    (timeline : m'.world.timeline <:+ m.world.timeline)
    (answers : m'.world.functions.map HostFunction.answer =
      m.world.functions.map HostFunction.answer) : m'.Private party limits := by
  refine ⟨h.orderly.sameRoll ⟨sameParty, sameLimits, handlers, by rw [bus], by rw [bus]⟩, ?_, ?_⟩
  · rw [answers]
    exact h.silent.functions
  · intro time event payload mem
    exact h.silent.timeline time event payload (timeline.subset mem)

theorem Machine.Private.sameCore (h : m.Private party limits) (same : m.SameCore m') :
    m'.Private party limits :=
  h.of_eq same.party same.limits same.handlers same.bus (same.timeline ▸ List.suffix_rfl)
    same.answers

theorem Machine.alone_eq_recast (same : m.SameCore m') :
    m'.alone = m'.recast m.engine.handlers.unsubscribed none := by
  rw [Machine.alone, same.handlers]

@[simp] theorem Machine.alone_record (m : Machine) (s : Step) :
    (m.record s).alone = m.alone.record s := by
  obtain ⟨e, w⟩ := m
  simp only [Machine.record, Engine.record_eq]
  rfl

theorem Machine.alone_requestStop (m : Machine) : m.requestStop.alone = m.alone.requestStop := by
  obtain ⟨e, w⟩ := m
  simp only [Machine.requestStop, Engine.requestStop, Engine.record_eq]
  rfl

theorem Machine.Private.requestStop (h : m.Private party limits) :
    m.requestStop.Private party limits := by
  refine h.of_eq ?_ ?_ ?_ rfl List.suffix_rfl rfl
  all_goals simp only [Machine.requestStop, Engine.requestStop, Engine.record_eq]

end Forgetting

/-! ### Emitting and registering -/

section Emitting

variable {party : Party} {limits : Limits} {m : Machine} {e : Engine} {w : World}

/-- Queue an event for handlers, one after the other. -/
def Engine.enqueueAll (e : Engine) (ids : List HandlerId) (payload : Value) : Engine :=
  ids.foldl (fun e id => e.enqueue ⟨id, payload⟩) e

/-- What is queued does not depend on the handlers that are there. -/
theorem Engine.enqueueAll_recast (e : Engine) (ids : List HandlerId) (payload : Value)
    (handlers : Registry) :
    { e.enqueueAll ids payload with handlers } =
      { e with handlers }.enqueueAll ids payload := by
  induction ids generalizing e with
  | nil => rfl
  | cons id rest ih =>
      have first : { e.enqueue ⟨id, payload⟩ with handlers } =
          { e with handlers }.enqueue ⟨id, payload⟩ := by
        simp only [Engine.enqueue, Engine.record_eq]
        rfl
      simp only [Engine.enqueueAll, List.foldl_cons] at ih ⊢
      rw [ih, first]

/-- Deliveries to the engine itself are queued. -/
theorem Machine.foldl_deliver_own (e : Engine) (w : World) (ids : List HandlerId)
    (payload : Value) :
    (ids.map (Subscriber.mk e.party)).foldl (fun m s => Machine.deliver m payload s) ⟨e, w⟩ =
      ⟨e.enqueueAll ids payload, w⟩ := by
  induction ids generalizing e with
  | nil => rfl
  | cons id rest ih =>
      have party : (e.enqueue ⟨id, payload⟩).party = e.party := by
        simp only [Engine.enqueue, Engine.record_eq]
      have first : Machine.deliver ⟨e, w⟩ payload ⟨e.party, id⟩ = ⟨e.enqueue ⟨id, payload⟩, w⟩ := by
        simp only [Machine.deliver, if_true]
      rw [List.map_cons, List.foldl_cons, first, ← party, ih]
      rfl

theorem Engine.handlers_enqueueAll (e : Engine) (ids : List HandlerId) (payload : Value) :
    (e.enqueueAll ids payload).handlers = e.handlers := by
  induction ids generalizing e with
  | nil => rfl
  | cons id rest ih =>
      have first : (e.enqueue ⟨id, payload⟩).handlers = e.handlers := by
        simp only [Engine.enqueue, Engine.record_eq]
      exact (ih _).trans first

/-- On a bus of its own an engine reaches exactly its own handlers. -/
theorem Machine.Private.emit_eq (h : Machine.Private party limits ⟨e, w⟩) (event : String)
    (payload : Value) :
    ∃ bus, Machine.emit ⟨e, w⟩ event payload =
      ⟨e.enqueueAll (e.handlers.forEvent event) payload, { w with bus := some bus }⟩ := by
  obtain ⟨b, bus, -, agrees, nobody⟩ := h.orderly.bus
  have own : e.party = party := h.orderly.party
  have listeners : (b.listening event).map Subscription.listener =
      (e.handlers.forEvent event).map (Subscriber.mk e.party) := by
    rw [agrees.forEvent, List.filter_eq_self.mpr]
    intro l hl
    obtain ⟨s, hs, rfl⟩ := List.mem_map.mp hl
    by_contra other
    have apart : s ∈ b.apartFrom party := by
      refine List.mem_filter.mpr ⟨(List.mem_filter.mp hs).1, ?_⟩
      simpa [own] using other
    rw [nobody] at apart
    cases apart
  refine ⟨(b.emit event payload).2, ?_⟩
  simp only [Machine.emit, Machine.emitOnBus, show w.bus = some b from bus]
  rw [show (b.emit event payload).1 = _ from listeners]
  exact Machine.foldl_deliver_own e _ _ payload

/-- Emitting with the bus and without it queues the same events. -/
theorem Machine.Private.alone_emit (h : m.Private party limits) (event : String)
    (payload : Value) : (m.emit event payload).alone = m.alone.emit event payload := by
  obtain ⟨e, w⟩ := m
  obtain ⟨bus, emitted⟩ := h.emit_eq event payload
  rw [emitted]
  simp only [Machine.alone, Machine.recast, Machine.emit, Engine.handlers_enqueueAll,
    Engine.enqueueAll_recast, Registry.forEvent_unsubscribed]
  rfl

theorem Machine.Private.emit (h : m.Private party limits) (event : String) (payload : Value) :
    (m.emit event payload).Private party limits := by
  obtain ⟨e, w⟩ := m
  have steady : Steady maxHandlerNesting (Machine.Orderly party limits []) :=
    lasting_orderly.steady maxHandlerNesting
  refine ⟨steady.evolves ((asides_emit _ event payload).evolves : Evolves _ ∅ _ _) h.orderly, ?_⟩
  obtain ⟨bus, emitted⟩ := h.emit_eq event payload
  rw [emitted]
  exact ⟨h.silent.functions, h.silent.timeline⟩

theorem Machine.Private.alone_register (h : m.Private party limits) (event : String)
    (body : List Stmt) : (m.register event body).alone = m.alone.register event body := by
  obtain ⟨e, w⟩ := m
  obtain ⟨b, bus, -, agrees, -⟩ := h.orderly.bus
  rw [Machine.register_eq bus agrees.numbered]
  simp only [Machine.alone, Machine.recast, Machine.register, Registry.unsubscribed,
    Registry.register, List.map_append]
  rfl

theorem Machine.Private.register (h : m.Private party limits)
    (room : m.engine.limits.allowsHandler m.engine.handlers.size = true) (event : String)
    (body : List Stmt) : (m.register event body).Private party limits := by
  refine ⟨h.orderly.register room event body, ?_⟩
  obtain ⟨e, w⟩ := m
  obtain ⟨b, bus, -, agrees, -⟩ := h.orderly.bus
  rw [Machine.register_eq bus agrees.numbered]
  exact ⟨h.silent.functions, h.silent.timeline⟩

/-- What a silent host does at once is the same with the bus and without it. -/
theorem Machine.Private.acts (h : m.Private party limits) {acts : List HostAct}
    (silent : ∀ event payload, HostAct.emit event payload ∉ acts) :
    (acts.foldl Machine.act m).alone = acts.foldl Machine.act m.alone ∧
      (acts.foldl Machine.act m).Private party limits := by
  induction acts generalizing m with
  | nil => exact ⟨rfl, h⟩
  | cons act rest ih =>
      have silent' (event : String) (payload : Value) : HostAct.emit event payload ∉ rest :=
        fun mem => silent event payload (List.mem_cons_of_mem _ mem)
      have acted : (m.act act).alone = m.alone.act act ∧ (m.act act).Private party limits := by
        cases act with
        | stop => exact ⟨m.alone_requestStop, h.requestStop⟩
        | spend ms => exact ⟨rfl, h.of_eq rfl rfl rfl rfl List.suffix_rfl rfl⟩
        | emit event payload => exact absurd List.mem_cons_self (silent event payload)
      rw [List.foldl_cons, List.foldl_cons, ← acted.1]
      exact ih acted.2 silent'

end Emitting

/-! ### Runs with and without the bus -/

/-- How a computation ended with the bus, and that it ended the same way without it. -/
inductive Outcome.Mirrors {α : Type} (party : Party) (limits : Limits) :
    Outcome α → Outcome α → Prop
  | done {a : α} {m : Machine} (still : m.Private party limits) :
      Mirrors party limits (.done a m) (.done a m.alone)
  | fault {f : Fault} {m : Machine} (still : m.Private party limits) :
      Mirrors party limits (.fault f m) (.fault f m.alone)
  | cut (why : Cut) (m : Machine) : Mirrors party limits (.cut why m) (.cut why m.alone)

/-- A computation mirrors itself for an allowance. -/
def Mirrored (party : Party) (limits : Limits) (allowance : Nat) (α : Type)
    (x : Services → Run α) : Prop :=
  ∀ m : Machine, m.Private party limits →
    Outcome.Mirrors party limits (x (servicesWithin allowance) m)
      (x (servicesWithin allowance) m.alone)

section Mirroring

variable {α β : Type} {party : Party} {limits : Limits} {allowance : Nat} {m : Machine}

theorem Outcome.Mirrors.done_of {a : α} {m' : Machine}
    (h : m.alone = m' ∧ m.Private party limits) :
    Mirrors party limits (.done a m) (.done a m') := by
  obtain ⟨rfl, still⟩ := h
  exact .done still

theorem Outcome.Mirrors.fault_of {f : Fault} {m' : Machine}
    (h : m.alone = m' ∧ m.Private party limits) :
    Mirrors party limits (.fault f m : Outcome α) (.fault f m') := by
  obtain ⟨rfl, still⟩ := h
  exact .fault still

theorem mirrored_plain {x : Run α} (hx : x.Plain) :
    Mirrored party limits allowance α fun _ => x := by
  intro m h
  obtain ⟨ends, -, blind⟩ := hx m
  change Outcome.Mirrors party limits (x m) (x (m.recast m.engine.handlers.unsubscribed none))
  rw [blind]
  cases hm : x m with
  | cut why m₁ => rw [hm] at ends; exact ends.elim
  | done a m₁ =>
      rw [hm] at ends
      rw [Outcome.map, ← Machine.alone_eq_recast ends]
      exact .done (h.sameCore ends)
  | fault f m₁ =>
      rw [hm] at ends
      rw [Outcome.map, ← Machine.alone_eq_recast ends]
      exact .fault (h.sameCore ends)

/-- What follows on a computation, by the ways in which it can end. -/
theorem Outcome.Mirrors.bind {x x' : Run α} {f f' : α → Run β} {m' : Machine}
    (h : Mirrors party limits (x m) (x' m'))
    (hf : ∀ (a : α) (m : Machine), m.Private party limits →
      Mirrors party limits (f a m) (f' a m.alone)) :
    Mirrors party limits ((x >>= f) m) ((x' >>= f') m') := by
  simp only [Bind.bind, Run.andThen]
  generalize x m = o, x' m' = o' at h
  cases h with
  | done still => exact hf _ _ still
  | fault still => exact .fault still
  | cut why m₁ => exact .cut why m₁

theorem mirrored_bind {x : Services → Run α} {f : α → Services → Run β}
    (hx : Mirrored party limits allowance α x) (hf : ∀ a, Mirrored party limits allowance β (f a)) :
    Mirrored party limits allowance β fun sv => x sv >>= fun a => f a sv :=
  fun m h => (hx m h).bind hf

/-- What is done to the machine at the end can be done with the bus or without it. -/
theorem Outcome.Mirrors.ensuring {x : Run α} {close : Machine → Machine} {m' : Machine}
    (h : Mirrors party limits (x m) (x m'))
    (closes : ∀ m : Machine, m.Private party limits →
      (close m).alone = close m.alone ∧ (close m).Private party limits) :
    Mirrors party limits (x.ensuring close m) (x.ensuring close m') := by
  simp only [Run.ensuring]
  generalize x m = o, x m' = o' at h
  cases h with
  | done still => exact .done_of (closes _ still)
  | fault still => exact .fault_of (closes _ still)
  | cut why m₁ => exact .cut why m₁

theorem mirrored_located {x : Services → Run α} (loc : Location)
    (hx : Mirrored party limits allowance α x) :
    Mirrored party limits allowance α fun sv => (x sv).located loc := by
  intro m h
  have mirrors := hx m h
  simp only [Run.located]
  generalize x (servicesWithin allowance) m = o,
    x (servicesWithin allowance) m.alone = o' at mirrors
  cases mirrors with
  | done still => exact .done still
  | fault still => exact .fault still
  | cut why m₁ => exact .cut why m₁

theorem mirrored_attempt {x : Services → Run Signal}
    {otherwise : String → Services → Run Signal}
    (hx : Mirrored party limits allowance Signal x)
    (hother : ∀ message, Mirrored party limits allowance Signal (otherwise message)) :
    Mirrored party limits allowance Signal fun sv =>
      Run.attempt (x sv) fun message => otherwise message sv := by
  intro m h
  have mirrors := hx m h
  simp only [Run.attempt]
  generalize x (servicesWithin allowance) m = o,
    x (servicesWithin allowance) m.alone = o' at mirrors
  cases mirrors with
  | done still => exact .done still
  | cut why m₁ => exact .cut why m₁
  | @fault f m₁ still =>
      cases f with
      | cancelled => exact .fault still
      | failure k d => exact hother _ m₁ still

theorem mirrored_inChildOf {x : Services → Run α} (parent : ScopeId) (vars : Bindings)
    (hx : Mirrored party limits allowance α x) :
    Mirrored party limits allowance α fun sv => (x sv).inChildOf parent vars := by
  intro m h
  have entered : (m.enterChild parent vars).Private party limits :=
    h.of_eq rfl rfl rfl rfl List.suffix_rfl rfl
  refine (hx _ entered).ensuring fun m' h' => ?_
  exact ⟨rfl, h'.of_eq rfl rfl rfl rfl List.suffix_rfl rfl⟩

theorem mirrored_openAt (base index : Value) :
    Mirrored party limits allowance Unit fun _ => Run.openAt base index := by
  intro m h
  have heap : m.alone.world.heap = m.world.heap := rfl
  cases base with
  | object a =>
      simp only [Run.openAt, heap]
      split
      · exact .cut _ m
      · exact .done h
  | _ => exact .done h

theorem mirrored_define (name : String) (params : List String) (body : List Stmt) :
    Mirrored party limits allowance Unit fun _ => Run.define name params body := by
  intro m h
  have world : m.alone.world.function? name = m.world.function? name := rfl
  simp only [Run.define, world]
  split
  · exact .fault h
  · exact .done (h.of_eq rfl rfl rfl rfl List.suffix_rfl rfl)

theorem mirrored_addHandler (event : String) (body : List Stmt) :
    Mirrored party limits allowance Unit fun _ => Run.addHandler event body := by
  intro m h
  have size : m.alone.engine.handlers.size = m.engine.handlers.size :=
    Registry.size_unsubscribed _
  by_cases room : m.engine.limits.allowsHandler m.engine.handlers.size = true
  · have room' : m.alone.engine.limits.allowsHandler m.alone.engine.handlers.size = true := by
      rw [size]
      exact room
    simp only [Run.addHandler, if_pos room, if_pos room']
    rw [← h.alone_register]
    exact .done (h.register room event body)
  · have room' : ¬ m.alone.engine.limits.allowsHandler m.alone.engine.handlers.size = true := by
      rw [size]
      exact room
    simp only [Run.addHandler, if_neg room, if_neg room']
    exact .fault h

end Mirroring

/-! ### Handlers and waiting -/

section Waiting

variable {party : Party} {limits : Limits} {m m' : Machine} {a : Awaited}

theorem Machine.Private.performDue (h : m.Private party limits) {moves : List (Nat × HostMove)}
    (suffix : moves <:+ m.world.timeline) :
    (m.performDue moves).alone = m.alone.performDue moves ∧
      (m.performDue moves).Private party limits := by
  induction moves generalizing m with
  | nil => exact ⟨rfl, h.of_eq rfl rfl rfl rfl List.nil_suffix rfl⟩
  | cons first rest ih =>
      obtain ⟨time, mv⟩ := first
      by_cases due : time ≤ m.world.now
      · have due' : time ≤ m.alone.world.now := due
        simp only [Machine.performDue, if_pos due, if_pos due']
        cases mv with
        | stop =>
            have moved := ih h.requestStop ((List.suffix_cons _ _).trans suffix)
            rwa [Machine.alone_requestStop] at moved
        | emit event payload =>
            exact absurd (suffix.subset List.mem_cons_self) (h.silent.timeline time event payload)
      · have due' : ¬ time ≤ m.alone.world.now := due
        simp only [Machine.performDue, if_neg due, if_neg due']
        exact ⟨rfl, h.of_eq rfl rfl rfl rfl suffix rfl⟩

/-- The machine at another time. -/
def Machine.atTime (m : Machine) (now : Nat) : Machine := ⟨m.engine, { m.world with now }⟩

/-- Time passes in one of three ways: the host does what is due, or the time comes for what it
does next or for the ending, or only for the ending. -/
theorem Machine.passTime?_eq (m : Machine) (a : Awaited) :
    m.passTime? a =
      match m.world.timeline with
      | (time, mv) :: rest =>
        if time ≤ m.world.now then some (m.performDue ((time, mv) :: rest))
        else some (m.atTime (((a.wakeTime?).map (min time)).getD time))
      | [] => (a.wakeTime?).map fun time => m.atTime (max m.world.now time) := by
  unfold Machine.passTime?
  cases m.world.timeline with
  | cons first rest => rfl
  | nil =>
      dsimp only
      cases a.wakeTime? with
      | none => rfl
      | some time => rfl

theorem Machine.Private.passTime? (h : m.Private party limits) (a : Awaited) :
    m.alone.passTime? a = (m.passTime? a).map Machine.alone ∧
      ∀ m', m.passTime? a = some m' → m'.Private party limits := by
  have later (now : Nat) : (m.atTime now).Private party limits :=
    h.of_eq rfl rfl rfl rfl List.suffix_rfl rfl
  have due := h.performDue (List.suffix_rfl : m.world.timeline <:+ _)
  have timeline : m.alone.world.timeline = m.world.timeline := rfl
  have now : m.alone.world.now = m.world.now := rfl
  simp only [Machine.passTime?_eq, timeline, now]
  generalize m.world.timeline = moves at due
  cases moves with
  | nil =>
      dsimp only
      rw [Option.map_map]
      refine ⟨rfl, ?_⟩
      intro m' passed
      obtain ⟨time, -, rfl⟩ := Option.map_eq_some_iff.mp passed
      exact later _
  | cons first rest =>
      dsimp only
      split
      · rw [Option.map_some, due.1]
        refine ⟨rfl, ?_⟩
        intro m' passed
        exact Option.some.inj passed ▸ due.2
      · refine ⟨rfl, ?_⟩
        intro m' passed
        exact Option.some.inj passed ▸ later _

theorem Machine.Private.dequeue {e : Engine} {w : World}
    (h : Machine.Private party limits ⟨e, w⟩) (taker : Taker) :
    Engine.dequeue? { e with handlers := e.handlers.unsubscribed } taker =
      (e.dequeue? taker).map (fun p => (p.1, { p.2 with handlers := p.2.handlers.unsubscribed })) ∧
      ∀ fired e', e.dequeue? taker = some (fired, e') → Machine.Private party limits ⟨e', w⟩ := by
  constructor
  · simp only [Engine.dequeue?]
    cases e.queue.pop? with
    | none => rfl
    | some popped =>
        simp only [Engine.record_eq]
        rfl
  · intro fired e' taken
    obtain ⟨queue, journal, rfl⟩ := Engine.eq_of_dequeue? taken
    exact h.of_eq rfl rfl rfl rfl List.suffix_rfl rfl

theorem Machine.Private.nextFired? (h : m.Private party limits) :
    m.alone.nextFired? = m.nextFired?.map (fun p => (p.1, p.2.alone)) ∧
      ∀ fired m', m.nextFired? = some (fired, m') → m'.Private party limits := by
  obtain ⟨e, w⟩ := m
  obtain ⟨same, still⟩ := h.dequeue .suspension
  constructor
  · have depth : (Machine.alone ⟨e, w⟩).engine.handlerDepth = e.handlerDepth := rfl
    simp only [Machine.nextFired?, depth]
    split
    · simp only [Machine.alone, Machine.recast, same, Option.map_map]
      rfl
    · rfl
  · intro fired m' taken
    obtain ⟨-, e', dequeued, rfl⟩ := nextFired?_eq_some taken
    exact still fired e' dequeued

/-- The next turn of a machine without the bus, given the one with it. -/
def Turn.alone : Turn → Turn
  | .event fired m => .event fired m.alone
  | .ending r m => .ending r m.alone
  | .time later m => .time (later.map Machine.alone) m.alone

/-- The engine is in order after a turn. -/
def Turn.Private (party : Party) (limits : Limits) : Turn → Prop
  | .event _ m => m.Private party limits
  | .ending _ m => m.Private party limits
  | .time later _ => ∀ m, later = some m → m.Private party limits

theorem Machine.Private.showing (h : m.Private party limits) :
    m.alone.showing = m.showing.alone ∧ m.showing.Private party limits := by
  obtain ⟨e, ⟨_, _, _, _, _, _, _, _, _, _, _, _, asking, _⟩⟩ := m
  cases asking with
  | none => exact ⟨rfl, h.of_eq rfl rfl rfl rfl List.suffix_rfl rfl⟩
  | some n => exact ⟨rfl, h.of_eq rfl rfl rfl rfl List.suffix_rfl rfl⟩

theorem Machine.Private.turn (h : m.Private party limits) (a : Awaited) :
    m.alone.turn a = (m.turn a).alone ∧ (m.turn a).Private party limits := by
  obtain ⟨next, still⟩ := h.nextFired?
  obtain ⟨shows, shown⟩ := h.showing
  obtain ⟨passes, passed⟩ := shown.passTime? a
  simp only [Machine.turn, next, shows, passes]
  have now : m.showing.alone.world.now = m.showing.world.now := rfl
  cases hn : m.nextFired? with
  | some taken => exact ⟨rfl, still _ _ hn⟩
  | none =>
      rw [now]
      cases a.ready? m.showing.world.now with
      | some r => exact ⟨rfl, shown⟩
      | none => exact ⟨rfl, passed⟩

end Waiting

/-! ### Calls, handlers and suspensions -/

section Frames

variable {party : Party} {limits : Limits} {allowance : Nat} {m : Machine}

theorem Machine.Private.record (h : m.Private party limits) (s : Step) :
    (m.record s).Private party limits := by
  obtain ⟨e, w⟩ := m
  simp only [Machine.record, Engine.record_eq]
  exact h.of_eq rfl rfl rfl rfl List.suffix_rfl rfl

theorem mirrored_suspend {a : Awaited}
    (await : Mirrored party limits allowance Reply fun sv => sv.await a) :
    Mirrored party limits allowance Reply fun sv => sv.suspend a := by
  intro m h
  have alone : m.alone.suspend = m.suspend.alone := (m.alone_record _).symm
  change Outcome.Mirrors party limits
    (((servicesWithin allowance).await a).ensuring (·.resume m.world.now) m.suspend)
    (((servicesWithin allowance).await a).ensuring (·.resume m.world.now) m.alone.suspend)
  rw [alone]
  refine (await m.suspend (h.record _)).ensuring ?_
  rintro ⟨e, w⟩ h'
  simp only [Machine.resume, Engine.record_eq]
  exact ⟨rfl, h'.of_eq rfl rfl rfl rfl List.suffix_rfl rfl⟩

theorem World.answers_countCall (w : World) (name : String) :
    (w.countCall name).functions.map HostFunction.answer =
      w.functions.map HostFunction.answer := by
  simp only [World.countCall, List.map_map]
  apply List.map_congr_left
  intro f _
  simp only [Function.comp_apply]
  split
  · rfl
  · rfl

/-- A function of a silent host acts and answers in the same way. -/
theorem mirrors_callHost {name : String} {f : HostFunction} (args : List Value)
    (suspend : ∀ {a : Awaited}, a ≠ [] →
      Mirrored party limits allowance Reply fun sv => sv.suspend a)
    (h : m.Private party limits) (found : m.world.function? name = some f) :
    Outcome.Mirrors party limits ((servicesWithin allowance).callHost f args m)
      ((servicesWithin allowance).callHost f args m.alone) := by
  let call : HostCall :=
    { args, heap := m.world.heap, now := m.world.now, earlier := f.calls }
  have offered : f.answer ∈ m.world.functions.map HostFunction.answer :=
    List.mem_map_of_mem (List.mem_of_find?_eq_some found)
  have counted : Machine.Private party limits ⟨m.engine, m.world.countCall f.name⟩ :=
    h.of_eq rfl rfl rfl rfl List.suffix_rfl (m.world.answers_countCall f.name)
  obtain ⟨same, still⟩ := counted.acts (h.silent.functions _ offered call)
  have replied : Mirrored party limits allowance Value fun sv =>
      sv.replied f.name (f.answer call) := by
    simp only [Services.replied]
    cases (f.answer call).delay with
    | none => exact mirrored_plain (.receive _ _)
    | some ms =>
        refine mirrored_bind (mirrored_plain (.view fun _ _ _ => rfl)) fun now => ?_
        refine mirrored_bind (suspend (List.cons_ne_nil _ _)) fun r => ?_
        exact mirrored_plain (.receive _ r)
  rw [Services.callHost_eq, Services.callHost_eq]
  change Outcome.Mirrors party limits _ ((servicesWithin allowance).replied f.name (f.answer call)
    ((f.answer call).acts.foldl Machine.act (Machine.alone ⟨m.engine, m.world.countCall f.name⟩)))
  rw [← same]
  exact replied _ still

theorem Machine.Private.leaveHandler (h : m.Private party limits) (scope : ScopeId)
    (callStack : List String) (clock : RunClock) :
    (m.leaveHandler scope callStack clock).alone = m.alone.leaveHandler scope callStack clock ∧
      (m.leaveHandler scope callStack clock).Private party limits := by
  obtain ⟨e, w⟩ := m
  simp only [Machine.leaveHandler, Engine.record_eq]
  exact ⟨rfl, h.of_eq rfl rfl rfl rfl List.suffix_rfl rfl⟩

theorem Machine.Private.report (h : m.Private party limits) (message : String) :
    (m.report message).alone = m.alone.report message ∧
      (m.report message).Private party limits := by
  obtain ⟨e, ⟨_, _, _, _, _, _, _, _, sink, _, _, _, _, _⟩⟩ := m
  cases sink with
  | true => exact ⟨rfl, h.of_eq rfl rfl rfl rfl List.suffix_rfl rfl⟩
  | false => exact ⟨rfl, h.of_eq rfl rfl rfl rfl List.suffix_rfl rfl⟩

/-- A handler runs in the same way with the bus and without it. -/
theorem mirrored_runHandler (fired : Fired)
    (bodies : ∀ body, Mirrored party limits allowance Signal fun sv => execAll sv body) :
    Mirrored party limits allowance Bool fun sv => runHandler sv fired := by
  intro m h
  have found : m.alone.engine.handlers.get? fired.handler =
      (m.engine.handlers.get? fired.handler).map Handler.unsubscribed :=
    Registry.get?_unsubscribed _ _
  have stopping : m.alone.engine.stopping = m.engine.stopping := rfl
  simp only [runHandler, found, stopping]
  cases m.engine.handlers.get? fired.handler with
  | none => exact .done h
  | some k =>
      dsimp only [Option.map_some]
      split
      · exact .done h
      · have entered : (m.enterHandler k fired.payload).Private party limits := by
          obtain ⟨e, w⟩ := m
          simp only [Machine.enterHandler, Machine.enterChild, Engine.record_eq]
          exact h.of_eq rfl rfl rfl rfl List.suffix_rfl rfl
        have alone : m.alone.enterHandler k.unsubscribed fired.payload =
            (m.enterHandler k fired.payload).alone := by
          obtain ⟨e, w⟩ := m
          simp only [Machine.enterHandler, Machine.enterChild, Engine.record_eq]
          rfl
        have ran : Outcome.Mirrors party limits
            (execAll (servicesWithin allowance) k.body (m.enterHandler k fired.payload))
            (execAll (servicesWithin allowance) k.unsubscribed.body
              (m.alone.enterHandler k.unsubscribed fired.payload)) := by
          rw [alone]
          exact bodies k.body _ entered
        have left (m' : Machine) (h' : m'.Private party limits) :=
          h'.leaveHandler m.engine.scope m.engine.callStack m.engine.clock
        generalize execAll _ k.body _ = o, execAll _ k.unsubscribed.body _ = o' at ran
        cases ran with
        | cut why m₁ => exact .cut why m₁
        | @done signal m₁ still => exact .done_of (left m₁ still)
        | @fault f m₁ still =>
            cases f with
            | cancelled => exact .done_of (left m₁ still)
            | failure n d =>
                obtain ⟨same, closed⟩ := left m₁ still
                have told := closed.report (Fault.failure n d).describe
                rw [same] at told
                exact .done_of told

theorem mirrored_awaitWithin (a : Awaited) (rounds : Nat)
    (handlers : ∀ fired, Mirrored party limits allowance Bool fun sv => runHandler sv fired) :
    Mirrored party limits allowance Reply fun sv => awaitWithin sv a rounds := by
  induction rounds with
  | zero => exact fun m _ => .cut .allowance m
  | succ rounds ih =>
      intro m h
      obtain ⟨same, still⟩ := h.turn a
      simp only [awaitWithin_succ, same]
      cases ht : m.turn a with
      | ending r m₁ =>
          rw [ht] at still
          exact .done still
      | event fired m₁ =>
          rw [ht] at still
          exact (handlers fired m₁ still).bind fun _ => ih
      | time later m₁ =>
          rw [ht] at still
          cases later with
          | none => exact .cut .allowance m₁
          | some m₂ => exact ih m₂ (still m₂ rfl)

theorem mirrored_callUser {f : UserFunction} (args : List Value)
    (bodies : ∀ body, Mirrored party limits allowance Signal fun sv => execAll sv body) :
    Mirrored party limits allowance Value fun sv => callUser sv f args := by
  intro m h
  cases room : m.engine.limits.allowsCall m.engine.callStack.length with
  | false =>
      have room' : m.alone.engine.limits.allowsCall m.alone.engine.callStack.length = false := room
      simp only [callUser_eq_fault _ args room, callUser_eq_fault _ args room']
      exact .fault_of ⟨m.alone_record _, h.record _⟩
  | true =>
      have room' : m.alone.engine.limits.allowsCall m.alone.engine.callStack.length = true := room
      have pushed : (m.pushCall f.name).alone = m.alone.pushCall f.name ∧
          (m.pushCall f.name).Private party limits := by
        obtain ⟨e, w⟩ := m
        simp only [Machine.pushCall, Engine.record_eq]
        exact ⟨rfl, h.of_eq rfl rfl rfl rfl List.suffix_rfl rfl⟩
      simp only [callUser_eq _ args room, callUser_eq _ args room']
      rw [← pushed.1]
      have inside := mirrored_inChildOf f.closure (bindParams f.params args []) (bodies f.body)
        _ pushed.2
      refine (inside.ensuring ?_).bind fun signal m' h' => .done h'
      rintro ⟨e, w⟩ h'
      simp only [Machine.popCall, Engine.record_eq]
      exact ⟨rfl, h'.of_eq rfl rfl rfl rfl List.suffix_rfl rfl⟩

theorem mirrored_callByName (name : String) (args : List Value)
    (suspend : ∀ {a : Awaited}, a ≠ [] →
      Mirrored party limits allowance Reply fun sv => sv.suspend a)
    (call : ∀ f, Mirrored party limits allowance Value fun sv => sv.call f args) :
    Mirrored party limits allowance Value fun sv => sv.callByName name args := by
  intro m h
  have world : m.alone.world.function? name = m.world.function? name := rfl
  have engine : m.alone.engine.function? name = m.engine.function? name := rfl
  simp only [Services.callByName, world, engine]
  cases hf : m.world.function? name with
  | some f => exact mirrors_callHost args suspend h hf
  | none =>
      dsimp only
      cases Builtin.ofName? name with
      | some b =>
          have called : Mirrored party limits allowance Value fun _ =>
            Services.callBuiltin b args := mirrored_plain (.callBuiltin b args)
          exact called m h
      | none =>
          dsimp only
          cases m.engine.function? name with
          | some f => exact call f m h
          | none => exact .fault h

/-- Everything a script does mirrors itself. The induction is on the allowance; calls and
suspensions use one that is smaller. -/
theorem mirrored_law (party : Party) (limits : Limits) (allowance : Nat) :
    Law True (Mirrored party limits allowance) := by
  have frames : (∀ f args, Mirrored party limits allowance Value fun sv => sv.call f args) ∧
      ∀ a : Awaited, Mirrored party limits allowance Reply fun sv => sv.await a := by
    cases allowance with
    | zero => exact ⟨fun _ _ m _ => .cut .allowance m, fun _ m _ => .cut .allowance m⟩
    | succ allowance =>
        have bodies (body : List Stmt) : Mirrored party limits allowance Signal fun sv =>
            execAll sv body := execAll_law (mirrored_law party limits allowance) body (.inl trivial)
        have handlers (fired : Fired) := mirrored_runHandler fired bodies
        exact ⟨fun f args => mirrored_callUser args bodies,
          fun a => mirrored_awaitWithin a allowance handlers⟩
  obtain ⟨call, await⟩ := frames
  constructor
  case plain => exact mirrored_plain
  case bind => exact mirrored_bind
  case located => exact fun _ hx => mirrored_located _ hx
  case attempt => exact mirrored_attempt
  case inChild => exact fun vars hx m h => mirrored_inChildOf m.engine.scope vars hx m h
  case bar =>
    intro loc m h
    exact .fault_of ⟨m.alone_record _, h.record _⟩
  case openAt => exact mirrored_openAt
  case emit =>
    intro event payload m h
    exact .done_of ⟨h.alone_emit event payload, h.emit event payload⟩
  case suspend => exact fun _ => mirrored_suspend (await _)
  case callByName =>
    intro name args
    exact mirrored_callByName name args (fun _ => mirrored_suspend (await _)) fun f => call f args
  case define => exact fun name params body _ => mirrored_define name params body
  case addHandler => exact fun event body _ => mirrored_addHandler event body

end Frames

/-! ### Operations -/

section Operations

variable {α : Type} {party : Party} {limits : Limits} {allowance : Nat} {m : Machine}

theorem mirrored_execAll (body : List Stmt) :
    Mirrored party limits allowance Signal fun sv => execAll sv body :=
  execAll_law (mirrored_law party limits allowance) body (.inl trivial)

theorem mirrored_clearStop :
    Mirrored party limits allowance Unit fun _ => Run.change Machine.clearStop :=
  mirrored_plain (.change (fun _ => .of_eq rfl) fun _ _ _ => rfl)

theorem Machine.Private.endRun (h : m.Private party limits) (state : RunState) :
    (m.endRun state).alone = m.alone.endRun state ∧
      (m.endRun state).Private party limits := by
  obtain ⟨e, w⟩ := m
  simp only [Machine.endRun, Engine.record_eq]
  exact ⟨rfl, h.of_eq rfl rfl rfl rfl List.suffix_rfl rfl⟩

theorem Outcome.Mirrors.concluded {o o' : Outcome Signal} (h : Mirrors party limits o o') :
    Mirrors party limits o.concluded o'.concluded := by
  cases h with
  | cut why m => exact .cut why m
  | @done signal m still => cases signal with
      | _ => exact .done_of (still.endRun _)
  | @fault f m still => cases f with
      | _ => exact .done_of (still.endRun _)

theorem mirrors_execute (h : m.Private party limits) (allowance : Nat) (program : Program) :
    Outcome.Mirrors party limits (Run.execute allowance program m)
      (Run.execute allowance program m.alone) := by
  have begun : m.beginRun.alone = m.alone.beginRun ∧ m.beginRun.Private party limits := by
    obtain ⟨e, w⟩ := m
    simp only [Machine.beginRun, Engine.record_eq]
    exact ⟨rfl, h.of_eq rfl rfl rfl rfl List.suffix_rfl rfl⟩
  rw [Run.execute_eq, Run.execute_eq, ← begun.1]
  exact (mirrored_execAll program _ begun.2).concluded

theorem mirrors_runHandler (h : m.Private party limits) (allowance : Nat) (fired : Fired) :
    Outcome.Mirrors party limits (runHandler (servicesWithin allowance) fired m)
      (runHandler (servicesWithin allowance) fired m.alone) :=
  mirrored_runHandler fired mirrored_execAll m h

theorem mirrored_dispatchWithin (steps left ran : Nat) :
    Mirrored party limits allowance Nat fun sv => Run.dispatchWithin sv steps left ran := by
  induction steps generalizing left ran with
  | zero => exact fun m _ => .cut .allowance m
  | succ steps ih =>
      cases left with
      | zero => exact fun m h => .done h
      | succ left =>
          rintro ⟨e, w⟩ h
          obtain ⟨same, still⟩ := h.dequeue .batch
          have stopping : (Machine.alone ⟨e, w⟩).engine.stopping = e.stopping := rfl
          simp only [Run.dispatchWithin, stopping]
          split
          · exact .done h
          · simp only [Machine.alone, Machine.recast, same]
            cases taken : e.dequeue? .batch with
            | none => exact .done h
            | some dequeued =>
                obtain ⟨fired, e'⟩ := dequeued
                have handled := mirrors_runHandler (still fired e' taken) allowance fired
                simp only [Machine.alone, Machine.recast] at handled
                simp only [Option.map_some]
                generalize runHandler _ fired ⟨e', w⟩ = o at handled
                generalize runHandler _ fired _ = o' at handled
                cases handled with
                | cut why m₁ => exact .cut why m₁
                | fault still => exact .fault still
                | @done b m₁ still =>
                    cases b with
                    | true => exact ih left (ran + 1) m₁ still
                    | false => exact ih (left + 1) ran m₁ still

theorem mirrored_fireEach (payload : Value) (ids : List HandlerId) (ran : Nat) :
    Mirrored party limits allowance Nat fun sv => Run.fireEach sv payload ids ran := by
  induction ids generalizing ran with
  | nil => exact fun m h => .done h
  | cons id rest ih =>
      intro m h
      have handled := mirrors_runHandler h allowance ⟨id, payload⟩
      simp only [Run.fireEach]
      generalize runHandler _ _ m = o, runHandler _ _ m.alone = o' at handled
      cases handled with
      | cut why m₁ => exact .cut why m₁
      | fault still => exact .fault still
      | @done b m₁ still =>
          cases b with
          | true => exact ih (ran + 1) m₁ still
          | false => exact ih ran m₁ still

theorem mirrors_dispatch (h : m.Private party limits) (allowance : Nat) :
    Outcome.Mirrors party limits (Run.dispatch allowance m) (Run.dispatch allowance m.alone) := by
  have batch : Mirrored party limits allowance Nat fun sv => do
      let limit ← Run.view fun m => m.engine.limits.maxLoopIterations
      let ran ← Run.dispatchWithin sv allowance limit 0
      Run.change Machine.clearStop
      return ran := by
    refine mirrored_bind (mirrored_plain (.view fun _ _ _ => rfl)) fun limit => ?_
    refine mirrored_bind (mirrored_dispatchWithin allowance limit 0) fun ran => ?_
    exact mirrored_bind mirrored_clearStop fun _ => mirrored_plain (.result ran)
  exact batch m h

theorem mirrors_fire (h : m.Private party limits) (allowance : Nat) (event : String)
    (payload : Value) :
    Outcome.Mirrors party limits (Run.fire allowance event payload m)
      (Run.fire allowance event payload m.alone) := by
  have fired : Mirrored party limits allowance Nat fun sv => do
      let ids ← Run.view fun m => m.engine.handlers.forEvent event
      let ran ← Run.fireEach sv payload ids 0
      Run.change Machine.clearStop
      return ran := by
    refine mirrored_bind ?_ fun ids => ?_
    · intro m h
      have same : m.alone.engine.handlers.forEvent event = m.engine.handlers.forEvent event :=
        Registry.forEvent_unsubscribed _ event
      simp only [Run.view, same]
      exact .done h
    · refine mirrored_bind (mirrored_fireEach payload ids 0) fun ran => ?_
      exact mirrored_bind mirrored_clearStop fun _ => mirrored_plain (.result ran)
  exact fired m h

theorem mirrors_pump (h : m.Private party limits) (allowance ms : Nat) :
    Outcome.Mirrors party limits (Run.pump allowance ms m) (Run.pump allowance ms m.alone) := by
  have pumped : Mirrored party limits allowance Unit fun sv => (do
      let now ← Run.view fun m => m.world.now
      let _ ← sv.suspend (.timer (now + ms))
      Run.change Machine.clearStop) := by
    refine mirrored_bind (mirrored_plain (.view fun _ _ _ => rfl)) fun now => ?_
    refine mirrored_bind ((mirrored_law party limits allowance).suspend ?_) fun _ =>
      mirrored_clearStop
    exact List.cons_ne_nil _ _
  exact pumped m h

theorem Machine.Private.cleanup (h : m.Private party limits) :
    m.cleanup.alone = m.alone.cleanup ∧ m.cleanup.Private party limits := by
  refine ⟨rfl, lasting_orderly.cleanup h.orderly, ?_⟩
  exact ⟨h.silent.functions, h.silent.timeline⟩

/-- The same answer is taken from an outcome with the bus and from one without it. -/
theorem Outcome.Mirrors.answer {o o' : Outcome α} (h : Mirrors party limits o o')
    (f : α → Answer) :
    o'.done?.map (fun p => (f p.1, p.2)) =
        (o.done?.map fun p => (f p.1, p.2)).map (fun p => (p.1, p.2.alone)) ∧
      ∀ answer m, o.done?.map (fun p => (f p.1, p.2)) = some (answer, m) →
        m.Private party limits := by
  cases h with
  | cut why m =>
      refine ⟨rfl, ?_⟩
      intro answer m' ended
      cases ended
  | fault still =>
      refine ⟨rfl, ?_⟩
      intro answer m' ended
      cases ended
  | @done a m still =>
      refine ⟨rfl, ?_⟩
      intro answer m' ended
      cases ended
      exact still

theorem EngineCall.perform_pump (allowance ms : Nat) (m : Machine) :
    (EngineCall.pump ms).perform allowance m =
      (Run.pump allowance ms m).done?.map fun p => (.nothing, p.2) := by
  simp only [EngineCall.perform, Machine.pump, Option.map_map]
  rfl

/-- Every call gives the same answer with the bus and without it. -/
theorem EngineCall.perform_alone (h : m.Private party limits) (allowance : Nat)
    (call : EngineCall) :
    call.perform allowance m.alone =
      (call.perform allowance m).map (fun p => (p.1, p.2.alone)) ∧
      ∀ answer m', call.perform allowance m = some (answer, m') → m'.Private party limits := by
  cases call with
  | execute program => exact (mirrors_execute h allowance program).answer .result
  | dispatch => exact (mirrors_dispatch h allowance).answer .count
  | fire event payload => exact (mirrors_fire h allowance event payload).answer .count
  | cleanup =>
      obtain ⟨same, still⟩ := h.cleanup
      simp only [EngineCall.perform, Option.map_some, same, true_and]
      intro answer m' ended
      cases ended
      exact still
  | pump ms =>
      simp only [EngineCall.perform_pump]
      exact (mirrors_pump h allowance ms).answer fun _ => .nothing
  | run source =>
      simp only [EngineCall.perform, Machine.run_eq]
      cases Source.parse source with
      | ok program => exact (mirrors_execute h allowance program).answer .result
      | error f =>
          refine ⟨rfl, ?_⟩
          intro answer m' ended
          cases ended
          exact h.of_eq rfl rfl rfl rfl List.suffix_rfl rfl

end Operations

/-! ### The two ways to emit agree -/

/-- What a host sees after a call. -/
structure Observation where
  answer : Answer
  state : RunState
  /-- The printed lines and the errors of handlers, where the engine keeps them. -/
  output : Array String
  errors : Array String
  /-- What the capabilities of the host were asked to do, printed lines and errors included. -/
  notes : List (Nat × HostNote)
  /-- What the engine did so far, with its queue and its state at every moment. -/
  journal : Option (List Moment)
  /-- The number of handlers. -/
  handlers : Nat
  /-- The queued events. -/
  queue : List Fired
  scopes : Scopes
  heap : Heap
  now : Nat

/-- What a host sees of a machine after a call. -/
def Machine.observe (m : Machine) (answer : Answer) : Observation where
  answer := answer
  state := m.engine.state
  output := m.engine.output
  errors := m.engine.errors
  notes := m.world.notes
  journal := m.engine.journal
  handlers := m.engine.handlers.size
  queue := m.engine.queue.toList
  scopes := m.engine.scopes
  heap := m.world.heap
  now := m.world.now

/-- What a host sees after each of its calls, up to one that does not end. -/
def Machine.observations (m : Machine) : List (Nat × EngineCall) → List Observation
  | [] => []
  | (allowance, call) :: rest =>
    match call.perform allowance m with
    | none => []
    | some (answer, m') => m'.observe answer :: m'.observations rest

section Observing

variable {party : Party} {limits : Limits} {m : Machine}

theorem Machine.observe_alone (m : Machine) (answer : Answer) :
    m.alone.observe answer = m.observe answer := by
  simp only [Machine.observe, Machine.alone, Machine.recast, Registry.size_unsubscribed]

/-- A host sees the same with the bus and without it. -/
theorem Machine.Private.observations_alone (h : m.Private party limits)
    (calls : List (Nat × EngineCall)) : m.alone.observations calls = m.observations calls := by
  induction calls generalizing m with
  | nil => rfl
  | cons first rest ih =>
      obtain ⟨allowance, call⟩ := first
      obtain ⟨same, still⟩ := EngineCall.perform_alone h allowance call
      simp only [Machine.observations, same]
      cases performed : call.perform allowance m with
      | none => rfl
      | some ended =>
          obtain ⟨answer, m'⟩ := ended
          simp only [Option.map_some, Machine.observe_alone, ih (still answer m' performed)]

theorem Machine.private_new {world : World} (silent : world.Silent) (party : Party)
    (limits : Limits) (recordLimit : Nat) :
    (Machine.new party limits { world with bus := some { recordLimit } }).Private party limits := by
  have numbered : Bus.Numbered ({ recordLimit } : Bus Subscriber) := ⟨nofun, nofun⟩
  refine ⟨⟨rfl, rfl, _, rfl, numbered, ⟨rfl, nofun, Nat.zero_le _⟩, rfl⟩, ?_⟩
  exact ⟨silent.functions, silent.timeline⟩

/-- An engine without a bus and an engine with a new bus that nobody else uses show the same to
their hosts, after every call of any sequence of calls. -/
theorem emission_paths_agree {world : World} (silent : world.Silent) (party : Party)
    (limits : Limits) (recordLimit : Nat) (calls : List (Nat × EngineCall)) :
    (Machine.new party limits { world with bus := none }).observations calls =
      (Machine.new party limits { world with bus := some { recordLimit } }).observations calls := by
  have agrees := (Machine.private_new silent party limits recordLimit).observations_alone calls
  exact agrees

/-- A program whose handler prints the event and registers another handler for it. -/
def growingProgram : Program :=
  [.on {} (.lit {} (.text "x"))
    [.print {} (.lit {} (.text "seen")), .on {} (.lit {} (.text "x")) []],
    .host {} (.emit (.lit {} (.text "x")) none)]

/-- Run the program, dispatch what it emitted, fire the event again, and clean up. -/
def growingCalls : List (Nat × EngineCall) :=
  [(9, .execute growingProgram), (9, .dispatch), (9, .fire "x" .null), (9, .cleanup)]

/-- Without a bus and with one, the handlers run alike: queued events, handlers and printed lines
after every call. -/
theorem growingProgram_paths_agree : World.Silent {} ∧
    (Machine.new 1 {} {}).observations growingCalls =
      (Machine.new 1 {} { bus := some {} }).observations growingCalls ∧
    ((Machine.new 1 {} {}).observations growingCalls).map
        (fun seen => (seen.queue.length, seen.handlers, seen.output)) =
      [(1, 1, #[]), (0, 2, #["seen"]), (0, 3, #["seen", "seen"]),
        (0, 0, #["seen", "seen"])] := by
  have silent : World.Silent {} := by
    refine ⟨?_, ?_⟩
    · intro answer mem
      cases mem
    · intro time event payload mem
      cases mem
  exact ⟨silent, emission_paths_agree silent 1 {} _ growingCalls, by decide +kernel⟩

end Observing

end HostScript
