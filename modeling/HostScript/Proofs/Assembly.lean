import HostScript.Proofs.Agreement
import HostScript.Proofs.Delivery
import Mathlib.Logic.Relation

/-!
# Engines that share a bus

A host has engines by number, and one bus on which they and the host itself listen. The
engines are used in any order, and while one waits inside a call another may go on, so an
assembly proceeds by whole calls and by single strides. Between any two of these each
engine agrees with the bus about its handlers.

## Implementation notes

An engine puts deliveries to others in its outbox, and the assembly hands them out when the
engine gives way. What another engine does concerns an engine only through the bus, so its
agreement with the bus is about its own subscriptions, which are among those that every
other engine leaves alone.
-/

namespace HostScript

/-! ### Assemblies -/

/-- Engines by number, what the host offers to each of them, and what they share. -/
structure Assembly where
  /-- The number of the host on the bus. -/
  host : Party
  engines : Party → Option Engine
  worlds : Party → World
  bus : Bus Subscriber := {}
  heap : Heap := {}
  now : Nat := 0

namespace Assembly

/-- An engine in its world. -/
def machine (a : Assembly) (i : Party) (e : Engine) : Machine :=
  ⟨e, { a.worlds i with bus := some a.bus, heap := a.heap, now := a.now, outbox := [] }⟩

/-- Hand an event to a listener on the bus; those of the host queue nothing. -/
def deliver (a : Assembly) (payload : Value) (s : Subscriber) : Assembly :=
  match a.engines s.party with
  | none => a
  | some e =>
    { a with engines := Function.update a.engines s.party (some (e.enqueue ⟨s.tag, payload⟩)) }

/-- Hand out deliveries, the first one first. -/
def deliverAll (a : Assembly) : List (Subscriber × Value) → Assembly
  | [] => a
  | d :: rest => (a.deliver d.2 d.1).deliverAll rest

/-- Take over what an engine made of itself and of what is shared. -/
def settle (a : Assembly) (i : Party) (m : Machine) : Assembly :=
  { a with
    engines := Function.update a.engines i (some m.engine)
    worlds := Function.update a.worlds i m.world
    bus := m.world.bus.getD a.bus
    heap := m.world.heap
    now := m.world.now }.deliverAll m.world.outbox.reverse

/-- Carry out a call of an engine; nothing if there is no such engine or the allowance was too
small. -/
def perform (a : Assembly) (allowance : Nat) (i : Party) (call : EngineCall) : Option Assembly :=
  (a.engines i).bind fun e =>
    (call.perform allowance (a.machine i e)).map fun p => a.settle i p.2

/-- Drop an engine. -/
def drop (a : Assembly) (i : Party) : Assembly :=
  match a.engines i with
  | none => a
  | some e =>
    { a with
      engines := Function.update a.engines i none
      bus := (a.machine i e).retire.world.bus.getD a.bus }

/-- Emit an event for the host. -/
def emit (a : Assembly) (event : String) (payload : Value) : Assembly :=
  let (listeners, bus) := a.bus.emit event payload
  { a with bus }.deliverAll (listeners.map fun s => (s, payload))

/-- What can happen to an assembly. -/
inductive Step : Assembly → Assembly → Prop
  | call {a a' : Assembly} {allowance : Nat} {i : Party} {call : EngineCall}
      (performed : a.perform allowance i call = some a') : Step a a'
  /-- An engine goes on within a call. -/
  | stride {a : Assembly} {i : Party} {e : Engine} {m : Machine} (present : a.engines i = some e)
      (stride : Stride (a.machine i e) m) : Step a (a.settle i m)
  | drop (a : Assembly) (i : Party) : Step a (a.drop i)
  | hostOn (a : Assembly) (event : String) (tag : Nat) :
      Step a { a with bus := (a.bus.on event ⟨a.host, tag⟩).2 }
  /-- The host ends a subscription of its own. -/
  | hostOff {a : Assembly} {event : String} {id : Nat}
      (own : ∀ s ∈ a.bus.subscriptions, s.event = event → s.id = id → s.listener.party = a.host) :
      Step a { a with bus := a.bus.off event id }
  | hostEmit (a : Assembly) (event : String) (payload : Value) : Step a (a.emit event payload)
  /-- The host changes what else it offers to an engine. -/
  | equip (a : Assembly) (i : Party) (w : World) :
      Step a { a with worlds := Function.update a.worlds i w }

/-- What an assembly can become. -/
def Reaches : Assembly → Assembly → Prop := Relation.ReflTransGen Step

/-- Engines that keep a journal and have done nothing yet, and nobody listens. -/
structure Fresh (limits : Party → Limits) (a : Assembly) : Prop where
  host : a.engines a.host = none
  engines : ∀ i e, a.engines i = some e → e = (Machine.new i (limits i) {}).engine
  bus : a.bus.subscriptions = []

end Assembly

section Host

variable {a a' : Assembly}

@[simp] theorem Assembly.host_deliver (a : Assembly) (payload : Value) (s : Subscriber) :
    (a.deliver payload s).host = a.host := by
  unfold Assembly.deliver
  split
  · rfl
  · rfl

@[simp] theorem Assembly.host_deliverAll (a : Assembly) (ds : List (Subscriber × Value)) :
    (a.deliverAll ds).host = a.host := by
  induction ds generalizing a with
  | nil => rfl
  | cons d rest ih => rw [Assembly.deliverAll, ih, Assembly.host_deliver]

theorem Assembly.exists_of_perform {allowance : Nat} {i : Party} {call : EngineCall}
    (performed : a.perform allowance i call = some a') :
    ∃ e answer m, a.engines i = some e ∧
      call.perform allowance (a.machine i e) = some (answer, m) ∧ a' = a.settle i m := by
  obtain ⟨e, present, performed⟩ := Option.bind_eq_some_iff.mp performed
  obtain ⟨⟨answer, m⟩, called, rfl⟩ := Option.map_eq_some_iff.mp performed
  exact ⟨e, answer, m, present, called, rfl⟩

theorem Assembly.Step.host_eq (step : a.Step a') : a'.host = a.host := by
  cases step with
  | call performed =>
      obtain ⟨e, answer, m, present, called, rfl⟩ := Assembly.exists_of_perform performed
      simp [Assembly.settle]
  | stride => simp [Assembly.settle]
  | drop i =>
      unfold Assembly.drop
      split
      · rfl
      · rfl
  | hostOn | hostOff | equip => rfl
  | hostEmit => simp [Assembly.emit]

theorem Assembly.Reaches.host_eq (reached : a.Reaches a') : a'.host = a.host := by
  induction reached with
  | refl => rfl
  | tail _ step ih => exact step.host_eq.trans ih

end Host

/-! ### Agreement in an assembly -/

/-- Each engine agrees with the bus, and nobody else listens but the host. -/
structure Assembly.InOrder (limits : Party → Limits) (a : Assembly) : Prop where
  host : a.engines a.host = none
  numbered : a.bus.Numbered
  engines : ∀ i e, a.engines i = some e → e.party = i ∧ e.limits = limits i ∧ e.Agrees a.bus
  known : ∀ s ∈ a.bus.subscriptions,
    s.listener.party = a.host ∨ (a.engines s.listener.party).isSome

section InOrder

variable {limits : Party → Limits} {a a' : Assembly} {i j : Party} {e : Engine} {m : Machine}

/-- The subscriptions of a party are among those that are not another party's. -/
theorem Bus.ofParty_eq_filter_apartFrom (b : Bus Subscriber) (other : j ≠ i) :
    b.ofParty j = (b.apartFrom i).filter fun s => s.listener.party == j := by
  rw [Bus.ofParty, Bus.apartFrom, List.filter_filter]
  apply List.filter_congr
  intro s _
  rw [Bool.eq_iff_iff, Bool.and_eq_true, beq_iff_eq, bne_iff_ne]
  constructor
  · intro own
    exact ⟨own, own ▸ other⟩
  · exact And.left

/-- Ending a subscription of somebody else leaves those of a party. -/
theorem Bus.ofParty_off {b : Bus Subscriber} {event : String} {id : Nat}
    (other : ∀ s ∈ b.subscriptions, s.event = event → s.id = id → s.listener.party ≠ i) :
    (b.off event id).ofParty i = b.ofParty i := by
  simp only [Bus.ofParty, Bus.off, List.filter_filter]
  apply List.filter_congr
  intro s hs
  by_cases ended : s.event = event ∧ s.id = id
  · have apart : (s.listener.party == i) = false :=
      beq_eq_false_iff_ne.mpr (other s hs ended.1 ended.2)
    rw [apart, Bool.false_and]
  · have stays : (s.event == event && s.id == id) = false := by
      simpa using ended
    rw [stays, Bool.not_false, Bool.and_true]

theorem Assembly.Fresh.inOrder (fresh : a.Fresh limits) : a.InOrder limits := by
  have silent (s : Subscription Subscriber) : s ∉ a.bus.subscriptions := by
    rw [fresh.bus]
    exact List.not_mem_nil
  refine ⟨fresh.host, ⟨?_, ?_⟩, ?_, ?_⟩
  · exact fun s hs => absurd hs (silent s)
  · exact fun s hs => absurd hs (silent s)
  · intro i e present
    obtain rfl := fresh.engines i e present
    refine ⟨rfl, rfl, ?_, nofun, Nat.zero_le _⟩
    rw [Bus.ofParty, fresh.bus]
    rfl
  · exact fun s hs => absurd hs (silent s)

theorem Assembly.InOrder.ne_host (h : a.InOrder limits) (present : a.engines i = some e) :
    i ≠ a.host := by
  rintro rfl
  rw [h.host] at present
  cases present

theorem Assembly.InOrder.orderly (h : a.InOrder limits) (present : a.engines i = some e) :
    (a.machine i e).Orderly i (limits i) (a.bus.apartFrom i) := by
  obtain ⟨party, limits, agrees⟩ := h.engines i e present
  exact ⟨party, limits, a.bus, rfl, h.numbered, agrees, rfl⟩

/-- What is queued is of no concern to the order. -/
theorem Assembly.InOrder.deliver (h : a.InOrder limits) (payload : Value) (s : Subscriber) :
    (a.deliver payload s).InOrder limits := by
  unfold Assembly.deliver
  split
  · exact h
  · next e present =>
    refine ⟨?_, h.numbered, ?_, ?_⟩
    · simp only [Function.update_of_ne (h.ne_host present).symm, h.host]
    · intro j e' present'
      by_cases same : j = s.party
      · subst same
        simp only [Function.update_self, Option.some.injEq] at present'
        obtain ⟨party, limits, agrees⟩ := h.engines _ e present
        subst present'
        rw [Engine.enqueue, Engine.record_eq]
        exact ⟨party, limits, agrees.of_eq rfl rfl rfl rfl⟩
      · simp only [Function.update_of_ne same] at present'
        exact h.engines j e' present'
    · intro t ht
      refine (h.known t ht).imp_right fun known => ?_
      by_cases same : t.listener.party = s.party
      · simp [same]
      · simp only [Function.update_of_ne same, known]

theorem Assembly.InOrder.deliverAll (h : a.InOrder limits) (ds : List (Subscriber × Value)) :
    (a.deliverAll ds).InOrder limits := by
  induction ds generalizing a with
  | nil => exact h
  | cons d rest ih => exact ih (h.deliver d.2 d.1)

/-- An engine that stays orderly leaves the assembly in order: its own subscriptions are its
handlers, and those of others are as before. -/
theorem Assembly.InOrder.settle (h : a.InOrder limits) (present : a.engines i = some e)
    (orderly : m.Orderly i (limits i) (a.bus.apartFrom i)) : (a.settle i m).InOrder limits := by
  obtain ⟨b, bus, numbered, agrees, rest⟩ := orderly.bus
  apply Assembly.InOrder.deliverAll
  refine ⟨?_, ?_, ?_, ?_⟩
  · simp only [Function.update_of_ne (h.ne_host present).symm, h.host]
  · simpa only [bus, Option.getD_some] using numbered
  · intro j e' present'
    by_cases same : j = i
    · subst same
      simp only [Function.update_self, Option.some.injEq] at present'
      subst present'
      simp only [bus, Option.getD_some]
      exact ⟨orderly.party, orderly.limits, agrees⟩
    · simp only [Function.update_of_ne same] at present'
      obtain ⟨party, limits, agrees'⟩ := h.engines j e' present'
      refine ⟨party, limits, agrees'.of_eq rfl rfl rfl ?_⟩
      simp only [bus, Option.getD_some]
      rw [party, Bus.ofParty_eq_filter_apartFrom _ same, rest,
        ← Bus.ofParty_eq_filter_apartFrom _ same]
  · intro s hs
    simp only [bus, Option.getD_some] at hs
    by_cases same : s.listener.party = i
    · simp [same]
    · have theirs : s ∈ b.apartFrom i := List.mem_filter.mpr ⟨hs, bne_iff_ne.mpr same⟩
      rw [rest] at theirs
      simp only [Function.update_of_ne same]
      exact h.known s (List.mem_filter.mp theirs).1

/-- Dropping an engine leaves the subscriptions of all others. -/
theorem Assembly.InOrder.drop_eq (h : a.InOrder limits) (present : a.engines i = some e) :
    a.drop i =
      { a with
        engines := Function.update a.engines i none
        bus := { a.bus with subscriptions := a.bus.apartFrom i } } := by
  obtain ⟨party, -, agrees⟩ := h.engines i e present
  have retired := Machine.unsubscribeAll_eq (rfl : (a.machine i e).world.bus = some a.bus)
    h.numbered agrees
  rw [party] at retired
  simp only [Assembly.drop, present, Machine.retire]
  rw [show (a.machine i e).unsubscribeAll = _ from retired]
  rfl

theorem Assembly.InOrder.drop (h : a.InOrder limits) (i : Party) :
    (a.drop i).InOrder limits := by
  cases present : a.engines i with
  | none => simpa only [Assembly.drop, present] using h
  | some e =>
      rw [h.drop_eq present]
      refine ⟨?_, h.numbered.filter _, ?_, ?_⟩
      · simp only [Function.update_of_ne (h.ne_host present).symm, h.host]
      · intro j e' present'
        by_cases same : j = i
        · subst same
          simp at present'
        · simp only [Function.update_of_ne same] at present'
          obtain ⟨party, limits, agrees⟩ := h.engines j e' present'
          refine ⟨party, limits, agrees.of_eq rfl rfl rfl ?_⟩
          rw [party, Bus.ofParty_eq_filter_apartFrom a.bus same]
          rfl
      · intro s hs
        obtain ⟨hs, other⟩ := List.mem_filter.mp hs
        simp only [Function.update_of_ne (bne_iff_ne.mp other)]
        exact h.known s hs

/-- What the host does with its own listeners concerns no engine. -/
theorem Assembly.InOrder.rebus (h : a.InOrder limits) {b : Bus Subscriber} (numbered : b.Numbered)
    (same : ∀ i ≠ a.host, b.ofParty i = a.bus.ofParty i) : { a with bus := b }.InOrder limits := by
  refine ⟨h.host, numbered, ?_, ?_⟩
  · intro i e present
    obtain ⟨party, limits, agrees⟩ := h.engines i e present
    refine ⟨party, limits, agrees.of_eq rfl rfl rfl ?_⟩
    rw [party]
    exact same i (h.ne_host present)
  · intro s hs
    by_cases own : s.listener.party = a.host
    · exact .inl own
    · have mem : s ∈ b.ofParty s.listener.party := List.mem_filter.mpr ⟨hs, beq_self_eq_true _⟩
      rw [same _ own] at mem
      exact h.known s (List.mem_filter.mp mem).1

/-- Whatever happens, an assembly stays in order. -/
theorem Assembly.Step.inOrder (step : a.Step a') (h : a.InOrder limits) : a'.InOrder limits := by
  cases step with
  | call performed =>
      obtain ⟨e, answer, m, present, called, rfl⟩ := Assembly.exists_of_perform performed
      exact h.settle present (lasting_orderly.perform called (h.orderly present))
  | stride present stride =>
      exact h.settle present (lasting_orderly.stride stride (h.orderly present))
  | drop i => exact h.drop i
  | hostOn event tag =>
      refine h.rebus (h.numbered.on _ _) fun i other => ?_
      rw [Bus.ofParty_on, if_neg (Ne.symm other), List.append_nil]
  | hostOff own =>
      refine h.rebus (h.numbered.filter _) fun i other => ?_
      exact Bus.ofParty_off fun s hs event id => (own s hs event id) ▸ Ne.symm other
  | hostEmit event payload =>
      have recorded : { a with bus := (a.bus.emit event payload).2 }.InOrder limits :=
        h.rebus (h.numbered.of_eq rfl rfl) fun _ _ => rfl
      exact recorded.deliverAll _
  | equip i w => exact ⟨h.host, h.numbered, h.engines, h.known⟩

theorem Assembly.Reaches.inOrder (reached : a.Reaches a') (h : a.InOrder limits) :
    a'.InOrder limits := by
  induction reached with
  | refl => exact h
  | tail _ step ih => exact step.inOrder ih

end InOrder

end HostScript
