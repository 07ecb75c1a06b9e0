import HostScript.Proofs.Calls

/-!
# The handlers of an engine and its subscriptions

An engine keeps its handlers in a registry, and a bus keeps the subscriptions of all
parties. Both number what they keep by themselves. They agree on an engine if its handlers
are, one by one and in order, its subscriptions. Registering a handler adds to both at the
end, and cleaning up takes exactly the engine's own subscriptions from the bus.

## Implementation notes

Of all that an engine does, only registering changes the roll: its number, its limits, its
handlers and who listens on the bus. `Stride.sameRoll_or_register` says so once, and laws
about the roll look at registering and cleaning up only.
-/

namespace HostScript

/-! ### Subscriptions by party -/

namespace Bus

variable {α : Type}

/-- Subscriptions have different numbers, all of them given out already. -/
structure Numbered (b : Bus α) : Prop where
  below : ∀ s ∈ b.subscriptions, s.id < b.nextId
  distinct : ∀ s ∈ b.subscriptions, ∀ t ∈ b.subscriptions, s.id = t.id → s = t

theorem Numbered.on {b : Bus α} (h : b.Numbered) (event : String) (listener : α) :
    (b.on event listener).2.Numbered := by
  constructor
  · intro s hs
    simp only [Bus.on, List.mem_append, List.mem_singleton] at hs ⊢
    rcases hs with old | rfl
    · exact Nat.lt_succ_of_lt (h.below s old)
    · exact Nat.lt_succ_self _
  · intro s hs t ht same
    simp only [Bus.on, List.mem_append, List.mem_singleton] at hs ht
    rcases hs with hs | rfl
    · rcases ht with ht | rfl
      · exact h.distinct s hs t ht same
      · exact absurd same (Nat.ne_of_lt (h.below s hs))
    · rcases ht with ht | rfl
      · exact absurd same.symm (Nat.ne_of_lt (h.below t ht))
      · rfl

theorem Numbered.filter {b : Bus α} (h : b.Numbered) (p : Subscription α → Bool) :
    Numbered { b with subscriptions := b.subscriptions.filter p } where
  below := fun s hs => h.below s (List.mem_filter.mp hs).1
  distinct := fun s hs t ht =>
    h.distinct s (List.mem_filter.mp hs).1 t (List.mem_filter.mp ht).1

theorem Numbered.of_eq {b b' : Bus α} (h : b.Numbered)
    (subscriptions : b'.subscriptions = b.subscriptions) (nextId : b'.nextId = b.nextId) :
    b'.Numbered := by
  constructor
  · rw [subscriptions, nextId]
    exact h.below
  · rw [subscriptions]
    exact h.distinct

/-- The subscriptions of a party, in their order. -/
def ofParty (b : Bus Subscriber) (party : Party) : List (Subscription Subscriber) :=
  b.subscriptions.filter fun s => s.listener.party == party

/-- The subscriptions of all other parties, in their order. -/
def apartFrom (b : Bus Subscriber) (party : Party) : List (Subscription Subscriber) :=
  b.subscriptions.filter fun s => s.listener.party != party

theorem ofParty_on (b : Bus Subscriber) (event : String) (s : Subscriber) (party : Party) :
    (b.on event s).2.ofParty party =
      b.ofParty party ++ if s.party = party then [⟨event, b.nextId, s⟩] else [] := by
  simp only [on, ofParty, List.filter_append, List.filter_cons, List.filter_nil, beq_iff_eq]

theorem apartFrom_on (b : Bus Subscriber) (event : String) (s : Subscriber) (party : Party) :
    (b.on event s).2.apartFrom party =
      b.apartFrom party ++ if s.party = party then [] else [⟨event, b.nextId, s⟩] := by
  by_cases own : s.party = party
  · simp [on, apartFrom, List.filter_append, own]
  · simp [on, apartFrom, List.filter_append, own]

end Bus

/-! ### Agreement -/

/-- What a handler says about its subscription: the event, the number, and who listens. -/
def Handler.link (party : Party) (h : Handler) : String × Option Nat × Subscriber :=
  (h.event, h.listener, ⟨party, h.id⟩)

/-- What a bus says about a subscription. -/
def Subscription.link (s : Subscription Subscriber) : String × Option Nat × Subscriber :=
  (s.event, some s.id, s.listener)

/-- The handlers of an engine are its subscriptions, in the same order, and not more than its
limits allow. -/
structure Engine.Agrees (e : Engine) (b : Bus Subscriber) : Prop where
  links : e.handlers.handlers.map (Handler.link e.party) =
    (b.ofParty e.party).map Subscription.link
  numbered : ∀ h ∈ e.handlers.handlers, h.id < e.handlers.nextId
  room : e.handlers.size ≤ e.limits.maxEventHandlers

section Agreement

variable {e e' : Engine} {b b' : Bus Subscriber}

theorem Engine.Agrees.of_eq (h : e.Agrees b) (party : e'.party = e.party)
    (limits : e'.limits = e.limits) (handlers : e'.handlers = e.handlers)
    (own : b'.ofParty e.party = b.ofParty e.party) : e'.Agrees b' := by
  refine ⟨?_, ?_, ?_⟩
  · rw [handlers, party, own]
    exact h.links
  · rw [handlers]
    exact h.numbered
  · rw [handlers, limits]
    exact h.room

/-- The handlers of one event are the subscriptions to it. -/
theorem Engine.Agrees.links_event (h : e.Agrees b) (event : String) :
    (e.handlers.handlers.filter fun k => k.event == event).map (Handler.link e.party) =
      ((b.listening event).filter fun s => s.listener.party == e.party).map
        Subscription.link := by
  have filtered := congrArg (List.filter fun l => l.1 == event) h.links
  rw [List.filter_map, List.filter_map, Bus.ofParty, List.filter_filter] at filtered
  rw [Bus.listening, List.filter_filter]
  refine filtered.trans ?_
  congr 1
  apply List.filter_congr
  intro s _
  exact Bool.and_comm _ _

/-- Emissions reach exactly the handlers that the engine has for the event. -/
theorem Engine.Agrees.forEvent (h : e.Agrees b) (event : String) :
    (e.handlers.forEvent event).map (Subscriber.mk e.party) =
      ((b.listening event).map Subscription.listener).filter
        fun s => s.party == e.party := by
  have listeners := congrArg (List.map fun l => l.2.2) (h.links_event event)
  simpa [Registry.forEvent, List.filter_map, Function.comp_def, Handler.link,
    Subscription.link] using listeners

/-- A subscription belongs to an engine exactly if a handler has noted it. -/
theorem Engine.Agrees.noted_iff (h : e.Agrees b) (numbered : b.Numbered)
    {s : Subscription Subscriber} (mem : s ∈ b.subscriptions) :
    (∃ k ∈ e.handlers.handlers, k.event = s.event ∧ k.listener = some s.id) ↔
      s.listener.party = e.party := by
  constructor
  · rintro ⟨k, hk, event, listener⟩
    have linked : k.link e.party ∈ (b.ofParty e.party).map Subscription.link := by
      rw [← h.links]
      exact List.mem_map_of_mem hk
    obtain ⟨t, ht, link⟩ := List.mem_map.mp linked
    obtain ⟨ht, own⟩ := List.mem_filter.mp ht
    simp only [Subscription.link, Handler.link, listener, Prod.mk.injEq,
      Option.some.injEq] at link
    have same : t = s := numbered.distinct t ht s mem link.2.1
    exact same ▸ beq_iff_eq.mp own
  · intro own
    have mine : s ∈ b.ofParty e.party := List.mem_filter.mpr ⟨mem, beq_iff_eq.mpr own⟩
    have linked : s.link ∈ e.handlers.handlers.map (Handler.link e.party) := by
      rw [h.links]
      exact List.mem_map_of_mem mine
    obtain ⟨k, hk, link⟩ := List.mem_map.mp linked
    simp only [Subscription.link, Handler.link, Prod.mk.injEq] at link
    exact ⟨k, hk, link.1, link.2.1⟩

end Agreement

/-! ### Registering and unsubscribing -/

section Registering

variable {e : Engine} {w : World} {b : Bus Subscriber}

/-- A new handler with its subscription comes last; the others keep theirs. -/
theorem Registry.setListener_register {r : Registry}
    (numbered : ∀ h ∈ r.handlers, h.id < r.nextId) (event : String) (body : List Stmt)
    (closure : ScopeId) (listener : Nat) :
    (r.register event body closure).2.setListener r.nextId listener =
      { handlers := r.handlers ++ [⟨r.nextId, event, body, closure, some listener⟩]
        nextId := r.nextId + 1 } := by
  simp only [Registry.register, Registry.setListener, List.map_append, List.map_cons,
    List.map_nil, if_true]
  congr 2
  calc r.handlers.map _ = r.handlers.map id := by
        apply List.map_congr_left
        intro h hh
        rw [if_neg (Nat.ne_of_lt (numbered h hh))]
        rfl
    _ = r.handlers := List.map_id _

theorem Machine.register_eq (bus : w.bus = some b)
    (numbered : ∀ h ∈ e.handlers.handlers, h.id < e.handlers.nextId) (event : String)
    (body : List Stmt) :
    Machine.register ⟨e, w⟩ event body =
      ⟨{ e with handlers :=
          { handlers := e.handlers.handlers ++
              [⟨e.handlers.nextId, event, body, e.scope, some b.nextId⟩]
            nextId := e.handlers.nextId + 1 } },
        { w with bus := some (b.on event ⟨e.party, e.handlers.nextId⟩).2 }⟩ := by
  rw [← Registry.setListener_register numbered]
  simp only [Machine.register, bus]
  rfl

theorem Engine.Agrees.register (h : e.Agrees b)
    (room : e.limits.allowsHandler e.handlers.size = true) (event : String) (body : List Stmt)
    (scope : ScopeId) :
    Engine.Agrees
      { e with handlers :=
          { handlers := e.handlers.handlers ++
              [⟨e.handlers.nextId, event, body, scope, some b.nextId⟩]
            nextId := e.handlers.nextId + 1 } }
      (b.on event ⟨e.party, e.handlers.nextId⟩).2 := by
  refine ⟨?_, ?_, ?_⟩
  · rw [Bus.ofParty_on, if_pos rfl, List.map_append, List.map_append, h.links]
    rfl
  · intro k hk
    rcases List.mem_append.mp hk with old | new
    · exact Nat.lt_succ_of_lt (h.numbered k old)
    · rw [List.mem_singleton.mp new]
      exact Nat.lt_succ_self _
  · have free : e.handlers.size < e.limits.maxEventHandlers := of_decide_eq_true room
    simp only [Registry.size, List.length_append, List.length_singleton] at free ⊢
    exact free

/-- Unsubscribing handlers takes from the bus what they have noted, and nothing else. -/
theorem Machine.unsubscribe_eq (b : Bus Subscriber) (handlers : List Handler) :
    Machine.unsubscribe b handlers =
      { b with subscriptions := b.subscriptions.filter fun s =>
          !handlers.any fun h => h.event == s.event && h.listener == some s.id } := by
  induction handlers generalizing b with
  | nil =>
      have all : b.subscriptions.filter (fun _ => true) = b.subscriptions :=
        List.filter_eq_self.mpr fun _ _ => rfl
      simp only [Machine.unsubscribe, List.any_nil, Bool.not_false, all]
  | cons h rest ih =>
      rw [Machine.unsubscribe, ih]
      cases hl : h.listener with
      | none => simp [hl]
      | some id =>
          simp only [Bus.off, List.filter_filter]
          congr 2
          funext s
          simp only [List.any_cons, hl, Bool.not_or, Option.some_beq_some, Bool.and_comm,
            Bool.beq_comm]

/-- Unsubscribing all handlers of an engine leaves the subscriptions of all other parties. -/
theorem Engine.Agrees.unsubscribe_eq (h : e.Agrees b) (numbered : b.Numbered) :
    Machine.unsubscribe b e.handlers.handlers =
      { b with subscriptions := b.apartFrom e.party } := by
  rw [Machine.unsubscribe_eq, Bus.apartFrom]
  congr 1
  apply List.filter_congr
  intro s mem
  rw [Bool.eq_iff_iff, bne_iff_ne, ← not_iff_not]
  simpa using h.noted_iff numbered mem

end Registering

/-! ### The roll -/

/-- Who an engine is, what it may use, its handlers, and who listens on its bus stay. -/
structure Machine.SameRoll (m m' : Machine) : Prop where
  party : m'.engine.party = m.engine.party
  limits : m'.engine.limits = m.engine.limits
  handlers : m'.engine.handlers = m.engine.handlers
  listeners : m'.world.bus.map Bus.subscriptions = m.world.bus.map Bus.subscriptions
  nextIds : m'.world.bus.map Bus.nextId = m.world.bus.map Bus.nextId

section Roll

variable {m m' : Machine}

theorem Machine.sameRoll_record (m : Machine) (s : Step) : m.SameRoll (m.record s) := by
  obtain ⟨e, w⟩ := m
  simp only [Machine.record, Engine.record_eq]
  exact ⟨rfl, rfl, rfl, rfl, rfl⟩

theorem Move.sameRoll_or_register {names : Set String} (step : Move names m m') :
    m.SameRoll m' ∨ ∃ event body,
      m.engine.limits.allowsHandler m.engine.handlers.size = true ∧
        m' = m.register event body := by
  cases step with
  | register event body room => exact .inr ⟨event, body, room, rfl⟩
  | host alike => exact .inl ⟨rfl, rfl, rfl, alike.listeners, alike.nextIds⟩
  | checked | statement | bar | round | refuseCall => exact .inl (m.sameRoll_record _)
  | enqueue | stop =>
      simp only [Engine.enqueue, Machine.requestStop, Engine.requestStop, Engine.record_eq]
      exact .inl ⟨rfl, rfl, rfl, rfl, rfl⟩
  | refuse taken refused =>
      obtain ⟨queue, journal, rfl⟩ := Engine.eq_of_dequeue? taken
      exact .inl ⟨rfl, rfl, rfl, rfl, rfl⟩
  | _ => exact .inl ⟨rfl, rfl, rfl, rfl, rfl⟩

theorem Frame.sameRoll_open {limit : Nat} {names : Set String} {inside : Machine}
    {close : Machine → Machine} (opened : Frame limit names m inside close) :
    m.SameRoll inside := by
  cases opened with
  | child => exact ⟨rfl, rfl, rfl, rfl, rfl⟩
  | call args found room =>
      simp only [Machine.pushCall, Machine.enterChild, Engine.record_eq]
      exact ⟨rfl, rfl, rfl, rfl, rfl⟩
  | suspension => exact m.sameRoll_record _
  | handler room taken found running =>
      obtain ⟨queue, journal, rfl⟩ := Engine.eq_of_dequeue? taken
      simp only [Machine.enterHandler, Machine.enterChild, Engine.record_eq]
      exact ⟨rfl, rfl, rfl, rfl, rfl⟩

theorem Frame.sameRoll_close {limit : Nat} {names : Set String} {inside : Machine}
    {close : Machine → Machine} (opened : Frame limit names m inside close) (m' : Machine) :
    m'.SameRoll (close m') := by
  cases opened with
  | child => exact ⟨rfl, rfl, rfl, rfl, rfl⟩
  | call =>
      simp only [Machine.popCall, Machine.withScope, Engine.record_eq]
      exact ⟨rfl, rfl, rfl, rfl, rfl⟩
  | suspension =>
      simp only [Machine.resume, Engine.record_eq]
      exact ⟨rfl, rfl, rfl, rfl, rfl⟩
  | handler =>
      simp only [Machine.leaveHandler, Engine.record_eq]
      exact ⟨rfl, rfl, rfl, rfl, rfl⟩

/-- A stride keeps the roll, unless it registers a handler for which there is room. -/
theorem Stride.sameRoll_or_register (stride : Stride m m') :
    m.SameRoll m' ∨ ∃ event body,
      m.engine.limits.allowsHandler m.engine.handlers.size = true ∧
        m' = m.register event body := by
  cases stride with
  | move step => exact step.sameRoll_or_register
  | opens opened => exact .inl opened.sameRoll_open
  | closes opened => exact .inl (opened.sameRoll_close m)
  | begins =>
      simp only [Machine.beginRun, Engine.record_eq]
      exact .inl ⟨rfl, rfl, rfl, rfl, rfl⟩
  | ends =>
      simp only [Machine.endRun, Engine.record_eq]
      exact .inl ⟨rfl, rfl, rfl, rfl, rfl⟩
  | clears => exact .inl ⟨rfl, rfl, rfl, rfl, rfl⟩
  | settles => exact .inl ⟨rfl, rfl, rfl, rfl, rfl⟩
  | enters =>
      simp only [Machine.enterHandler, Machine.enterChild, Engine.record_eq]
      exact .inl ⟨rfl, rfl, rfl, rfl, rfl⟩
  | leaves =>
      simp only [Machine.leaveHandler, Engine.record_eq]
      exact .inl ⟨rfl, rfl, rfl, rfl, rfl⟩

end Roll

/-! ### Orderly engines -/

/-- An engine of a party whose handlers agree with its subscriptions, on a bus on which the
other parties have the subscriptions `others`. -/
structure Machine.Orderly (number : Party) (limits : Limits)
    (others : List (Subscription Subscriber)) (m : Machine) : Prop where
  party : m.engine.party = number
  limits : m.engine.limits = limits
  bus : ∃ b, m.world.bus = some b ∧ b.Numbered ∧ m.engine.Agrees b ∧ b.apartFrom number = others

section Orderly

variable {party : Party} {limits : Limits} {others : List (Subscription Subscriber)}
  {m m' : Machine}

theorem Machine.Orderly.sameRoll (h : m.Orderly party limits others) (same : m.SameRoll m') :
    m'.Orderly party limits others := by
  obtain ⟨b, bus, numbered, agrees, rest⟩ := h.bus
  have listeners := same.listeners
  have nextIds := same.nextIds
  rw [bus, Option.map_some, Option.map_eq_some_iff] at listeners nextIds
  obtain ⟨b', bus', subscriptions⟩ := listeners
  obtain ⟨b'', bus'', nextId⟩ := nextIds
  cases bus'.symm.trans bus''
  refine ⟨same.party.trans h.party, same.limits.trans h.limits, b', bus', ?_, ?_, ?_⟩
  · exact numbered.of_eq subscriptions nextId
  · refine agrees.of_eq same.party same.limits same.handlers ?_
    rw [Bus.ofParty, subscriptions, Bus.ofParty]
  · rw [Bus.apartFrom, subscriptions]
    exact rest

theorem Machine.Orderly.register (h : m.Orderly party limits others)
    (room : m.engine.limits.allowsHandler m.engine.handlers.size = true) (event : String)
    (body : List Stmt) : (m.register event body).Orderly party limits others := by
  obtain ⟨e, w⟩ := m
  obtain ⟨b, bus, numbered, agrees, rest⟩ := h.bus
  have own : e.party = party := h.party
  rw [Machine.register_eq bus agrees.numbered]
  refine ⟨own, h.limits, _, rfl, numbered.on _ _, agrees.register room event body e.scope, ?_⟩
  rw [Bus.apartFrom_on, if_pos own, List.append_nil]
  exact rest

/-- After a cleanup the subscriptions of the other parties are left, and no handler. -/
theorem Machine.unsubscribeAll_eq {e : Engine} {w : World} {b : Bus Subscriber}
    (bus : w.bus = some b) (numbered : b.Numbered) (agrees : e.Agrees b) :
    Machine.unsubscribeAll ⟨e, w⟩ =
      ⟨{ e with handlers := { e.handlers with handlers := [] } },
        { w with bus := some { b with subscriptions := b.apartFrom e.party } }⟩ := by
  simp only [Machine.unsubscribeAll, Registry.drain, bus, Option.map_some,
    agrees.unsubscribe_eq numbered]

theorem Machine.Orderly.unsubscribeAll (h : m.Orderly party limits others) :
    m.unsubscribeAll.Orderly party limits others := by
  obtain ⟨e, w⟩ := m
  obtain ⟨b, bus, numbered, agrees, rest⟩ := h.bus
  have own : e.party = party := h.party
  rw [Machine.unsubscribeAll_eq bus numbered agrees]
  refine ⟨own, h.limits, _, rfl, numbered.filter _, ⟨?_, ?_, ?_⟩, ?_⟩
  · simp [Bus.ofParty, Bus.apartFrom, List.filter_filter]
  · intro k hk
    cases hk
  · exact Nat.zero_le _
  · rw [← rest, own]
    simp [Bus.apartFrom, List.filter_filter]

/-- Whatever an engine does, it stays orderly, and the subscriptions of others stay. -/
theorem lasting_orderly : Lasting (Machine.Orderly party limits others) where
  stride := by
    intro m m' stride h
    rcases stride.sameRoll_or_register with same | ⟨event, body, room, rfl⟩
    · exact h.sameRoll same
    · exact h.register room event body
  cleanup := fun h => h.unsubscribeAll.sameRoll ⟨rfl, rfl, rfl, rfl, rfl⟩

end Orderly

end HostScript
