import HostScript.Proofs.Assembly
import HostScript.Proofs.Starvation

/-!
# Cleaning up is exact

An engine that is cleaned up or dropped takes its own subscriptions with it and leaves
those of others, in their order. Nothing is ever queued for its handlers again, although
the engine may go on with new ones and the others may emit what they like.

## Implementation notes

Numbers of handlers are never used again. So the handlers that are gone are those below
some number, and it is enough that of a party nobody below that number listens, has an
event on its way, or gets one queued.
-/

namespace HostScript

/-! ### Events that join -/

/-- The journal goes on, and events join the queue only for handlers with the property. -/
def Engine.Joins (P : HandlerId → Prop) (e e' : Engine) : Prop :=
  ∃ moments, e'.journal = e.journal.map (moments ++ ·) ∧
    ∀ fired ∈ joinedIn moments, P fired.handler

section Joining

variable {P : HandlerId → Prop} {e e' : Engine} {m m' : Machine}

theorem Engine.joins_of_eq (journal : e'.journal = e.journal) : e.Joins P e' := by
  refine ⟨[], ?_, nofun⟩
  rw [journal]
  cases e.journal <;> rfl

/-- One moment is written. -/
theorem Engine.joins_of_moment {x : Moment} (journal : e'.journal = e.journal.map (x :: ·))
    (joining : ∀ fired ∈ x.step.joining, P fired.handler) : e.Joins P e' := by
  refine ⟨[x], journal, ?_⟩
  simpa only [joinedIn, eventsOf_cons, eventsOf_nil, List.nil_append] using joining

theorem Engine.Joins.mono {Q : HandlerId → Prop} (h : e.Joins P e') (le : ∀ id, P id → Q id) :
    e.Joins Q e' := by
  obtain ⟨moments, journal, joined⟩ := h
  exact ⟨moments, journal, fun fired mem => le _ (joined fired mem)⟩

theorem Engine.Joins.trans {e₁ : Engine} (first : e.Joins P e₁) (then_ : e₁.Joins P e') :
    e.Joins P e' := by
  obtain ⟨earlier, journal₁, joined₁⟩ := first
  obtain ⟨later, journal, joined⟩ := then_
  refine ⟨later ++ earlier, ?_, ?_⟩
  · rw [journal, journal₁, Option.map_map]
    congr 1
    funext past
    exact (List.append_assoc later earlier past).symm
  · intro fired mem
    simp only [joinedIn, eventsOf, List.reverse_append, List.flatMap_append,
      List.mem_append] at mem
    exact mem.elim (joined₁ fired) (joined fired)

theorem Engine.joins_record (journal : e'.journal = e.journal) {s : Step}
    (joining : ∀ fired ∈ s.joining, P fired.handler) : e.Joins P (e'.record s) := by
  refine Engine.joins_of_moment (x := ⟨s, e'.registers⟩) ?_ joining
  rw [Engine.record_eq, ← journal]

theorem Engine.joins_enqueue (e : Engine) (fired : Fired) :
    e.Joins (· = fired.handler) (e.enqueue fired) := by
  obtain ⟨registers, logs⟩ := e.logs_enqueue fired
  refine Engine.joins_of_moment logs.journal ?_
  intro fired' mem
  rw [List.mem_singleton.mp mem]

theorem Engine.joins_dequeue? {taker : Taker} {fired : Fired}
    (taken : e.dequeue? taker = some (fired, e')) : e.Joins P e' := by
  obtain ⟨registers, logs⟩ := Engine.logs_dequeue? taken
  exact Engine.joins_of_moment logs.journal nofun

theorem Machine.joins_enterHandler (m : Machine) (h : Handler) (payload : Value) :
    m.engine.Joins P (m.enterHandler h payload).engine :=
  Engine.joins_record rfl nofun

theorem Machine.joins_leaveHandler (m : Machine) (scope : ScopeId) (callStack : List String)
    (clock : RunClock) : m.engine.Joins P (m.leaveHandler scope callStack clock).engine :=
  Engine.joins_record rfl nofun

/-- Events join for handlers that emissions reach. -/
theorem Stride.joins (stride : Stride m m') : m.engine.Joins m.Reaches m'.engine := by
  cases stride with
  | move step =>
      cases step with
      | enqueue fired reached =>
          refine (Engine.joins_enqueue _ fired).mono ?_
          rintro _ rfl
          exact reached
      | register event body room => exact Engine.joins_of_eq (m.quiet_register event body).journal
      | refuse taken refused => exact Engine.joins_dequeue? taken
      | checked | statement | bar | round | refuseCall | stop => exact Engine.joins_record rfl nofun
      | _ => exact Engine.joins_of_eq rfl
  | opens opened =>
      cases opened with
      | child => exact Engine.joins_of_eq rfl
      | @call _ _ _ f args found room =>
          have called : m.engine.Joins m.Reaches (m.pushCall f.name).engine :=
            Engine.joins_record rfl nofun
          exact called.trans (Engine.joins_of_eq rfl)
      | suspension => exact Engine.joins_record rfl nofun
      | handler room taken found running =>
          exact (Engine.joins_dequeue? taken).trans (Machine.joins_enterHandler ⟨_, _⟩ _ _)
  | closes opened =>
      cases opened with
      | child => exact Engine.joins_of_eq rfl
      | call | suspension => exact Engine.joins_record rfl nofun
      | handler => exact m.joins_leaveHandler _ _ _
  | begins | ends => exact Engine.joins_record rfl nofun
  | clears | settles => exact Engine.joins_of_eq rfl
  | enters => exact m.joins_enterHandler _ _
  | leaves => exact m.joins_leaveHandler _ _ _

/-- Deliveries to others go to those who listen. -/
theorem Stride.outbox (stride : Stride m m') : ∀ d ∈ m'.world.outbox, d ∈ m.world.outbox ∨
    ∃ bus ∈ m.world.bus, ∃ s ∈ bus.subscriptions, s.listener = d.1 := by
  have same {m m' : Machine} (h : m'.world.outbox = m.world.outbox) :
      ∀ d ∈ m'.world.outbox, d ∈ m.world.outbox ∨
        ∃ bus ∈ m.world.bus, ∃ s ∈ bus.subscriptions, s.listener = d.1 :=
    fun d hd => .inl (h ▸ hd)
  cases stride with
  | move step =>
      cases step with
      | host alike => exact alike.delivered
      | register event body room =>
          apply same
          simp only [Machine.register]
          split
          · rfl
          · rfl
      | _ => exact same rfl
  | opens opened => cases opened with
      | _ => exact same rfl
  | closes opened => cases opened with
      | _ => exact same rfl
  | _ => exact same rfl

end Joining

/-! ### Handlers that are gone -/

/-- Since the journal of an engine was `past`, events joined its queue only for handlers from
the number `n` on, and new handlers have such numbers too. -/
structure Engine.Renounces (n : HandlerId) (past : List Moment) (e : Engine) : Prop where
  next : n ≤ e.handlers.nextId
  joined : ∃ during, e.journal = some (during ++ past) ∧
    ∀ fired ∈ joinedIn during, n ≤ fired.handler

/-- Of a party only handlers from the number `n` on listen or have events on their way. -/
structure Machine.Renounces (i : Party) (n : HandlerId) (past : List Moment) (m : Machine) :
    Prop where
  listeners : ∃ b, m.world.bus = some b ∧
    ∀ s ∈ b.subscriptions, s.listener.party = i → n ≤ s.listener.tag
  outbox : ∀ d ∈ m.world.outbox, d.1.party = i → n ≤ d.1.tag
  engine : m.engine.party = i → m.engine.Renounces n past

/-- Of a party only handlers from the number `n` on listen. -/
structure Assembly.Renounces (i : Party) (n : HandlerId) (past : List Moment) (a : Assembly) :
    Prop where
  listeners : ∀ s ∈ a.bus.subscriptions, s.listener.party = i → n ≤ s.listener.tag
  engine : ∀ e, a.engines i = some e → e.Renounces n past

section Renouncing

variable {i j : Party} {n : HandlerId} {past : List Moment} {e e' : Engine} {m m' : Machine}
  {a a' : Assembly} {limits : Party → Limits}

theorem Engine.Renounces.joins (h : e.Renounces n past) (joins : e.Joins (n ≤ ·) e')
    (nextId : e.handlers.nextId ≤ e'.handlers.nextId) : e'.Renounces n past := by
  obtain ⟨during, journal, joined⟩ := h.joined
  obtain ⟨moments, journal', joined'⟩ := joins
  refine ⟨h.next.trans nextId, moments ++ during, ?_, ?_⟩
  · rw [journal', journal, Option.map_some, List.append_assoc]
  · intro fired mem
    simp only [joinedIn, eventsOf, List.reverse_append, List.flatMap_append,
      List.mem_append] at mem
    rcases mem with mem | mem
    · exact joined fired mem
    · exact joined' fired mem

theorem Machine.Renounces.reaches (h : m.Renounces i n past) (own : m.engine.party = i)
    {id : HandlerId} (reached : m.Reaches id) : n ≤ id := by
  obtain ⟨b, bus, listeners⟩ := h.listeners
  simp only [Machine.Reaches, bus] at reached
  obtain ⟨s, hs, listener⟩ := reached
  have late := listeners s hs (by rw [listener]; exact own)
  rwa [listener] at late

theorem Stride.renounces (stride : Stride m m') (h : m.Renounces i n past) :
    m'.Renounces i n past := by
  obtain ⟨b, bus, listeners⟩ := h.listeners
  have outbox : ∀ d ∈ m'.world.outbox, d.1.party = i → n ≤ d.1.tag := by
    intro d hd own
    rcases stride.outbox d hd with old | ⟨b', hb', s, hs, listener⟩
    · exact h.outbox d old own
    · rw [bus] at hb'
      cases hb'
      rw [← listener] at own ⊢
      exact listeners s hs own
  have joins (own : m.engine.party = i) : m.engine.Joins (n ≤ ·) m'.engine :=
    stride.joins.mono fun id reached => h.reaches own reached
  rcases stride.sameRoll_or_register with same | ⟨event, body, room, rfl⟩
  · refine ⟨?_, outbox, ?_⟩
    · have subscriptions := same.listeners
      rw [bus, Option.map_some, Option.map_eq_some_iff] at subscriptions
      obtain ⟨b', bus', subscriptions⟩ := subscriptions
      exact ⟨b', bus', subscriptions ▸ listeners⟩
    · intro own
      rw [same.party] at own
      exact (h.engine own).joins (joins own) (by rw [same.handlers])
  · obtain ⟨e, w⟩ := m
    have registered : Machine.register ⟨e, w⟩ event body =
        ⟨{ e with handlers :=
              (e.handlers.register event body e.scope).2.setListener e.handlers.nextId b.nextId },
          { w with bus := some (b.on event ⟨e.party, e.handlers.nextId⟩).2 }⟩ := by
      simp only [Machine.register, show w.bus = some b from bus]
      rfl
    rw [registered] at joins outbox ⊢
    refine ⟨⟨_, rfl, ?_⟩, outbox, ?_⟩
    · intro s hs own
      simp only [Bus.on, List.mem_append, List.mem_singleton] at hs
      rcases hs with old | rfl
      · exact listeners s old own
      · exact (h.engine own).next
    · intro own
      exact (h.engine own).joins (joins own) (Nat.le_succ _)

/-- A party whose engine has renounced handlers never takes them up again. -/
theorem lasting_renounces : Lasting (Machine.Renounces i n past) where
  stride := Stride.renounces
  cleanup := by
    rintro ⟨e, w⟩ h
    obtain ⟨b, bus, listeners⟩ := h.listeners
    refine ⟨⟨Machine.unsubscribe b e.handlers.handlers, ?_, ?_⟩, h.outbox, ?_⟩
    · simp only [Machine.cleanup, Machine.unsubscribeAll, Registry.drain,
        show w.bus = some b from bus, Option.map_some]
    · intro s hs own
      rw [Machine.unsubscribe_eq] at hs
      exact listeners s (List.mem_filter.mp hs).1 own
    · intro own
      have renounces := h.engine own
      exact ⟨renounces.next, renounces.joined⟩

theorem Assembly.Renounces.deliver (h : a.Renounces i n past) {payload : Value} {s : Subscriber}
    (late : s.party = i → n ≤ s.tag) : (a.deliver payload s).Renounces i n past := by
  unfold Assembly.deliver
  split
  · exact h
  · next e present =>
    refine ⟨h.listeners, ?_⟩
    intro e' present'
    by_cases same : i = s.party
    · subst same
      simp only [Function.update_self, Option.some.injEq] at present'
      subst present'
      have joins := (e.joins_enqueue ⟨s.tag, payload⟩).mono (Q := (n ≤ ·)) fun id same =>
        same ▸ late rfl
      refine (h.engine e present).joins joins ?_
      rw [Engine.enqueue, Engine.record_eq]
    · simp only [Function.update_of_ne same] at present'
      exact h.engine e' present'

theorem Assembly.Renounces.deliverAll (h : a.Renounces i n past)
    {ds : List (Subscriber × Value)} (late : ∀ d ∈ ds, d.1.party = i → n ≤ d.1.tag) :
    (a.deliverAll ds).Renounces i n past := by
  induction ds generalizing a with
  | nil => exact h
  | cons d rest ih =>
      refine ih (h.deliver (late d List.mem_cons_self)) ?_
      intro d' hd'
      exact late d' (List.mem_cons_of_mem _ hd')

theorem Assembly.Renounces.machine (h : a.Renounces i n past) (order : a.InOrder limits)
    (present : a.engines j = some e) : (a.machine j e).Renounces i n past := by
  refine ⟨⟨a.bus, rfl, h.listeners⟩, nofun, ?_⟩
  intro own
  have party := (order.engines j e present).1
  have same : j = i := party.symm.trans own
  subst same
  exact h.engine e present

theorem Assembly.Renounces.settle (h : a.Renounces i n past) (party : m.engine.party = j)
    (after : m.Renounces i n past) : (a.settle j m).Renounces i n past := by
  obtain ⟨b, bus, listeners⟩ := after.listeners
  apply Assembly.Renounces.deliverAll
  · refine ⟨?_, ?_⟩
    · simpa only [bus, Option.getD_some] using listeners
    · intro e present
      by_cases same : i = j
      · subst same
        simp only [Function.update_self, Option.some.injEq] at present
        subst present
        exact after.engine party
      · simp only [Function.update_of_ne same] at present
        exact h.engine e present
  · intro d hd
    exact after.outbox d (List.mem_reverse.mp hd)

theorem Assembly.Step.renounces (step : a.Step a') (order : a.InOrder limits) (apart : i ≠ a.host)
    (h : a.Renounces i n past) : a'.Renounces i n past := by
  cases step with
  | call performed =>
      obtain ⟨e, answer, m, present, called, rfl⟩ := Assembly.exists_of_perform performed
      have orderly := lasting_orderly.perform called (order.orderly present)
      exact h.settle orderly.party
        (lasting_renounces.perform called (h.machine order present))
  | stride present stride =>
      have orderly := lasting_orderly.stride stride (order.orderly present)
      exact h.settle orderly.party (stride.renounces (h.machine order present))
  | drop j =>
      cases present : a.engines j with
      | none => simpa only [Assembly.drop, present] using h
      | some e =>
          rw [order.drop_eq present]
          refine ⟨fun s hs => h.listeners s (List.mem_filter.mp hs).1, ?_⟩
          intro e' present'
          by_cases same : i = j
          · subst same
            simp at present'
          · simp only [Function.update_of_ne same] at present'
            exact h.engine e' present'
  | hostOn event tag =>
      refine ⟨?_, h.engine⟩
      intro s hs own
      simp only [Bus.on, List.mem_append, List.mem_singleton] at hs
      rcases hs with old | rfl
      · exact h.listeners s old own
      · exact absurd own.symm apart
  | hostOff own =>
      exact ⟨fun s hs => h.listeners s (List.mem_filter.mp hs).1, h.engine⟩
  | hostEmit event payload =>
      have recorded : { a with bus := (a.bus.emit event payload).2 }.Renounces i n past :=
        ⟨h.listeners, h.engine⟩
      refine recorded.deliverAll ?_
      intro d hd own
      obtain ⟨l, hl, rfl⟩ := List.mem_map.mp hd
      obtain ⟨s, hs, rfl⟩ := List.mem_map.mp hl
      exact h.listeners s (List.mem_filter.mp hs).1 own
  | equip j w => exact ⟨h.listeners, h.engine⟩

theorem Assembly.Reaches.renounces (reached : a.Reaches a') (order : a.InOrder limits)
    (apart : i ≠ a.host) (h : a.Renounces i n past) : a'.Renounces i n past := by
  induction reached with
  | refl => exact h
  | tail before step ih =>
      refine step.renounces (Assembly.Reaches.inOrder before order) ?_ ih
      rw [Assembly.Reaches.host_eq before]
      exact apart

end Renouncing

/-! ### Engines that are gone -/

section Lacking

variable {i j : Party} {e : Engine} {a a' : Assembly} {limits : Party → Limits}

theorem Assembly.deliver_absent (h : a.engines i = none) (payload : Value) (s : Subscriber) :
    (a.deliver payload s).engines i = none := by
  unfold Assembly.deliver
  split
  · exact h
  · next e present =>
    have other : i ≠ s.party := by
      rintro rfl
      rw [h] at present
      cases present
    simp only [Function.update_of_ne other, h]

theorem Assembly.deliverAll_absent (h : a.engines i = none) (ds : List (Subscriber × Value)) :
    (a.deliverAll ds).engines i = none := by
  induction ds generalizing a with
  | nil => exact h
  | cons d rest ih => exact ih (Assembly.deliver_absent h d.2 d.1)

theorem Assembly.settle_absent (h : a.engines i = none) (present : a.engines j = some e)
    (m : Machine) : (a.settle j m).engines i = none := by
  have other : i ≠ j := by
    rintro rfl
    rw [h] at present
    cases present
  apply Assembly.deliverAll_absent
  simp only [Function.update_of_ne other, h]

/-- An engine that is gone does not come back. -/
theorem Assembly.Step.absent (step : a.Step a') (h : a.engines i = none) :
    a'.engines i = none := by
  cases step with
  | call performed =>
      obtain ⟨e, answer, m, present, called, rfl⟩ := Assembly.exists_of_perform performed
      exact Assembly.settle_absent h present m
  | stride present stride => exact Assembly.settle_absent h present _
  | drop j =>
      unfold Assembly.drop
      split
      · exact h
      · by_cases same : i = j
        · simp only [same, Function.update_self]
        · simp only [Function.update_of_ne same, h]
  | hostOn | hostOff | equip => exact h
  | hostEmit event payload =>
      exact Assembly.deliverAll_absent (a := { a with bus := (a.bus.emit event payload).2 }) h _

theorem Assembly.Reaches.absent (reached : a.Reaches a') (h : a.engines i = none) :
    a'.engines i = none := by
  induction reached with
  | refl => exact h
  | tail _ step ih => exact step.absent ih

/-- Nothing on the bus leads to a party that has no engine. -/
theorem Assembly.InOrder.ofParty_eq_nil (order : a.InOrder limits) (apart : i ≠ a.host)
    (absent : a.engines i = none) : a.bus.ofParty i = [] := by
  apply List.filter_eq_nil_iff.mpr
  intro s hs own
  rcases order.known s hs with host | present
  · exact apart ((beq_iff_eq.mp own).symm.trans host)
  · rw [beq_iff_eq.mp own, absent] at present
    cases present

end Lacking

/-! ### Engine and bus agree, and cleaning up is exact -/

/-- From now on no event joins the queue of an engine for one of the handlers. -/
def Assembly.NeverQueues (a : Assembly) (i : Party) (removed : List Handler) : Prop :=
  ∀ later e e', a.Reaches later → a.engines i = some e → later.engines i = some e' →
    ∃ past during, e.journal = some past ∧ e'.journal = some (during ++ past) ∧
      ∀ fired ∈ joinedIn during, ∀ h ∈ removed, fired.handler ≠ h.id

section Exactness

variable {limits : Party → Limits} {start a : Assembly} {i : Party} {e : Engine}

/-- A statement that would register one handler too many ends in a fault, and leaves everything
as it is once the name of the event is known. -/
theorem exec_on_full {sv : Services} {m m' : Machine} {loc : Location} {event : Expr}
    {body : List Stmt} {name : String} (running : m.engine.stopping = false)
    (inTime : m.timeoutFault? = none)
    (named : evalText sv event (m.atStatement loc) = .done name m')
    (full : m'.engine.limits.maxEventHandlers ≤ m'.engine.handlers.size) :
    ∃ f, exec sv (.on loc event body) m = .fault f m' := by
  have refused : m'.engine.limits.allowsHandler m'.engine.handlers.size = false :=
    decide_eq_false (Nat.not_lt.mpr full)
  rw [exec, statement_eq _ running inTime]
  simp only [Run.located]
  rw [Run.bind_done named, Run.thenNext]
  simp only [bind, Run.andThen, Run.addHandler, refused, Bool.false_eq_true, if_false]
  exact ⟨_, rfl⟩

theorem Assembly.Fresh.renounces_nothing (fresh : start.Fresh limits) (i : Party) :
    start.Renounces i 0 [] := by
  refine ⟨fun s _ _ => Nat.zero_le _, ?_⟩
  intro e present
  obtain rfl := fresh.engines i e present
  exact ⟨Nat.zero_le _, [], rfl, fun fired _ => Nat.zero_le _⟩

/-- Cleaning up an engine leaves the subscriptions of all others, no handlers and no events. -/
theorem Assembly.InOrder.exists_cleanup (order : a.InOrder limits)
    (present : a.engines i = some e) (allowance : Nat) :
    ∃ a' e', a.perform allowance i .cleanup = some a' ∧ a'.engines i = some e' ∧
      a'.bus.subscriptions = a.bus.apartFrom i ∧
      e'.handlers = { e.handlers with handlers := [] } ∧ e'.queue.toList = [] ∧
      e'.journal = e.journal := by
  obtain ⟨party, -, agrees⟩ := order.engines i e present
  have unsubscribed := Machine.unsubscribeAll_eq (rfl : (a.machine i e).world.bus = some a.bus)
    order.numbered agrees
  rw [party] at unsubscribed
  refine ⟨a.settle i (a.machine i e).cleanup, (a.machine i e).cleanup.engine, ?_, ?_, ?_, rfl, rfl,
    rfl⟩
  · simp only [Assembly.perform, present, Option.bind_some, EngineCall.perform, Option.map_some]
  · exact Function.update_self i _ _
  · have bus : (a.machine i e).cleanup.world.bus =
        some { a.bus with subscriptions := a.bus.apartFrom i } := by
      simp only [Machine.cleanup]
      rw [show (a.machine i e).unsubscribeAll = _ from unsubscribed]
    change ((a.machine i e).cleanup.world.bus.getD a.bus).subscriptions = _
    rw [bus]
    rfl

/-- A cleanup renounces all handlers that the engine had. -/
theorem Assembly.neverQueues_of_cleanup {a' : Assembly} {e' : Engine} {past : List Moment}
    (order : a.InOrder limits) (order' : a'.InOrder limits) (present : a.engines i = some e)
    (present' : a'.engines i = some e') (bus : a'.bus.subscriptions = a.bus.apartFrom i)
    (nextId : e'.handlers.nextId = e.handlers.nextId) (journal : e'.journal = some past) :
    a'.NeverQueues i e.handlers.handlers := by
  have renounces : a'.Renounces i e.handlers.nextId past := by
    constructor
    · intro s hs own
      rw [bus] at hs
      exact absurd own (bne_iff_ne.mp (List.mem_filter.mp hs).2)
    · intro k hk
      cases present'.symm.trans hk
      exact ⟨nextId.ge, [], journal, nofun⟩
  intro later k k' reached hk hk'
  cases present'.symm.trans hk
  obtain ⟨during, goes, joined⟩ :=
    ((reached.renounces order' (order'.ne_host present') renounces).engine k' hk').joined
  refine ⟨past, during, journal, goes, ?_⟩
  intro fired mem h hh same
  have old := (order.engines i e present).2.2.numbered h hh
  have new := joined fired mem
  exact absurd (same ▸ new) (Nat.not_le.mpr old)

/-- However engines on one bus are used, each of them agrees with the bus about its handlers,
event by event and in order, and has not more than its limits allow. A handler that is refused
changes nothing. Cleaning up or dropping an engine leaves exactly the subscriptions of the
others, in their order, and its handlers never get an event again. -/
theorem engines_agree_with_bus (fresh : start.Fresh limits) (reached : start.Reaches a)
    (present : a.engines i = some e) :
    (∀ event, (e.handlers.handlers.filter fun h => h.event == event).map (Handler.link i) =
      ((a.bus.listening event).filter fun s => s.listener.party == i).map Subscription.link) ∧
    e.handlers.size ≤ (limits i).maxEventHandlers ∧
    (∀ sv m m' loc event body name, m.engine.stopping = false → m.timeoutFault? = none →
      evalText sv event (m.atStatement loc) = .done name m' →
      m'.engine.limits.maxEventHandlers ≤ m'.engine.handlers.size →
      ∃ f, exec sv (.on loc event body) m = .fault f m') ∧
    (∀ allowance, ∃ a' e', a.perform allowance i .cleanup = some a' ∧ a'.engines i = some e' ∧
      a'.bus.subscriptions = a.bus.apartFrom i ∧ e'.handlers.handlers = [] ∧
      e'.queue.toList = [] ∧ a'.NeverQueues i e.handlers.handlers) ∧
    (a.drop i).bus.subscriptions = a.bus.apartFrom i ∧
    ∀ later, (a.drop i).Reaches later → later.engines i = none ∧ later.bus.ofParty i = [] := by
  have order := reached.inOrder fresh.inOrder
  obtain ⟨party, hlimits, agrees⟩ := order.engines i e present
  have apart : i ≠ start.host := by
    rw [← reached.host_eq]
    exact order.ne_host present
  obtain ⟨past, journal, -⟩ :=
    ((reached.renounces fresh.inOrder apart (fresh.renounces_nothing i)).engine e present).joined
  have dropped := order.drop_eq present
  refine ⟨?_, ?_, ?_, ?_, ?_, ?_⟩
  · intro event
    have links := agrees.links_event event
    rwa [party] at links
  · rw [← hlimits]
    exact agrees.room
  · intro sv m m' loc event body name running inTime named full
    exact exec_on_full running inTime named full
  · intro allowance
    obtain ⟨a', e', performed, present', bus, handlers, queue, kept⟩ :=
      order.exists_cleanup present allowance
    have order' := (Assembly.Step.call performed).inOrder order
    refine ⟨a', e', performed, present', bus, by rw [handlers], queue, ?_⟩
    exact Assembly.neverQueues_of_cleanup order order' present present' bus (by rw [handlers])
      (kept.trans journal)
  · rw [dropped]
  · intro later afterwards
    have absent : later.engines i = none := by
      refine afterwards.absent ?_
      rw [dropped]
      exact Function.update_self i _ _
    have order' := afterwards.inOrder (order.drop i)
    have apart' : i ≠ later.host := by
      rw [afterwards.host_eq, dropped]
      exact order.ne_host present
    exact ⟨absent, order'.ofParty_eq_nil apart' absent⟩

/-- Two engines with the numbers 1 and 2 and a host with the number 0. -/
def couple : Assembly where
  host := 0
  engines := fun i => if i = 1 ∨ i = 2 then some (Machine.new i {} {}).engine else none
  worlds := fun _ => {}

/-- A program that registers a handler. -/
def listeningProgram : Program := [.on {} (.lit {} (.text "x")) []]

/-- Both engines listen to the same event. -/
def coupleListening? : Option Assembly :=
  (couple.perform 1 1 (.execute listeningProgram)).bind fun a =>
    a.perform 1 2 (.execute listeningProgram)

theorem couple_fresh : couple.Fresh fun _ => {} := by
  refine ⟨rfl, ?_, rfl⟩
  intro i e present
  simp only [couple] at present
  split at present
  · exact (Option.some.inj present).symm
  · cases present

/-- When both listen and the first is cleaned up, the second listens still. -/
theorem couple_agrees_with_bus : ∃ a e a', couple.Fresh (fun _ => {}) ∧ couple.Reaches a ∧
    a.engines 1 = some e ∧ e.handlers.forEvent "x" = [0] ∧
    a.bus.subscriptions.map Subscription.listener = [⟨1, 0⟩, ⟨2, 0⟩] ∧
    a.perform 1 1 .cleanup = some a' ∧
    a'.bus.subscriptions.map Subscription.listener = [⟨2, 0⟩] ∧
    a'.NeverQueues 1 e.handlers.handlers := by
  have facts : coupleListening?.map (fun a =>
      ((a.engines 1).map fun e => e.handlers.forEvent "x",
        a.bus.subscriptions.map Subscription.listener,
        (a.bus.apartFrom 1).map Subscription.listener)) =
      some (some [0], [⟨1, 0⟩, ⟨2, 0⟩], [⟨2, 0⟩]) := by decide +kernel
  obtain ⟨a, listening, values⟩ := Option.map_eq_some_iff.mp facts
  simp only [Prod.mk.injEq] at values
  obtain ⟨handlers, listeners, others⟩ := values
  obtain ⟨e, present, forEvent⟩ := Option.map_eq_some_iff.mp handlers
  obtain ⟨a₁, first, second⟩ := Option.bind_eq_some_iff.mp listening
  have reached : couple.Reaches a :=
    (Relation.ReflTransGen.single (Assembly.Step.call first)).tail (Assembly.Step.call second)
  have agrees := engines_agree_with_bus couple_fresh reached present
  obtain ⟨a', e', performed, -, bus, -, -, never⟩ := agrees.2.2.2.1 1
  refine ⟨a, e, a', couple_fresh, reached, present, forEvent, listeners, performed, ?_, never⟩
  rw [bus]
  exact others

end Exactness

end HostScript
