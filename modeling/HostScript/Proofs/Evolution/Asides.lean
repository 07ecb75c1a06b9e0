import HostScript.Proofs.Evolution
import Mathlib.Logic.Relation

/-!
# What happens beside a script

While a script calls the host or waits for it, the host acts: it queues events, requests a
stop and lets time go by. These are a few of the moves of an evolution. They touch neither
the frames nor what scripts have made, so laws about frames look at them once, as asides.
-/

namespace HostScript

/-- The least that the host does to a machine. -/
inductive Aside : Machine → Machine → Prop
  | host {e : Engine} {w w' : World} (alike : w.Alike w') : Aside ⟨e, w⟩ ⟨e, w'⟩
  | time {e : Engine} {w : World} {now : Nat} (later : w.now ≤ now) :
      Aside ⟨e, w⟩ ⟨e, { w with now }⟩
  | timeline {e : Engine} {w : World} {rest : List (Nat × HostMove)}
      (suffix : rest <:+ w.timeline) : Aside ⟨e, w⟩ ⟨e, { w with timeline := rest }⟩
  | enqueue {e : Engine} {w : World} (fired : Fired)
      (reached : Machine.Reaches ⟨e, w⟩ fired.handler) : Aside ⟨e, w⟩ ⟨e.enqueue fired, w⟩
  | stop (m : Machine) : Aside m m.requestStop

/-- What a machine can become by what the host does. -/
abbrev Asides : Machine → Machine → Prop := Relation.ReflTransGen Aside

section Asides

variable {limit : Nat} {names : Set String} {m m' : Machine}

theorem Aside.move (h : Aside m m') : Move names m m' := by
  cases h with
  | host alike => exact .host alike
  | time later => exact .time later
  | timeline suffix => exact .timeline suffix
  | enqueue fired reached => exact .enqueue fired reached
  | stop => exact .stop m

/-- What the host does is an evolution. -/
theorem Asides.evolves (h : Asides m m') : Evolves limit names m m' := by
  induction h with
  | refl => exact .refl m
  | tail _ step earlier => exact earlier.trans (.move step.move)

end Asides

/-! ### Events -/

/-- Deliveries of an emission are queued for this engine or put into the outbox. -/
theorem asides_deliver {e : Engine} {w : World} {bus : Bus Subscriber} (hbus : w.bus = some bus)
    (payload : Value) {listeners : List Subscriber}
    (mem : ∀ l ∈ listeners, ∃ s ∈ bus.subscriptions, s.listener = l) :
    Asides ⟨e, w⟩ (listeners.foldl (fun m s => Machine.deliver m payload s) ⟨e, w⟩) := by
  induction listeners generalizing e w with
  | nil => exact .refl
  | cons l rest ih =>
      have hrest : ∀ l ∈ rest, ∃ s ∈ bus.subscriptions, s.listener = l := by
        intro l' hl'
        exact mem l' (List.mem_cons_of_mem _ hl')
      simp only [List.foldl_cons, Machine.deliver]
      split
      · next own =>
        have reached : Machine.Reaches ⟨e, w⟩ l.tag := by
          obtain ⟨s, hs, hl⟩ := mem l List.mem_cons_self
          simp only [Machine.Reaches, hbus]
          exact ⟨s, hs, by rw [hl, ← own]⟩
        exact .head (.enqueue ⟨l.tag, payload⟩ reached) (ih hbus hrest)
      · have alike : w.Alike { w with outbox := (l, payload) :: w.outbox } := by
          refine ⟨rfl, rfl, rfl, rfl, rfl, ?_⟩
          intro d hd
          rcases List.mem_cons.mp hd with rfl | old
          · exact .inr ⟨bus, hbus, mem l List.mem_cons_self⟩
          · exact .inl old
        exact .head (.host alike) (ih hbus hrest)

theorem asides_emitOnBus (m : Machine) (event : String) (payload : Value) :
    Asides m (m.emitOnBus event payload) := by
  obtain ⟨e, w⟩ := m
  simp only [Machine.emitOnBus]
  split
  · exact .refl
  · next bus hbus =>
    -- Recording the emission leaves the listeners as they are; they are then served in order.
    have alike : w.Alike { w with bus := some (bus.emit event payload).2 } :=
      ⟨rfl, rfl, rfl, by simp [hbus, Bus.emit], by simp [hbus, Bus.emit], fun _ hd => .inl hd⟩
    refine .head (.host alike) (asides_deliver rfl payload ?_)
    intro l hl
    obtain ⟨s, hs, rfl⟩ := List.mem_map.mp hl
    exact ⟨s, (List.mem_filter.mp hs).1, rfl⟩

theorem asides_enqueueAll {e : Engine} {w : World} (hbus : w.bus = none) (payload : Value)
    {ids : List HandlerId} (mem : ∀ id ∈ ids, ∃ h ∈ e.handlers.handlers, h.id = id) :
    Asides ⟨e, w⟩ ⟨ids.foldl (fun e id => e.enqueue ⟨id, payload⟩) e, w⟩ := by
  induction ids generalizing e with
  | nil => exact .refl
  | cons id rest ih =>
      have reached : Machine.Reaches ⟨e, w⟩ id := by
        simp only [Machine.Reaches, hbus]
        exact mem id List.mem_cons_self
      have handlers : (e.enqueue ⟨id, payload⟩).handlers = e.handlers := by
        simp [Engine.enqueue, Engine.record_eq]
      refine .head (.enqueue ⟨id, payload⟩ reached) (ih ?_)
      intro id' hid'
      rw [handlers]
      exact mem id' (List.mem_cons_of_mem _ hid')

theorem asides_emit (m : Machine) (event : String) (payload : Value) :
    Asides m (m.emit event payload) := by
  obtain ⟨e, w⟩ := m
  simp only [Machine.emit]
  split
  · exact asides_emitOnBus _ event payload
  · next hbus =>
    apply asides_enqueueAll hbus
    intro id hid
    obtain ⟨h, hh, rfl⟩ := List.mem_map.mp hid
    exact ⟨h, (List.mem_filter.mp hh).1, rfl⟩

theorem asides_act (m : Machine) (a : HostAct) : Asides m (m.act a) := by
  cases a with
  | stop => exact .single (.stop m)
  | spend ms => exact .single (.time (Nat.le_add_right _ _))
  | emit event payload => exact asides_emitOnBus m event payload

theorem asides_acts (m : Machine) (acts : List HostAct) :
    Asides m (acts.foldl Machine.act m) := by
  induction acts generalizing m with
  | nil => exact .refl
  | cons a rest ih => exact (asides_act m a).trans (ih (m.act a))

theorem asides_hostMove (m : Machine) (mv : HostMove) : Asides m (m.move mv) := by
  cases mv with
  | emit event payload => exact asides_emitOnBus m event payload
  | stop => exact .single (.stop m)

/-! ### Time -/

theorem World.alike_showQuestion (w : World) : w.Alike w.showQuestion := by
  unfold World.showQuestion
  split
  · exact .of_bus_eq rfl rfl rfl rfl
  · exact .of_bus_eq rfl rfl rfl rfl

theorem timeline_emitOnBus (m : Machine) (event : String) (payload : Value) :
    (m.emitOnBus event payload).world.timeline = m.world.timeline := by
  have delivered (m : Machine) (s : Subscriber) :
      (m.deliver payload s).world.timeline = m.world.timeline := by
    simp only [Machine.deliver]
    split
    · rfl
    · rfl
  have folded (listeners : List Subscriber) (m : Machine) :
      (listeners.foldl (fun m s => Machine.deliver m payload s) m).world.timeline =
        m.world.timeline := by
    induction listeners generalizing m with
    | nil => rfl
    | cons s rest ih => rw [List.foldl_cons, ih, delivered]
  obtain ⟨e, w⟩ := m
  simp only [Machine.emitOnBus]
  split
  · rfl
  · rw [folded]

theorem timeline_move (m : Machine) (mv : HostMove) :
    (m.move mv).world.timeline = m.world.timeline := by
  cases mv with
  | emit event payload => exact timeline_emitOnBus m event payload
  | stop => rfl

/-- What is due leaves the timeline once it is done. -/
theorem asides_performDue {m : Machine} {moves : List (Nat × HostMove)}
    (suffix : moves <:+ m.world.timeline) : Asides m (m.performDue moves) := by
  induction moves generalizing m with
  | nil => exact .single (.timeline suffix)
  | cons first rest ih =>
      obtain ⟨time, mv⟩ := first
      simp only [Machine.performDue]
      split
      · have left : rest <:+ (m.move mv).world.timeline := by
          rw [timeline_move]
          exact (List.suffix_cons _ _).trans suffix
        exact (asides_hostMove m mv).trans (ih left)
      · exact .single (.timeline suffix)

/-- Finishing the timeline is done by the host, whatever the moves are. -/
theorem asides_performAll (m : Machine) (moves : List (Nat × HostMove)) :
    Asides m (m.performAll moves) := by
  induction moves generalizing m with
  | nil => exact .single (.timeline List.nil_suffix)
  | cons first rest ih =>
      obtain ⟨time, mv⟩ := first
      obtain ⟨e, w⟩ := m
      have later : Aside ⟨e, w⟩ ⟨e, { w with now := max w.now time }⟩ :=
        .time (Nat.le_max_left _ _)
      exact (Relation.ReflTransGen.head later (asides_hostMove _ mv)).trans (ih _)

theorem Awaited.lt_of_not_ready {a : Awaited} {now time : Nat} (waiting : a.ready? now = none)
    (wake : a.wakeTime? = some time) : now < time := by
  simp only [Awaited.ready?, Option.map_eq_none_iff, List.find?_eq_none] at waiting
  obtain ⟨ending, mem, rfl⟩ := List.mem_map.mp (List.min?_mem wake)
  simpa using waiting ending mem

/-- While the awaited thing has not come, passing time goes forward. -/
theorem asides_passTime? {m m' : Machine} {a : Awaited} (waiting : a.ready? m.world.now = none)
    (h : m.passTime? a = some m') : Asides m m' := by
  unfold Machine.passTime? at h
  split at h
  · next time mv rest htimeline =>
    split at h
    · cases h
      exact asides_performDue (htimeline ▸ List.suffix_rfl)
    · next notDue =>
      cases h
      refine .single (.time ?_)
      cases hw : a.wakeTime? with
      | none => simpa using Nat.le_of_not_le notDue
      | some wake =>
          have later := Awaited.lt_of_not_ready waiting hw
          simp only [Option.map_some, Option.getD_some]
          omega
  · split at h
    · cases h
    · cases h
      exact .single (.time (Nat.le_max_left _ _))

end HostScript
