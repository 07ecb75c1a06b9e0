import HostScript.Proofs.Histories
import Mathlib.Logic.Relation

/-!
# A bus in use

Listeners may use the bus while it delivers to them: they subscribe, end subscriptions and emit, and
an emission that they make is delivered before the one that called them goes on. Whatever they do,
an emission calls the listeners that were subscribed when it began, once each and in the order of
their subscription, and a bus that records keeps its last emissions.

## Implementation notes

What listeners do is left open. A `Traffic` is a bus with all that has happened on it and with the
emissions under way, and each step of it is an operation of the bus, or an emission that calls its
next listener, gets control back from it, or ends. Whoever is in control may take any step.
Observers that act on their bus are listeners of that kind, and `Observatory.emitWithin` takes those
steps.
-/

namespace HostScript

open Relation (ReflTransGen)

variable {α : Type}

/-! ### Emissions under way -/

/-- An emission under way: its place in the history, its payload, and the listeners that it still
has to call. -/
structure Delivery (α : Type) where
  place : Nat
  payload : Value
  pending : List α

/-- A bus in use. -/
structure Traffic (α : Type) where
  bus : Bus α
  /-- All that has happened, oldest first. -/
  history : List (Occurrence α) := []
  /-- The emissions under way, the innermost first. -/
  underway : List (Delivery α) := []
  /-- Control is with the host, or with the listener that the innermost emission has called. -/
  acting : Bool := true

/-- One step of a bus in use. -/
inductive Traffic.Step : Traffic α → Traffic α → Prop
  | on {b : Bus α} {h : List (Occurrence α)} {ds : List (Delivery α)} (event : String)
      (listener : α) : Step ⟨b, h, ds, true⟩ ⟨(b.on event listener).2,
        h ++ [.subscribed event (b.on event listener).1 listener], ds, true⟩
  | off {b : Bus α} {h : List (Occurrence α)} {ds : List (Delivery α)} (event : String) (id : Nat) :
      Step ⟨b, h, ds, true⟩ ⟨b.off event id, h ++ [.ended event id], ds, true⟩
  | clear {b : Bus α} {h : List (Occurrence α)} {ds : List (Delivery α)} :
      Step ⟨b, h, ds, true⟩ ⟨b.clearEmitted, h ++ [.cleared], ds, true⟩
  | emit {b : Bus α} {h : List (Occurrence α)} {ds : List (Delivery α)} (event : String)
      (payload : Value) : Step ⟨b, h, ds, true⟩ ⟨(b.emit event payload).2,
        h ++ [.began event payload], ⟨h.length, payload, (b.emit event payload).1⟩ :: ds, false⟩
  | call {b : Bus α} {h : List (Occurrence α)} {ds : List (Delivery α)} {place : Nat}
      {payload : Value} {listener : α} {pending : List α} :
      Step ⟨b, h, ⟨place, payload, listener :: pending⟩ :: ds, false⟩
        ⟨b, h ++ [.called place listener payload], ⟨place, payload, pending⟩ :: ds, true⟩
  | return {b : Bus α} {h : List (Occurrence α)} {d : Delivery α} {ds : List (Delivery α)} :
      Step ⟨b, h, d :: ds, true⟩ ⟨b, h, d :: ds, false⟩
  | finish {b : Bus α} {h : List (Occurrence α)} {ds : List (Delivery α)} {place : Nat}
      {payload : Value} : Step ⟨b, h, ⟨place, payload, []⟩ :: ds, false⟩
        ⟨b, h ++ [.finished place], ds, true⟩

/-- A new bus that keeps a number of emissions. -/
def Traffic.fresh (limit : Nat) : Traffic α := { bus := { recordLimit := limit } }

/-- It comes about in the use of a new bus. -/
def Traffic.Arises (limit : Nat) (x : Traffic α) : Prop :=
  ReflTransGen Traffic.Step (.fresh limit) x

section Delivering

variable {h : List (Occurrence α)} {o : Occurrence α} {d : Delivery α} {ds : List (Delivery α)}
  {i : Nat}

/-- An emission under way has made the first of its calls and will make the others. -/
def Delivery.Awaits (h : List (Occurrence α)) (d : Delivery α) : Prop :=
  ∃ event, h[d.place]? = some (.began event d.payload) ∧ Occurrence.finished d.place ∉ h ∧
    callsFrom d.place h ++ d.pending.map (fun l => (l, d.payload)) =
      callsDue h d.place event d.payload

/-- If there is an emission at a place, it has ended and has made its calls. -/
def Over (h : List (Occurrence α)) (place : Nat) : Prop :=
  ∀ event payload, h[place]? = some (.began event payload) → Occurrence.finished place ∈ h ∧
    callsFrom place h = callsDue h place event payload

/-- Every emission is under way or over, and those under way are nested. -/
structure Delivers (h : List (Occurrence α)) (ds : List (Delivery α)) : Prop where
  nested : (ds.map Delivery.place).Pairwise (· > ·)
  early : ∀ o ∈ h, ∀ i, o.place? = some i → i < h.length
  awaits : ∀ d ∈ ds, d.Awaits h
  closed : ∀ i, (∀ d ∈ ds, d.place ≠ i) → Over h i

theorem callFrom?_eq_none (apart : o.place? ≠ some i) : o.callFrom? i = none := by
  cases o with
  | called j l payload => exact if_neg fun same => apart (congrArg some same)
  | _ => rfl

theorem callsFrom_concat_of_ne (apart : o.place? ≠ some i) (h : List (Occurrence α)) :
    callsFrom i (h ++ [o]) = callsFrom i h := by
  rw [callsFrom_concat, callFrom?_eq_none apart]
  exact List.append_nil _

theorem callsDue_concat (within : i ≤ h.length) (o : Occurrence α) (event : String)
    (payload : Value) : callsDue (h ++ [o]) i event payload = callsDue h i event payload := by
  rw [callsDue, List.take_append_of_le_length within, callsDue]

theorem finished_mem_concat_iff (apart : o.place? ≠ some i) :
    Occurrence.finished i ∈ h ++ [o] ↔ Occurrence.finished i ∈ h := by
  rw [List.mem_append, List.mem_singleton]
  constructor
  · rintro (old | rfl)
    · exact old
    · exact absurd rfl apart
  · exact .inl

/-- What is not part of an emission leaves it as it is. -/
theorem Delivery.Awaits.concat (w : d.Awaits h) (apart : o.place? ≠ some d.place) :
    d.Awaits (h ++ [o]) := by
  obtain ⟨event, begun, unfinished, calls⟩ := w
  have within : d.place < h.length := (List.getElem?_eq_some_iff.mp begun).1
  refine ⟨event, ?_, ?_, ?_⟩
  · rw [List.getElem?_append_left within]
    exact begun
  · rwa [finished_mem_concat_iff apart]
  · rw [callsFrom_concat_of_ne apart, callsDue_concat within.le]
    exact calls

theorem Over.concat (closed : Over h i) (apart : o.place? ≠ some i)
    (old : i = h.length → o.emission? = none) : Over (h ++ [o]) i := by
  intro event payload begun
  obtain within | ⟨rfl, last⟩ : i < h.length ∨ i = h.length ∧ o = .began event payload := by
    rw [List.getElem?_append] at begun
    split at begun
    · next within => exact .inl within
    · next beyond =>
        obtain ⟨within, same⟩ := List.getElem?_eq_some_iff.mp begun
        rw [List.length_singleton] at within
        refine .inr ⟨by omega, ?_⟩
        simpa using same
  · rw [List.getElem?_append_left within] at begun
    obtain ⟨finished, calls⟩ := closed event payload begun
    rw [finished_mem_concat_iff apart, callsFrom_concat_of_ne apart, callsDue_concat within.le]
    exact ⟨finished, calls⟩
  · rw [last] at old
    cases old rfl

namespace Delivers

theorem lt_length (v : Delivers h ds) (mem : d ∈ ds) : d.place < h.length := by
  obtain ⟨event, begun, -⟩ := v.awaits d mem
  exact (List.getElem?_eq_some_iff.mp begun).1

theorem place_lt (v : Delivers h (d :: ds)) {d' : Delivery α} (mem : d' ∈ ds) :
    d'.place < d.place :=
  List.rel_of_pairwise_cons v.nested (List.mem_map_of_mem mem)

theorem early_concat (v : Delivers h ds) (known : ∀ i, o.place? = some i → i < h.length) :
    ∀ o' ∈ h ++ [o], ∀ i, o'.place? = some i → i < (h ++ [o]).length := by
  intro o' mem i at_
  rw [List.length_append]
  rw [List.mem_append, List.mem_singleton] at mem
  obtain old | rfl := mem
  · exact Nat.lt_add_right _ (v.early o' old i at_)
  · exact Nat.lt_add_right _ (known i at_)

/-- Operations other than emissions leave the emissions under way as they are. -/
theorem quiet (v : Delivers h ds) (apart : o.place? = none) (still : o.emission? = none) :
    Delivers (h ++ [o]) ds where
  nested := v.nested
  early := v.early_concat fun i at_ => by rw [apart] at at_; cases at_
  awaits d mem := (v.awaits d mem).concat (by simp [apart])
  closed i none_ := (v.closed i none_).concat (by simp [apart])
    fun _ => still

/-- A new emission has all its calls to make. -/
theorem emit (v : Delivers h ds) (event : String) (payload : Value) {targets : List α}
    (subscribed : targets = (inForce event h).map Subscription.listener) :
    Delivers (h ++ [.began event payload]) (⟨h.length, payload, targets⟩ :: ds) where
  nested := by
    rw [List.map_cons, List.pairwise_cons]
    refine ⟨?_, v.nested⟩
    intro place mem
    obtain ⟨d, old, rfl⟩ := List.mem_map.mp mem
    exact v.lt_length old
  early := v.early_concat fun _ at_ => by cases at_
  awaits d mem := by
    obtain rfl | mem := List.mem_cons.mp mem
    · refine ⟨event, List.getElem?_concat_length, ?_, ?_⟩
      · intro finished
        rw [finished_mem_concat_iff (by simp [Occurrence.place?])] at finished
        exact Nat.lt_irrefl _ (v.early _ finished _ rfl)
      · have none_ : callsFrom h.length h = [] := by
          rw [callsFrom, List.filterMap_eq_nil_iff]
          intro o mem
          apply callFrom?_eq_none
          intro at_
          exact Nat.lt_irrefl _ (v.early o mem _ at_)
        rw [callsFrom_concat_of_ne (by simp [Occurrence.place?]), callsDue_concat le_rfl, none_,
          subscribed, callsDue, List.take_length]
        simp
    · exact (v.awaits d mem).concat (by simp [Occurrence.place?])
  closed i none_ := by
    have apart : h.length ≠ i := none_ ⟨h.length, payload, targets⟩ List.mem_cons_self
    exact (v.closed i fun d mem => none_ d (List.mem_cons_of_mem _ mem)).concat
      (by simp [Occurrence.place?]) fun last => absurd last.symm apart

/-- A call is the next one of its emission. -/
theorem call {place : Nat} {payload : Value} {listener : α} {pending : List α}
    (v : Delivers h (⟨place, payload, listener :: pending⟩ :: ds)) :
    Delivers (h ++ [.called place listener payload]) (⟨place, payload, pending⟩ :: ds) where
  nested := v.nested
  early := v.early_concat fun i at_ => by
    cases at_
    exact v.lt_length List.mem_cons_self
  awaits d mem := by
    obtain rfl | mem := List.mem_cons.mp mem
    · obtain ⟨event, begun, unfinished, calls⟩ := v.awaits _ List.mem_cons_self
      have within : place < h.length := v.lt_length List.mem_cons_self
      refine ⟨event, ?_, ?_, ?_⟩
      · rw [List.getElem?_append_left within]
        exact begun
      · simpa using unfinished
      · rw [callsDue_concat within.le, ← calls, callsFrom_concat]
        simp [Occurrence.callFrom?]
    · have below := v.place_lt mem
      apply (v.awaits d (List.mem_cons_of_mem _ mem)).concat
      intro same
      cases same
      exact Nat.lt_irrefl _ below
  closed i none_ := by
    have apart : place ≠ i := none_ ⟨place, payload, pending⟩ List.mem_cons_self
    refine (v.closed i ?_).concat (fun same => apart (Option.some.inj same)) fun _ => rfl
    intro d mem
    obtain rfl | mem := List.mem_cons.mp mem
    · exact apart
    · exact none_ d (List.mem_cons_of_mem _ mem)

/-- An emission that has made its calls is over. -/
theorem finish {place : Nat} {payload : Value} (v : Delivers h (⟨place, payload, []⟩ :: ds)) :
    Delivers (h ++ [.finished place]) ds where
  nested := v.nested.of_cons
  early := v.early_concat fun i at_ => by
    cases at_
    exact v.lt_length List.mem_cons_self
  awaits d mem := by
    have below := v.place_lt mem
    apply (v.awaits d (List.mem_cons_of_mem _ mem)).concat
    intro same
    cases same
    exact Nat.lt_irrefl _ below
  closed i none_ := by
    by_cases same : place = i
    · subst same
      obtain ⟨event, begun, -, calls⟩ := v.awaits _ List.mem_cons_self
      have within : place < h.length := v.lt_length List.mem_cons_self
      intro event' payload' begun'
      rw [List.getElem?_append_left within] at begun'
      cases begun.symm.trans begun'
      refine ⟨by simp, ?_⟩
      rw [callsDue_concat within.le, ← calls, callsFrom_concat]
      simp [Occurrence.callFrom?]
    · refine (v.closed i ?_).concat (fun at_ => same (Option.some.inj at_)) fun _ => rfl
      intro d mem
      obtain rfl | mem := List.mem_cons.mp mem
      · exact same
      · exact none_ d mem

/-- An emission is under way, with calls left to make, or has ended and has made all its calls. -/
theorem status (v : Delivers h ds) {event : String} {payload : Value}
    (begun : h[i]? = some (.began event payload)) :
    (ds ≠ [] ∧ Occurrence.finished i ∉ h ∧
        ∃ left, callsFrom i h ++ left = callsDue h i event payload) ∨
      (Occurrence.finished i ∈ h ∧ callsFrom i h = callsDue h i event payload) := by
  by_cases open_ : ∃ d ∈ ds, d.place = i
  · obtain ⟨d, mem, rfl⟩ := open_
    obtain ⟨event', begun', unfinished, calls⟩ := v.awaits d mem
    cases begun.symm.trans begun'
    exact .inl ⟨List.ne_nil_of_mem mem, unfinished, _, calls⟩
  · apply Or.inr
    apply v.closed i _ event payload begun
    intro d mem same
    exact open_ ⟨d, mem, same⟩

end Delivers

end Delivering

/-! ### Runs -/

/-- What holds between any two steps of a bus in use. -/
structure Traffic.Kept (limit : Nat) (x : Traffic α) : Prop where
  reflects : x.bus.Reflects x.history
  delivers : Delivers x.history x.underway
  recordLimit : x.bus.recordLimit = limit

theorem Traffic.kept_fresh (limit : Nat) : (Traffic.fresh limit : Traffic α).Kept limit where
  reflects := by
    refine ⟨fun _ => rfl, .nil, ?_, by simp [fresh, sinceCleared]⟩
    intro n given
    cases given
  delivers := by
    refine ⟨.nil, ?_, ?_, ?_⟩
    · intro o mem
      cases mem
    · intro d mem
      cases mem
    · intro i _ event payload begun
      cases begun
  recordLimit := rfl

/-- Every step keeps it. -/
theorem Traffic.Kept.step {limit : Nat} {x y : Traffic α} (k : x.Kept limit)
    (s : Traffic.Step x y) : y.Kept limit := by
  obtain ⟨r, v, limited⟩ := k
  cases s with
  | @on b _ _ event listener =>
      refine ⟨r.after (.subscribed event b.nextId listener) ?_, v.quiet rfl rfl, limited⟩
      intro n given
      exact (Option.some.inj given).symm
  | off event id =>
      exact ⟨r.after (.ended event id) (Bus.numbers_of_none rfl), v.quiet rfl rfl, limited⟩
  | clear => exact ⟨r.after .cleared (Bus.numbers_of_none rfl), v.quiet rfl rfl, limited⟩
  | emit event payload =>
      refine ⟨r.after (.began event payload) (Bus.numbers_of_none rfl),
        v.emit event payload ?_, limited⟩
      exact congrArg _ (r.listening event)
  | call => exact ⟨r.after (.called _ _ _) (Bus.numbers_of_none rfl), v.call, limited⟩
  | «return» => exact ⟨r, v, limited⟩
  | finish => exact ⟨r.after (.finished _) (Bus.numbers_of_none rfl), v.finish, limited⟩

/-- So it holds throughout. -/
theorem Traffic.Arises.kept {limit : Nat} {x : Traffic α} (h : x.Arises limit) : x.Kept limit := by
  induction h with
  | refl => exact kept_fresh limit
  | tail _ s ih => exact ih.step s

/-! ### Observers -/

namespace Observatory

/-- The note of a call: the label of the observer and the payload. -/
def note? : Occurrence Observer → Option (String × Value)
  | .called _ l payload => some (l.label, payload)
  | _ => none

/-- From one observatory to another, the bus has been used while other emissions were under way, and
the calls that were made have been noted. -/
def Follows (o o' : Observatory) : Prop :=
  ∀ h ds, ∃ more, ReflTransGen Traffic.Step ⟨o.bus, h, ds, true⟩ ⟨o'.bus, h ++ more, ds, true⟩ ∧
    o'.calls = (more.filterMap note?).reverse ++ o.calls

variable {o o' : Observatory} {emitInner : String → Value → Observatory → Option Observatory}

theorem follows_react
    (inner : ∀ event payload o o', emitInner event payload o = some o' → o.Follows o')
    {reaction : Option Reaction} (reacted : o.react emitInner reaction = some o') :
    o.Follows o' := by
  cases reaction with
  | none =>
      cases reacted
      intro h ds
      exact ⟨[], by rw [List.append_nil], rfl⟩
  | some r =>
      cases r with
      | off event id =>
          cases reacted
          intro h ds
          exact ⟨_, .single (.off event id), rfl⟩
      | emit event payload => exact inner event payload o o' reacted
      | on event label =>
          cases reacted
          intro h ds
          exact ⟨_, .single (.on event (Observer.mk label none)), rfl⟩

/-- Observers are called one after the other by the emission under way. -/
theorem follows_callAll
    (inner : ∀ event payload o o', emitInner event payload o = some o' → o.Follows o')
    {payload : Value} {targets : List Observer}
    (called : callAll emitInner payload targets o = some o')
    (place : Nat) (h : List (Occurrence Observer)) (ds : List (Delivery Observer)) :
    ∃ more, ReflTransGen Traffic.Step ⟨o.bus, h, ⟨place, payload, targets⟩ :: ds, false⟩
        ⟨o'.bus, h ++ more, ⟨place, payload, []⟩ :: ds, false⟩ ∧
      o'.calls = (more.filterMap note?).reverse ++ o.calls := by
  induction targets generalizing o h with
  | nil =>
      cases called
      exact ⟨[], by rw [List.append_nil], rfl⟩
  | cons l rest ih =>
      obtain ⟨o₁, reacted, further⟩ := Option.bind_eq_some_iff.mp called
      obtain ⟨during, ran, noted⟩ := follows_react inner reacted
        (h ++ [.called place l payload]) (⟨place, payload, rest⟩ :: ds)
      obtain ⟨after, ran', noted'⟩ := ih further (h ++ [.called place l payload] ++ during)
      refine ⟨[.called place l payload] ++ during ++ after, ?_, ?_⟩
      · rw [← List.append_assoc, ← List.append_assoc]
        have returned := (ReflTransGen.single .return).trans ran'
        exact (ReflTransGen.single .call).trans (ran.trans returned)
      · rw [noted', noted]
        simp [note?]

/-- An emission among observers, with those that they make, is a use of their bus. -/
theorem follows_emitWithin {depth : Nat} {event : String} {payload : Value}
    (emitted : o.emitWithin depth event payload = some o') : o.Follows o' := by
  induction depth generalizing event payload o o' with
  | zero => cases emitted
  | succ depth ih =>
      intro h ds
      obtain ⟨more, ran, noted⟩ := follows_callAll (fun _ _ _ _ => ih) emitted h.length
        (h ++ [.began event payload]) ds
      refine ⟨[.began event payload] ++ more ++ [.finished h.length], ?_, ?_⟩
      · rw [← List.append_assoc, ← List.append_assoc]
        exact (ReflTransGen.single (.emit event payload)).trans (ran.trans (.single .finish))
      · rw [noted]
        simp [List.filterMap_cons, note?]

/-- Observatories that come about by operations of the host on a new bus. -/
inductive Arises (limit : Nat) : Observatory → Prop
  | fresh : Arises limit { bus := { recordLimit := limit } }
  | on {o : Observatory} (before : Arises limit o) (event : String) (observer : Observer) :
      Arises limit { o with bus := (o.bus.on event observer).2 }
  | off {o : Observatory} (before : Arises limit o) (event : String) (id : Nat) :
      Arises limit { o with bus := o.bus.off event id }
  | clear {o : Observatory} (before : Arises limit o) :
      Arises limit { o with bus := o.bus.clearEmitted }
  | emit {o o' : Observatory} (before : Arises limit o) {depth : Nat} {event : String}
      {payload : Value} (emitted : o.emitWithin depth event payload = some o') : Arises limit o'

/-- A step of the host that calls no observer leaves nothing to note. -/
theorem exists_traffic_of_step {limit : Nat} {history : List (Occurrence Observer)}
    (arises : Traffic.Arises limit ⟨o.bus, history, [], true⟩)
    (noted : o.calls.reverse = history.filterMap note?) {b : Bus Observer} {x : Occurrence Observer}
    (quiet : note? x = none)
    (step : Traffic.Step ⟨o.bus, history, [], true⟩ ⟨b, history ++ [x], [], true⟩) :
    ∃ history', Traffic.Arises limit ⟨b, history', [], true⟩ ∧
      o.calls.reverse = history'.filterMap note? := by
  refine ⟨history ++ [x], arises.tail step, ?_⟩
  rw [filterMap_concat, quiet, ← noted]
  exact (List.append_nil _).symm

/-- What observers do is one of the uses of a bus, in which all their calls are noted. -/
theorem Arises.exists_traffic {limit : Nat} (h : o.Arises limit) :
    ∃ history, Traffic.Arises limit ⟨o.bus, history, [], true⟩ ∧
      o.calls.reverse = history.filterMap note? := by
  induction h with
  | fresh => exact ⟨[], .refl, rfl⟩
  | on _ event observer ih =>
      obtain ⟨history, arises, noted⟩ := ih
      exact exists_traffic_of_step arises noted rfl (.on event observer)
  | off _ event id ih =>
      obtain ⟨history, arises, noted⟩ := ih
      exact exists_traffic_of_step arises noted rfl (.off event id)
  | clear _ ih =>
      obtain ⟨history, arises, noted⟩ := ih
      exact exists_traffic_of_step arises noted rfl .clear
  | emit _ emitted ih =>
      obtain ⟨history, arises, noted⟩ := ih
      obtain ⟨more, ran, noted'⟩ := follows_emitWithin emitted history []
      refine ⟨history ++ more, arises.trans ran, ?_⟩
      rw [noted', List.reverse_append, List.reverse_reverse, noted, List.filterMap_append]

end Observatory

/-! ### Order -/

/-- A bus is used in order: numbers are never given twice, an emission calls the listeners that were
subscribed when it began, ending a subscription takes that one away, and the last emissions are
recorded. -/
structure Traffic.Orderly (limit : Nat) (x : Traffic α) : Prop where
  numbers : (x.history.filterMap Occurrence.number?).Nodup
  /-- At any time an emission has made the first of its calls. -/
  calling : ∀ i event payload, x.history[i]? = some (.began event payload) →
    callsFrom i x.history <+: callsDue x.history i event payload
  /-- An emission that has ended has made all its calls. -/
  called : ∀ i event payload, x.history[i]? = some (.began event payload) →
    .finished i ∈ x.history → callsFrom i x.history = callsDue x.history i event payload
  /-- Every emission ends before the host gets control back. -/
  ends : ∀ i event payload, x.history[i]? = some (.began event payload) →
    x.underway = [] → .finished i ∈ x.history
  /-- No listener is called for the same subscription twice. -/
  once : ∀ i event, ((inForce event (x.history.take i)).map Subscription.id).Nodup
  off : ∀ event id e, (x.bus.off event id).listening e =
    if e = event then (x.bus.listening e).eraseP (fun s => s.id == id) else x.bus.listening e
  off_emitted : ∀ event id, (x.bus.off event id).emitted = x.bus.emitted
  emitted : x.bus.emitted = (sinceCleared x.history).rtake limit

/-- Where numbers are distinct, those that are not a given one are all but one. -/
theorem filter_id_eq_eraseP {l : List (Subscription α)} (distinct : (l.map Subscription.id).Nodup)
    (id : Nat) : l.filter (fun s => !(s.id == id)) = l.eraseP fun s => s.id == id := by
  induction l with
  | nil => rfl
  | cons s rest ih =>
      obtain ⟨apart, distinct⟩ := List.nodup_cons.mp distinct
      by_cases same : s.id = id
      · rw [List.filter_cons_of_neg (by simp [same]), List.eraseP_cons_of_pos (by simp [same]),
          List.filter_eq_self]
        intro t mem
        rw [Bool.not_eq_true', beq_eq_false_iff_ne]
        intro equal
        exact apart (List.mem_map.mpr ⟨t, mem, equal.trans same.symm⟩)
      · rw [List.filter_cons_of_pos (by simp [same]), List.eraseP_cons_of_neg (by simp [same]),
          ih distinct]

theorem Bus.listening_off_eraseP (b : Bus α) (event : String) (id : Nat)
    (distinct : ((b.listening event).map Subscription.id).Nodup) (e : String) :
    (b.off event id).listening e =
      if e = event then (b.listening e).eraseP (fun s => s.id == id) else b.listening e := by
  rw [Bus.listening_off]
  split
  · next same =>
      subst same
      rw [← filter_id_eq_eraseP distinct]
      apply List.filter_congr
      intro s mem
      rw [(List.mem_filter.mp mem).2, Bool.true_and]
  · next apart =>
      rw [List.filter_eq_self]
      intro s mem
      have at_ : s.event = e := beq_iff_eq.mp (List.mem_filter.mp mem).2
      simp [at_, apart]

theorem Traffic.Kept.orderly {limit : Nat} {x : Traffic α} (k : x.Kept limit) :
    x.Orderly limit := by
  have numbers : (x.history.filterMap Occurrence.number?).Nodup :=
    k.reflects.numbers.imp Nat.ne_of_lt
  have once (i : Nat) (event : String) :
      ((inForce event (x.history.take i)).map Subscription.id).Nodup := by
    have earlier := (List.take_sublist i x.history).filterMap Occurrence.number?
    exact ((numbers_inForce_sublist event _).trans earlier).nodup numbers
  constructor
  case numbers => exact numbers
  case calling =>
    intro i event payload begun
    obtain ⟨-, -, left, calls⟩ | ⟨-, calls⟩ := k.delivers.status begun
    · exact ⟨left, calls⟩
    · exact ⟨[], by rw [List.append_nil, calls]⟩
  case called =>
    intro i event payload begun finished
    obtain ⟨-, unfinished, -⟩ | ⟨-, calls⟩ := k.delivers.status begun
    · exact absurd finished unfinished
    · exact calls
  case ends =>
    intro i event payload begun idle
    obtain ⟨open_, -⟩ | ⟨finished, -⟩ := k.delivers.status begun
    · exact absurd idle open_
    · exact finished
  case once => exact once
  case off =>
    intro event id e
    apply Bus.listening_off_eraseP
    rw [k.reflects.listening, ← List.take_length (l := x.history)]
    exact once _ event
  case off_emitted =>
    intro event id
    rfl
  case emitted =>
    rw [← k.recordLimit]
    exact k.reflects.emitted

/-- Every use of a bus is in order, whatever its listeners do to it while they are called; and what
observers do is one of those uses, with the calls that they have noted. -/
theorem bus_traffic_orderly (limit : Nat) :
    (∀ {α : Type} (x : Traffic α), x.Arises limit → x.Orderly limit) ∧
      ∀ o : Observatory, o.Arises limit → ∃ history,
        Traffic.Arises limit ⟨o.bus, history, [], true⟩ ∧
          o.calls.reverse = history.filterMap Observatory.note? :=
  ⟨fun _ arises => arises.kept.orderly, fun _ arises => arises.exists_traffic⟩

/-- Three observers: the first ends the subscription of the second, which calls the third. -/
def gathering : Observatory where
  bus := ((((({ recordLimit := 1 } : Bus Observer).on "a"
    { label := "first", reaction := some (.off "a" 1) }).2.on "a"
    { label := "second", reaction := some (.emit "b" .null) }).2).on "b" { label := "third" }).2

/-- The second observer is called though its subscription has ended meanwhile, and the emission that
it makes is the last one. -/
theorem gathering_orderly : ∃ o history, gathering.Arises 1 ∧
    gathering.emitWithin 2 "a" (.bool true) = some o ∧
    o.calls.reverse = [("first", .bool true), ("second", .bool true), ("third", .null)] ∧
    o.bus.emitted = [("b", .null)] ∧ o.bus.listenerCount "a" = 1 ∧
    Traffic.Arises 1 ⟨o.bus, history, [], true⟩ ∧
    Traffic.Orderly 1 (⟨o.bus, history, [], true⟩ : Traffic Observer) := by
  have arises : gathering.Arises 1 := .on (.on (.on .fresh "a" _) "a" _) "b" _
  obtain ⟨o, emitted⟩ : ∃ o, gathering.emitWithin 2 "a" (.bool true) = some o := ⟨_, rfl⟩
  have seen : (gathering.emitWithin 2 "a" (.bool true)).map (fun o =>
      (o.calls.reverse, o.bus.emitted, o.bus.listenerCount "a")) =
      some ([("first", .bool true), ("second", .bool true), ("third", .null)], [("b", .null)], 1) :=
    rfl
  rw [emitted, Option.map_some, Option.some.injEq, Prod.mk.injEq, Prod.mk.injEq] at seen
  obtain ⟨orderly, observed⟩ := bus_traffic_orderly 1
  obtain ⟨history, used, -⟩ := observed o (.emit arises emitted)
  exact ⟨o, history, arises, emitted, seen.1, seen.2.1, seen.2.2, used, orderly _ used⟩

end HostScript
