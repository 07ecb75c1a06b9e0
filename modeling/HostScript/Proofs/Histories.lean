import HostScript.Engine.Bus
import Mathlib.Data.List.DropRight

/-!
# The history of a bus

What has happened on a bus says who is subscribed to an event: those whose subscription nothing has
ended since. It says which emissions have begun since the recorded ones were forgotten. A bus keeps
the subscriptions in force, in their order, and the last of those emissions.

## Implementation notes

A history does not mention how a bus keeps its listeners. An emission is known by its place in the
history, so that calls can tell which emission makes them.
-/

namespace HostScript

variable {α : Type}

/-! ### Histories -/

/-- What happens on a bus. An emission is known by its place in the history. -/
inductive Occurrence (α : Type) where
  | subscribed (event : String) (id : Nat) (listener : α)
  | ended (event : String) (id : Nat)
  | cleared
  | began (event : String) (payload : Value)
  | called (place : Nat) (listener : α) (payload : Value)
  | finished (place : Nat)

namespace Occurrence

/-- The number that a listener was given. -/
def number? : Occurrence α → Option Nat
  | subscribed _ id _ => some id
  | _ => none

/-- The subscription to an event that begins. -/
def subscription? (event : String) : Occurrence α → Option (Subscription α)
  | subscribed e id l => if e = event then some ⟨e, id, l⟩ else none
  | _ => none

/-- A subscription is ended. -/
def ends (s : Subscription α) : Occurrence α → Bool
  | ended event id => s.event == event && s.id == id
  | _ => false

/-- The recorded emissions are forgotten. -/
def isCleared : Occurrence α → Bool
  | cleared => true
  | _ => false

/-- The emission that begins. -/
def emission? : Occurrence α → Option (String × Value)
  | began event payload => some (event, payload)
  | _ => none

/-- The listener that the emission at a place calls, and the payload. -/
def callFrom? (place : Nat) : Occurrence α → Option (α × Value)
  | called i l payload => if i = place then some (l, payload) else none
  | _ => none

/-- The emission that an occurrence is part of, after its beginning. -/
def place? : Occurrence α → Option Nat
  | called i _ _ => some i
  | finished i => some i
  | _ => none

end Occurrence

/-- The subscriptions to an event that no later occurrence ends, in their order. -/
def inForce (event : String) : List (Occurrence α) → List (Subscription α)
  | [] => []
  | o :: later =>
    ((o.subscription? event).toList.filter fun s => !later.any (Occurrence.ends s)) ++
      inForce event later

/-- The calls that the emission at a place has made. -/
def callsFrom (place : Nat) (history : List (Occurrence α)) : List (α × Value) :=
  history.filterMap (Occurrence.callFrom? place)

/-- The calls that the emission at a place has to make: of the listeners that were subscribed when
it began, in their order. -/
def callsDue (history : List (Occurrence α)) (place : Nat) (event : String) (payload : Value) :
    List (α × Value) :=
  (inForce event (history.take place)).map fun s => (s.listener, payload)

/-- The emissions that have begun since the recorded ones were forgotten last. -/
def sinceCleared (history : List (Occurrence α)) : List (String × Value) :=
  (history.rtakeWhile fun o => !o.isCleared).filterMap Occurrence.emission?

section Histories

/-- One more occurrence ends a subscription that was in force, begins one, or does neither. -/
theorem inForce_concat (event : String) (h : List (Occurrence α)) (o : Occurrence α) :
    inForce event (h ++ [o]) =
      (inForce event h).filter (fun s => !o.ends s) ++ (o.subscription? event).toList := by
  induction h with
  | nil => simp [inForce]
  | cons a later ih =>
      rw [List.cons_append, inForce, inForce, ih, List.filter_append, List.append_assoc,
        List.filter_filter]
      congr 2
      funext s
      simp [Bool.and_comm]

theorem filterMap_concat {β : Type} (f : Occurrence α → Option β) (h : List (Occurrence α))
    (o : Occurrence α) : (h ++ [o]).filterMap f = h.filterMap f ++ (f o).toList := by
  cases found : f o with
  | none => simp [found]
  | some b => simp [found]

theorem callsFrom_concat (place : Nat) (h : List (Occurrence α)) (o : Occurrence α) :
    callsFrom place (h ++ [o]) = callsFrom place h ++ (o.callFrom? place).toList :=
  filterMap_concat _ h o

theorem sinceCleared_concat (h : List (Occurrence α)) (o : Occurrence α) :
    sinceCleared (h ++ [o]) =
      if o.isCleared then [] else sinceCleared h ++ o.emission?.toList := by
  rw [sinceCleared, List.rtakeWhile_concat]
  cases cleared : o.isCleared with
  | true => rfl
  | false => exact filterMap_concat _ _ o

/-- The numbers of subscriptions in force have been given out, in the same order. -/
theorem numbers_inForce_sublist (event : String) (h : List (Occurrence α)) :
    ((inForce event h).map Subscription.id).Sublist (h.filterMap Occurrence.number?) := by
  induction h with
  | nil => exact List.Sublist.refl _
  | cons o later ih =>
      have begins :
          ((o.subscription? event).toList.map Subscription.id).Sublist o.number?.toList := by
        cases o with
        | subscribed e id l =>
            rw [Occurrence.subscription?, Occurrence.number?]
            split
            · exact List.Sublist.refl _
            · exact List.nil_sublist _
        | _ => exact List.Sublist.refl _
      have numbers : (o :: later).filterMap Occurrence.number? =
          o.number?.toList ++ later.filterMap Occurrence.number? := by
        cases found : o.number? with
        | none => simp [found]
        | some n => simp [found]
      rw [inForce, List.map_append, numbers]
      exact ((List.filter_sublist.map _).trans begins).append ih

end Histories

/-! ### What a bus keeps of its history -/

/-- A bus keeps the subscriptions in force and the last emissions, and has given out the numbers
below its next one. -/
structure Bus.Reflects (b : Bus α) (h : List (Occurrence α)) : Prop where
  listening : ∀ event, b.listening event = inForce event h
  numbers : (h.filterMap Occurrence.number?).Pairwise (· < ·)
  below : ∀ n ∈ h.filterMap Occurrence.number?, n < b.nextId
  emitted : b.emitted = (sinceCleared h).rtake b.recordLimit

/-- Recording keeps the last emissions. -/
theorem Bus.recorded_rtake (limit : Nat) (l : List (String × Value)) (e : String × Value) :
    Bus.recorded limit (l.rtake limit) e = (l ++ [e]).rtake limit := by
  cases limit with
  | zero => simp [Bus.recorded]
  | succ n =>
      rw [Bus.recorded, if_neg n.succ_ne_zero, List.rtake_concat_succ]
      congr 1
      simp only [List.rtake, List.length_drop]
      split
      · next full =>
          rw [List.drop_drop]
          congr 1
          omega
      · next room =>
          rw [show l.length - (n + 1) = 0 by omega, show l.length - n = 0 by omega]

section Reflecting

variable {b : Bus α} {h : List (Occurrence α)}

/-- What an occurrence does to the bus. -/
def Bus.after (b : Bus α) : Occurrence α → Bus α
  | .subscribed event _ listener => (b.on event listener).2
  | .ended event id => b.off event id
  | .cleared => b.clearEmitted
  | .began event payload => (b.emit event payload).2
  | .called _ _ _ => b
  | .finished _ => b

/-- Listeners are given the next number. -/
def Bus.Numbers (b : Bus α) (o : Occurrence α) : Prop := ∀ n, o.number? = some n → n = b.nextId

theorem Bus.numbers_of_none {o : Occurrence α} (given : o.number? = none) : b.Numbers o := by
  intro n number
  cases given.symm.trans number

theorem Bus.listening_after {o : Occurrence α} (numbered : b.Numbers o) (event : String) :
    (b.after o).listening event =
      (b.listening event).filter (fun s => !o.ends s) ++ (o.subscription? event).toList := by
  cases o with
  | subscribed e id l =>
      cases numbered id rfl
      rw [Bus.after, Bus.listening_on]
      simp [Occurrence.ends, Occurrence.subscription?, apply_ite]
  | ended e id =>
      rw [Bus.after, Bus.listening_off]
      simp [Occurrence.ends, Occurrence.subscription?]
  | _ => simp [Bus.after, Bus.listening, Bus.clearEmitted, Bus.emit, Occurrence.ends,
      Occurrence.subscription?]

theorem Bus.nextId_after (b : Bus α) (o : Occurrence α) :
    (b.after o).nextId = b.nextId + o.number?.toList.length := by
  cases o <;> rfl

theorem Bus.recordLimit_after (b : Bus α) (o : Occurrence α) :
    (b.after o).recordLimit = b.recordLimit := by
  cases o <;> rfl

/-- The bus records as the history goes on. -/
theorem Bus.emitted_after {l : List (String × Value)} (recorded : b.emitted = l.rtake b.recordLimit)
    (o : Occurrence α) : (b.after o).emitted =
      (if o.isCleared then [] else l ++ o.emission?.toList).rtake b.recordLimit := by
  cases o with
  | cleared => simp [Bus.after, Bus.clearEmitted, Occurrence.isCleared]
  | began event payload =>
      rw [Bus.after, Bus.emit, recorded]
      exact Bus.recorded_rtake _ _ _
  | _ =>
      simpa [Bus.after, Bus.on, Bus.off, Occurrence.isCleared, Occurrence.emission?] using recorded

theorem Bus.Reflects.after (r : b.Reflects h) (o : Occurrence α) (numbered : b.Numbers o) :
    (b.after o).Reflects (h ++ [o]) where
  listening event := by
    rw [Bus.listening_after numbered, r.listening, inForce_concat]
  numbers := by
    rw [filterMap_concat]
    refine List.pairwise_append.mpr ⟨r.numbers, ?_, ?_⟩
    · cases o.number? <;> simp
    · intro n given m new
      rw [numbered m (Option.mem_toList.mp new)]
      exact r.below n given
  below n given := by
    rw [filterMap_concat, List.mem_append] at given
    rw [Bus.nextId_after]
    obtain old | new := given
    · exact Nat.lt_add_right _ (r.below n old)
    · have found : o.number? = some n := Option.mem_toList.mp new
      rw [found, numbered n found]
      exact Nat.lt_succ_self _
  emitted := by
    rw [Bus.recordLimit_after, sinceCleared_concat]
    exact Bus.emitted_after r.emitted o

end Reflecting

end HostScript
