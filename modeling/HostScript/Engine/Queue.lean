/-! # Queues

A queue hands out its elements in the order in which they came. The view
`toList` lists them, first one first; `toList_push`, `pop?_eq_none_iff` and
`toList_of_pop?` say what each operation does to it. -/

namespace HostScript

/-- A queue: the elements at its front in order, and those that came later with the newest
first. -/
structure Queue (α : Type) where
  front : List α := []
  back : List α := []

namespace Queue

variable {α : Type}

/-- The elements, first one first. -/
def toList (q : Queue α) : List α := q.front ++ q.back.reverse

/-- Add an element at the end. -/
def push (q : Queue α) (a : α) : Queue α := { q with back := a :: q.back }

/-- Take the first element. -/
def pop? (q : Queue α) : Option (α × Queue α) :=
  match q.front with
  | a :: front => some (a, { q with front })
  | [] =>
    match q.back.reverse with
    | a :: front => some (a, { front })
    | [] => none

/-- There is no element. -/
def isEmpty (q : Queue α) : Bool := q.front.isEmpty && q.back.isEmpty

@[simp] theorem toList_empty : ({} : Queue α).toList = [] := rfl

@[simp] theorem toList_push (q : Queue α) (a : α) : (q.push a).toList = q.toList ++ [a] := by
  simp [toList, push]

theorem toList_of_pop? {q r : Queue α} {a : α} (h : q.pop? = some (a, r)) :
    q.toList = a :: r.toList := by
  obtain ⟨front, back⟩ := q
  cases front with
  | cons b front =>
    simp only [pop?, Option.some.injEq, Prod.mk.injEq] at h
    obtain ⟨rfl, rfl⟩ := h
    rfl
  | nil =>
    simp only [pop?] at h
    split at h
    · next b front hb =>
      simp only [Option.some.injEq, Prod.mk.injEq] at h
      obtain ⟨rfl, rfl⟩ := h
      simp [toList, hb]
    · cases h

theorem pop?_eq_none_iff (q : Queue α) : q.pop? = none ↔ q.toList = [] := by
  obtain ⟨front, back⟩ := q
  cases front with
  | cons b front => simp [pop?, toList]
  | nil =>
    simp only [pop?, toList, List.nil_append]
    split
    · next b front hb => simp [hb]
    · next hb => simp [hb]

end Queue

end HostScript
