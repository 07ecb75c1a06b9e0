import HostScript.Proofs.Sessions

/-!
# The budget of a frame

Each frame is charged for the time since it began, less the time of its suspensions. The
engine has one clock only, which handlers take over while a frame is suspended, and which is
set forward when the frame goes on. At every check of the time it shows exactly what the frame
that runs is to be charged for, whatever other frames did meanwhile.

The charged time does not fall. So a frame that has failed a check fails all later ones, and
since every statement and every round of a loop begins with a check, none of them begins in
that frame any more, wherever the failure is caught.

## Implementation notes

Moments belong to the same frame if the frame that runs after them has the same number. Times
are added and not subtracted where that says the same: a subtraction of natural numbers would
hide a clock that was set forward too far.
-/

namespace HostScript

/-- The number of the frame that runs after some moments. -/
def currentFrame (moments : List Moment) : Option Nat :=
  (framesIn moments).head?.map OpenFrame.number

section Budget

variable {limits : Limits} {earlier later : List Moment} {rest : List OpenFrame}
  {f g : OpenFrame} {x y : Moment} {now elapsed : Nat} {passed : Bool}

/-- A check is made in a frame that is not suspended, and finds what is to be charged. -/
theorem Proper.of_checked (h : Proper limits (x :: earlier))
    (step : x.step = .checked now elapsed passed) :
    ∃ f rest, framesIn earlier = f :: rest ∧
      framesIn (x :: earlier) = { f with charged := elapsed } :: rest ∧ f.asleep = none ∧
      f.begun + f.away + elapsed = now ∧ f.charged ≤ elapsed ∧
      passed = decide (elapsed ≤ limits.timeout) := by
  have fits := (h x earlier List.suffix_rfl).1
  rw [framesIn, step]
  rw [step] at fits
  generalize framesIn earlier = frames at fits
  cases fits with
  | begins begins => cases begins
  | @checked f rest _ _ awake exact grown =>
      exact ⟨f, rest, rfl, rfl, awake, exact, grown, rfl⟩

/-- A check fails only when more is charged than the limit. -/
theorem Proper.timeout_lt (h : Proper limits (y :: (later ++ x :: earlier)))
    (step : x.step = .checked now elapsed false) : limits.timeout < elapsed := by
  have suffix : x :: earlier <:+ y :: (later ++ x :: earlier) :=
    (List.suffix_append _ _).trans (List.suffix_cons _ _)
  obtain ⟨-, -, -, -, -, -, -, failed⟩ := (h.suffix suffix).of_checked step
  simpa using failed.symm

/-- Something begins only in a frame that had time left at its last check. -/
theorem Proper.of_begins (h : Proper limits (x :: earlier)) (begins : x.step.begins = true) :
    ∃ f rest, framesIn earlier = f :: rest ∧ framesIn (x :: earlier) = f :: rest ∧
      f.charged ≤ limits.timeout := by
  have fits := (h x earlier List.suffix_rfl).1
  rw [framesIn]
  generalize framesIn earlier = frames at fits
  cases hs : x.step with
  | statement | round =>
      rw [hs] at fits
      cases fits with
      | @begins f rest _ begins awake inTime => exact ⟨f, rest, rfl, rfl, inTime⟩
  | _ => rw [hs] at begins; cases begins

/-- A frame begins with nothing charged, while all frames around it are suspended. -/
theorem Proper.of_entered {fired : Option Fired} (h : Proper limits (x :: earlier))
    (step : x.step = .entered now fired) :
    x.registers.clock.elapsed now = 0 ∧ ∀ f ∈ framesIn earlier, f.asleep.isSome = true := by
  obtain ⟨fits, shows⟩ := h x earlier List.suffix_rfl
  have clock := shows.clock
  rw [framesIn, step] at clock
  constructor
  · rw [clock]
    exact Nat.sub_self now
  · rw [step] at fits
    generalize framesIn earlier = frames at fits
    cases fits with
    | begins begins => cases begins
    | topLevel => exact List.forall_mem_nil _
    | handler _ _ suspended => exact suspended

/-- When a frame goes on, the clock shows what it showed when the frame was suspended. -/
theorem Proper.of_resumed (h : Proper limits (x :: earlier)) (step : x.step = .resumed now)
    (open_ : framesIn earlier = f :: rest) :
    ∃ since, f.asleep = some since ∧ x.registers.clock.elapsed now = f.clock.elapsed since := by
  obtain ⟨fits, shows⟩ := h x earlier List.suffix_rfl
  have clock := shows.clock
  rw [framesIn, step, open_] at clock
  rw [step, open_] at fits
  cases fits with
  | begins begins => cases begins
  | resumed _ asleep =>
      obtain ⟨since, past, suspended⟩ := asleep f rfl
      refine ⟨since, suspended, ?_⟩
      rw [clock]
      simp only [Step.reshape, List.modifyHead_cons, List.head?_cons, Option.map_some,
        Option.getD_some, OpenFrame.clock, OpenFrame.wake, suspended, RunClock.started,
        RunClock.elapsed]
      omega

/-- What a check found charged to a frame is not more than what is charged to it later. -/
theorem Proper.elapsed_le (h : Proper limits (later ++ x :: earlier))
    (step : x.step = .checked now elapsed passed)
    (open_ : framesIn (later ++ x :: earlier) = g :: rest)
    (same : currentFrame (x :: earlier) = some g.number) : elapsed ≤ g.charged := by
  obtain ⟨f, outer, -, checked, -⟩ := (h.suffix (List.suffix_append _ _)).of_checked step
  obtain ⟨sorted, past⟩ := numbers_framesIn (x :: earlier)
  rw [checked] at sorted past
  rw [currentFrame, checked] at same
  have number : f.number = g.number := by simpa using same
  have begun : g.number < (x :: earlier).length :=
    number ▸ past { f with charged := elapsed } List.mem_cons_self
  refine h.charged_le begun ?_ g (open_ ▸ List.mem_cons_self) rfl
  -- No other frame has the number of the frame that was checked.
  rw [checked]
  rintro k (_ | ⟨_, mem⟩) equal
  · exact le_rfl
  · have less := (List.pairwise_cons.mp sorted).1 _ (List.mem_map_of_mem mem)
    dsimp only at less
    omega

/-- A later check of the same frame finds as much charged. -/
theorem Proper.elapsed_mono {now' elapsed' : Nat} {passed' : Bool}
    (h : Proper limits (y :: (later ++ x :: earlier)))
    (step : x.step = .checked now elapsed passed) (step' : y.step = .checked now' elapsed' passed')
    (same : currentFrame (y :: (later ++ x :: earlier)) = currentFrame (x :: earlier)) :
    elapsed ≤ elapsed' := by
  obtain ⟨g, rest, open_, checked, -, -, grown, -⟩ := h.of_checked step'
  rw [currentFrame, checked] at same
  have before := (h.suffix (List.suffix_cons _ _)).elapsed_le step open_ same.symm
  exact before.trans grown

/-- Nothing begins in a frame after a check that it failed. -/
theorem Proper.begins_eq_false (h : Proper limits (y :: (later ++ x :: earlier)))
    (step : x.step = .checked now elapsed false)
    (same : currentFrame (y :: (later ++ x :: earlier)) = currentFrame (x :: earlier)) :
    y.step.begins = false := by
  by_contra begins
  obtain ⟨g, rest, open_, after, inTime⟩ := h.of_begins (by simpa using begins)
  rw [currentFrame, after] at same
  have charged := (h.suffix (List.suffix_cons _ _)).elapsed_le step open_ same.symm
  have less : limits.timeout < limits.timeout := calc
    limits.timeout < elapsed := h.timeout_lt step
    _ ≤ g.charged := charged
    _ ≤ limits.timeout := inTime
  exact less.false

/-- No check is passed in a frame after one that it failed. -/
theorem Proper.not_passed {now' elapsed' : Nat} (h : Proper limits (y :: (later ++ x :: earlier)))
    (step : x.step = .checked now elapsed false)
    (same : currentFrame (y :: (later ++ x :: earlier)) = currentFrame (x :: earlier)) :
    y.step ≠ .checked now' elapsed' true := by
  intro step'
  obtain ⟨-, -, -, -, -, -, -, passed⟩ := h.of_checked step'
  have inTime : elapsed' ≤ limits.timeout := by simpa using passed.symm
  have less : limits.timeout < limits.timeout := calc
    limits.timeout < elapsed := h.timeout_lt step
    _ ≤ elapsed' := h.elapsed_mono step step' same
    _ ≤ limits.timeout := inTime
  exact less.false

end Budget

/-- At every check of the time in a call of the host, the clock shows the time since the frame
that runs has begun, less the time of all its suspensions that have ended; this frame is not
suspended, and all other open frames are. Frames begin with nothing charged, going on after a
suspension changes nothing of what is charged, and what is charged to a frame never falls from
one check to a later one. -/
theorem budget_accounted {m : Machine} (idle : Idle m) (allowance : Nat) (call : EngineCall) :
    ∃ past during, m.engine.journal = some past ∧
      (call.start allowance m).machine.engine.journal = some (during ++ past) ∧
      (∀ x earlier, x :: earlier <:+ during →
        (∀ now elapsed passed, x.step = .checked now elapsed passed →
          x.registers.clock.elapsed now = elapsed ∧
          ∃ f rest, framesIn earlier = f :: rest ∧ f.asleep = none ∧
            (∀ g ∈ rest, g.asleep.isSome = true) ∧ f.begun + f.away + elapsed = now) ∧
        (∀ now fired, x.step = .entered now fired → x.registers.clock.elapsed now = 0 ∧
          ∀ f ∈ framesIn earlier, f.asleep.isSome = true) ∧
        ∀ now, x.step = .resumed now → ∀ f rest, framesIn earlier = f :: rest →
          ∃ since, f.asleep = some since ∧
            x.registers.clock.elapsed now = f.clock.elapsed since) ∧
      ∀ x y earlier later, y :: (later ++ x :: earlier) <:+ during →
        currentFrame (y :: (later ++ x :: earlier)) = currentFrame (x :: earlier) →
          ∀ now elapsed passed now' elapsed' passed', x.step = .checked now elapsed passed →
            y.step = .checked now' elapsed' passed' → elapsed ≤ elapsed' := by
  obtain ⟨past, during, journal, written, -, proper⟩ := idle.exists_moments allowance call
  refine ⟨past, during, journal, written, ?_, ?_⟩
  · intro x earlier suffix
    have still := proper.suffix suffix
    refine ⟨?_, fun now fired => still.of_entered, fun now step f rest => still.of_resumed step⟩
    intro now elapsed passed step
    obtain ⟨f, rest, open_, checked, awake, exact, -⟩ := still.of_checked step
    have bounded := (still.suffix (List.suffix_cons _ _)).bounded
    rw [open_] at bounded
    refine ⟨?_, f, rest, open_, awake, bounded.suspended, exact⟩
    have clock := (still x earlier List.suffix_rfl).2.clock
    rw [checked] at clock
    rw [clock]
    simp only [List.head?_cons, Option.map_some, Option.getD_some, OpenFrame.clock,
      RunClock.started, RunClock.elapsed]
    omega
  · intro x y earlier later suffix same now elapsed passed now' elapsed' passed' step step'
    exact (proper.suffix suffix).elapsed_mono step step' same

/-- Host functions that use five milliseconds, and that answer after three and after twenty. -/
def pacingWorld : World where
  functions :=
    [{ name := "work", answer := fun _ => { acts := [.spend 5], result := .ok (.value .null) } },
      { name := "nap", answer := fun _ => { delay := some 3, result := .ok (.value .null) } },
      { name := "rest", answer := fun _ => { delay := some 20, result := .ok (.value .null) } }]

/-- A handler that works, naps and works again while the top level rests. -/
def pacingProgram : Program :=
  [.on {} (.lit {} (.text "a"))
      [.expr {} (.call {} "work" []), .expr {} (.call {} "nap" []), .expr {} (.call {} "work" [])],
    .host {} (.emit (.lit {} (.text "a")) none), .expr {} (.call {} "work" []),
    .expr {} (.call {} "rest" []), .expr {} (.lit {} .null)]

/-- The last check of the handler, eight milliseconds after it began, finds five charged; and so
does the last check of the top level, after twenty-five. -/
theorem pacingProgram_budget :
    let m : Machine := .new 0 {} pacingWorld
    Idle m ∧ ∃ during,
      ((EngineCall.execute pacingProgram).start 9 m).machine.engine.journal = some during ∧
      (during.any fun x => x.step = .checked 13 5 true) = true ∧
      (during.any fun x => x.step = .checked 25 5 true) = true ∧
      ∀ x earlier, x :: earlier <:+ during → ∀ now elapsed passed,
        x.step = .checked now elapsed passed →
          ∃ f rest, framesIn earlier = f :: rest ∧ f.begun + f.away + elapsed = now := by
  intro m
  have idle : Idle m := .new 0 {} pacingWorld
  have checks : ((EngineCall.execute pacingProgram).start 9 m).machine.engine.journal.all
      (fun during => (during.any fun x => x.step = .checked 13 5 true) &&
        during.any fun x => x.step = .checked 25 5 true) = true := by decide +kernel
  obtain ⟨past, during, journal, written, each, -⟩ :=
    budget_accounted idle 9 (.execute pacingProgram)
  have start : past = [] := (Option.some.inj journal).symm
  rw [start, List.append_nil] at written
  rw [written, Option.all_some, Bool.and_eq_true] at checks
  refine ⟨idle, during, written, checks.1, checks.2, ?_⟩
  intro x earlier suffix now elapsed passed step
  obtain ⟨-, f, rest, open_, -, -, exact⟩ := (each x earlier suffix).1 now elapsed passed step
  exact ⟨f, rest, open_, exact⟩

/-- After a check of the time that a frame has failed, no statement and no round of a loop
begins in that frame, and no check of it is passed, in whatever attempts, calls and loops the
failure is caught. A round of a `while` loop begins with its test. -/
theorem timeout_final {m : Machine} (idle : Idle m) (allowance : Nat) (call : EngineCall) :
    ∃ past during, m.engine.journal = some past ∧
      (call.start allowance m).machine.engine.journal = some (during ++ past) ∧
      ∀ x y earlier later, y :: (later ++ x :: earlier) <:+ during →
        currentFrame (y :: (later ++ x :: earlier)) = currentFrame (x :: earlier) →
          ∀ now elapsed, x.step = .checked now elapsed false →
            y.step.begins = false ∧ ∀ now' elapsed', y.step ≠ .checked now' elapsed' true := by
  obtain ⟨past, during, journal, written, -, proper⟩ := idle.exists_moments allowance call
  refine ⟨past, during, journal, written, ?_⟩
  intro x y earlier later suffix same now elapsed step
  have still := proper.suffix suffix
  exact ⟨still.begins_eq_false step same, fun now' elapsed' => still.not_passed step same⟩

/-- Work in an attempt, in what catches its failure, and after both. -/
def overdueProgram : Program :=
  [.attempt {} [.expr {} (.call {} "work" []), .expr {} (.call {} "work" [])] "e"
      [.expr {} (.call {} "work" [])],
    .expr {} (.call {} "work" [])]

/-- With a budget of four milliseconds the work is done once: the next check fails, and nothing
begins after it. -/
theorem overdueProgram_final :
    let m : Machine := .new 0 { timeout := 4 } pacingWorld
    Idle m ∧ ∃ during,
      ((EngineCall.execute overdueProgram).start 2 m).machine.engine.journal = some during ∧
      (during.any fun x => x.step = .checked 5 5 false) = true ∧
      ∀ x y earlier later, y :: (later ++ x :: earlier) <:+ during →
        currentFrame (y :: (later ++ x :: earlier)) = currentFrame (x :: earlier) →
          x.step = .checked 5 5 false → y.step.begins = false := by
  intro m
  have idle : Idle m := .new 0 _ pacingWorld
  have failed : ((EngineCall.execute overdueProgram).start 2 m).machine.engine.journal.all
      (fun during => during.any fun x => x.step = .checked 5 5 false) = true := by decide +kernel
  obtain ⟨past, during, journal, written, final⟩ := timeout_final idle 2 (.execute overdueProgram)
  have start : past = [] := (Option.some.inj journal).symm
  rw [start, List.append_nil] at written
  rw [written, Option.all_some] at failed
  refine ⟨idle, during, written, failed, ?_⟩
  intro x y earlier later suffix same step
  exact (final x y earlier later suffix same 5 5 step).1

end HostScript
