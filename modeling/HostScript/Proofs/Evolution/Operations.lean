import HostScript.Proofs.Evolution.Execution

/-!
# Operations and steady properties

What a host asks of an engine is an evolution between a beginning and an end of its own.
A steady property that the beginning and the end keep holds of the machine that an
operation ends with, and also of the machine at which it is cut off.
-/

namespace HostScript

section Operations

variable {limit : Nat} {names : Set String} {α : Type} {I : Machine → Prop} {m : Machine}

/-- A steady property holds wherever a computation ends that follows evolution. -/
theorem Steady.follows (steady : Steady limit I) {o : Outcome α}
    (h : o.Follows limit names m) (before : I m) : I o.machine := by
  cases o with
  | done a m' => exact steady.evolves h before
  | fault f m' => exact steady.evolves h before
  | cut why m' => exact steady.passes h before

/-- What holds at the end of an execution, from the beginning of the run on. -/
theorem Steady.execute (steady : Steady limit I) (bound : maxHandlerNesting ≤ limit)
    (ends : ∀ m state, I m → I (m.endRun state)) (allowance : Nat) (program : Program)
    (before : I m.beginRun) : I (Run.execute allowance program m).machine := by
  have services := servicesWithin_follow bound allowance
  have body := steady.follows (execAll_follows services program m.beginRun) before
  unfold Run.execute
  split
  · next hb => rw [hb] at body; exact ends _ _ body
  · next hb => rw [hb] at body; exact ends _ _ body
  · next hb => rw [hb] at body; exact ends _ _ body
  · next hb => rw [hb] at body; exact ends _ _ body
  · next hb => rw [hb] at body; exact body

theorem Steady.dispatch (steady : Steady limit I) (bound : maxHandlerNesting ≤ limit)
    (clears : ∀ m, I m → I m.clearStop) (allowance : Nat) (room : m.engine.handlerDepth < limit)
    (before : I m) : I (Run.dispatch allowance m).machine := by
  have services := servicesWithin_follow bound allowance
  have handled : Outcome.Follows limit ∅ m _ :=
    dispatchWithin_follows services allowance m.engine.limits.maxLoopIterations 0 room
  have batch := steady.follows handled before
  change I (Run.andThen (Run.dispatchWithin _ _ _ _) _ m).machine
  unfold Run.andThen
  split
  · next hb => rw [hb] at batch; exact clears _ batch
  · next hb => rw [hb] at batch; exact batch
  · next hb => rw [hb] at batch; exact batch

/-- A batch may begin while any number of handlers are active. -/
theorem dispatch_of_steady (steady : ∀ limit, Steady limit I) (clears : ∀ m, I m → I m.clearStop)
    (allowance : Nat) (before : I m) : I (Run.dispatch allowance m).machine := by
  -- One more handler has to fit within the limit.
  have room : m.engine.handlerDepth < max maxHandlerNesting (m.engine.handlerDepth + 1) := by
    omega
  exact (steady _).dispatch (Nat.le_max_left _ _) clears allowance room before

theorem Steady.pump (steady : Steady limit I) (bound : maxHandlerNesting ≤ limit)
    (clears : ∀ m, I m → I m.clearStop) (allowance ms : Nat) (before : I m) :
    I (Run.pump allowance ms m).machine := by
  have services := servicesWithin_follow bound allowance
  have handled : Outcome.Follows limit ∅ m _ :=
    services.suspend (.timer (m.world.now + ms)) m
  have waited := steady.follows handled before
  change I (Run.andThen (Services.suspend _ _) _ m).machine
  unfold Run.andThen
  split
  · next hb => rw [hb] at waited; exact clears _ waited
  · next hb => rw [hb] at waited; exact waited
  · next hb => rw [hb] at waited; exact waited

end Operations

end HostScript
