import HostScript.Proofs.Evolution.Operations

/-!
# Calls of a host

A host uses an engine by calls, one after the other. Within a call an engine proceeds by
strides: moves, frames that open and close, and the beginning and the end of what the call
runs. A lasting property holds through strides of any kind, so it holds between the calls
and at every moment within them.
-/

namespace HostScript

/-- What a host can ask of an engine. -/
inductive EngineCall where
  | run (source : String)
  | execute (program : Program)
  | dispatch
  | fire (event : String) (payload : Value)
  | pump (ms : Nat)
  | cleanup

/-- What a host learns from a call. -/
inductive Answer where
  | result (r : Except Fault Value)
  /-- The number of handlers that ran. -/
  | count (ran : Nat)
  | nothing

/-- Carry out a call; there is no answer if it is cut off. -/
def EngineCall.perform (allowance : Nat) (m : Machine) : EngineCall → Option (Answer × Machine)
  | .run source => (m.run allowance source).map fun p => (.result p.1, p.2)
  | .execute program => (m.execute allowance program).map fun p => (.result p.1, p.2)
  | .dispatch => (m.dispatchPending allowance).map fun p => (.count p.1, p.2)
  | .fire event payload => (m.fire allowance event payload).map fun p => (.count p.1, p.2)
  | .pump ms => (m.pump allowance ms).map fun m => (.nothing, m)
  | .cleanup => some (.nothing, m.cleanup)

/-- Carry out a call as far as it goes. -/
def EngineCall.start (allowance : Nat) : EngineCall → Run Answer
  | .run source =>
    match Source.parse source with
    | .ok program => do
      let r ← Run.execute allowance program
      return .result r
    | .error f => do
      Run.change fun m => m.withState .errored
      return .result (.error f)
  | .execute program => do
    let r ← Run.execute allowance program
    return .result r
  | .dispatch => do
    let ran ← Run.dispatch allowance
    return .count ran
  | .fire event payload => do
    let ran ← Run.fire allowance event payload
    return .count ran
  | .pump ms => do
    Run.pump allowance ms
    return .nothing
  | .cleanup => do
    Run.change Machine.cleanup
    return .nothing

theorem Run.done?_bind_result {α β : Type} (x : Run α) (g : α → β) (m : Machine) :
    ((x >>= fun a => Run.result (g a)) m).done? = (x m).done?.map fun p => (g p.1, p.2) := by
  cases hx : x m with
  | done a m' => rw [Run.bind_done hx]; rfl
  | fault f m' => rw [Run.bind_fault hx]; rfl
  | cut why m' => rw [Run.bind_cut hx]; rfl

/-- A call that has an answer was carried out to its end. -/
theorem EngineCall.perform_eq (allowance : Nat) (call : EngineCall) (m : Machine) :
    call.perform allowance m = (call.start allowance m).done? := by
  cases call with
  | cleanup => rfl
  | execute program => exact (Run.done?_bind_result _ Answer.result m).symm
  | dispatch => exact (Run.done?_bind_result _ Answer.count m).symm
  | fire event payload => exact (Run.done?_bind_result _ Answer.count m).symm
  | pump ms =>
      rw [EngineCall.perform, Machine.pump, Option.map_map]
      exact (Run.done?_bind_result _ (fun _ => Answer.nothing) m).symm
  | run source =>
      simp only [EngineCall.perform, Machine.run_eq, EngineCall.start]
      cases Source.parse source with
      | ok program => exact (Run.done?_bind_result _ Answer.result m).symm
      | error f => rfl

/-- The least that an engine does within a call. -/
inductive Stride : Machine → Machine → Prop
  | move {names : Set String} {m m' : Machine} (step : Move names m m') : Stride m m'
  | opens {limit : Nat} {names : Set String} {m inside : Machine} {close : Machine → Machine}
      (opened : Frame limit names m inside close) : Stride m inside
  | closes {limit : Nat} {names : Set String} {m inside m' : Machine}
      {close : Machine → Machine} (opened : Frame limit names m inside close) :
      Stride m' (close m')
  | begins (m : Machine) : Stride m m.beginRun
  | ends (m : Machine) (state : RunState) : Stride m (m.endRun state)
  | clears (m : Machine) : Stride m m.clearStop
  | settles (m : Machine) (state : RunState) : Stride m (m.withState state)
  | enters (m : Machine) (h : Handler) (payload : Value) : Stride m (m.enterHandler h payload)
  | leaves (m : Machine) (scope : ScopeId) (callStack : List String) (clock : RunClock) :
      Stride m (m.leaveHandler scope callStack clock)

/-- A property that every stride keeps, and the cleanup of an engine. -/
structure Lasting (I : Machine → Prop) : Prop where
  stride : ∀ {m m' : Machine}, Stride m m' → I m → I m'
  cleanup : ∀ {m : Machine}, I m → I m.cleanup

section Lasting

variable {I : Machine → Prop} {m m' : Machine} {allowance : Nat}

theorem Lasting.steady (lasting : Lasting I) (limit : Nat) : Steady limit I where
  move := fun step h => lasting.stride (.move step) h
  opens := fun opened h => lasting.stride (.opens opened) h
  closes := fun opened h => lasting.stride (.closes opened) h

/-- A handler that is run directly keeps what its frame and its body keep. -/
theorem Lasting.runHandler (lasting : Lasting I) (allowance : Nat) (fired : Fired)
    (before : I m) :
    I (runHandler (servicesWithin allowance) fired m).machine := by
  have steady := lasting.steady maxHandlerNesting
  have services := servicesWithin_follow (le_refl maxHandlerNesting) allowance
  simp only [HostScript.runHandler]
  split
  · exact before
  · next h found =>
    split
    · exact before
    · have entered := lasting.stride (.enters m h fired.payload) before
      have body := steady.follows (execAll_follows services h.body _) entered
      have left := lasting.stride (.leaves _ m.engine.scope m.engine.callStack m.engine.clock) body
      split
      · next hb => rw [hb] at left; exact left
      · next hb => rw [hb] at left; exact left
      · next hb =>
        rw [hb] at left
        exact steady.evolves (evolves_report _ _ : Evolves _ ∅ _ _) left
      · next hb => rw [hb] at body; exact body

theorem Lasting.fireEach (lasting : Lasting I) (allowance : Nat) (payload : Value)
    (ids : List HandlerId) (ran : Nat) (before : I m) :
    I (Run.fireEach (servicesWithin allowance) payload ids ran m).machine := by
  induction ids generalizing ran m with
  | nil => exact before
  | cons id rest ih =>
      have handled := lasting.runHandler allowance ⟨id, payload⟩ before
      simp only [Run.fireEach]
      split
      · next hr => rw [hr] at handled; exact ih _ handled
      · next hr => rw [hr] at handled; exact ih _ handled
      · next hr => rw [hr] at handled; exact handled
      · next hr => rw [hr] at handled; exact handled

/-- What holds of the machine at the end of one computation after another. -/
theorem Outcome.machine_bind {α β : Type} {x : Run α} {next : α → Run β}
    (first : I (x m).machine) (then_ : ∀ a m', I m' → I (next a m').machine) :
    I ((x >>= next) m).machine := by
  cases ran : x m with
  | done a m' =>
      rw [ran] at first
      rw [Run.bind_done ran]
      exact then_ a m' first
  | fault f m' =>
      rw [ran] at first
      rw [Run.bind_fault ran]
      exact first
  | cut why m' =>
      rw [ran] at first
      rw [Run.bind_cut ran]
      exact first

/-- A lasting property holds wherever a call is left, finished or not. -/
theorem Lasting.start (lasting : Lasting I) (allowance : Nat) (call : EngineCall)
    (before : I m) : I (call.start allowance m).machine := by
  have steady := lasting.steady maxHandlerNesting
  have clears (m : Machine) (h : I m) : I m.clearStop := lasting.stride (.clears m) h
  have answered {α : Type} {x : Run α} {answer : α → Answer} (kept : I (x m).machine) :
      I ((x >>= fun a => Run.result (answer a)) m).machine :=
    Outcome.machine_bind kept fun _ _ kept => kept
  have executed (program : Program) : I (Run.execute allowance program m).machine := by
    apply steady.execute le_rfl
    · exact fun m state h => lasting.stride (.ends m state) h
    · exact lasting.stride (.begins m) before
  cases call with
  | execute program => exact answered (executed program)
  | run source =>
      simp only [EngineCall.start]
      cases Source.parse source with
      | ok program => exact answered (executed program)
      | error f => exact lasting.stride (.settles m .errored) before
  | dispatch => exact answered (dispatch_of_steady lasting.steady clears allowance before)
  | fire event payload =>
      apply answered
      apply Outcome.machine_bind before
      intro ids m₁ kept
      apply Outcome.machine_bind (lasting.fireEach allowance payload ids 0 kept)
      exact fun _ m₂ kept => clears m₂ kept
  | pump ms => exact answered (steady.pump le_rfl clears allowance ms before)
  | cleanup => exact lasting.cleanup before

/-- A lasting property holds after every call. -/
theorem Lasting.perform (lasting : Lasting I) {call : EngineCall} {answer : Answer}
    (h : call.perform allowance m = some (answer, m')) (before : I m) : I m' := by
  have kept := lasting.start allowance call before
  rw [EngineCall.perform_eq, Outcome.done?_eq_some_iff] at h
  rwa [h] at kept

end Lasting

end HostScript
