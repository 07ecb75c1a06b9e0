import HostScript.Proofs.Sessions

/-!
# The depth of calls

At every moment the call stack of an engine lists the functions whose calls are active in the
frame that runs, and its handler depth counts the handlers that are active. Both are bounded:
a frame has no more active calls than the limit says, and no more than eight handlers nest, so
that all frames together have at most nine times as many calls. A call beyond the limit is
refused, and the fault names the calls that were active in the frame, wherever it is seen.
-/

namespace HostScript

/-- The registers and the frames that are open agree about calls and handlers, within the
limits. -/
structure Registers.CountsCalls (limits : Limits) (r : Registers) (frames : List OpenFrame) :
    Prop where
  current : r.callStack.reverse = (frames.head?.map OpenFrame.activeCalls).getD []
  each : ∀ f ∈ frames, f.activeCalls.length ≤ limits.maxRecursionDepth
  handlers : r.handlerDepth = frames.countP OpenFrame.isHandler
  nesting : r.handlerDepth ≤ 8
  total : (frames.map fun f => f.activeCalls.length).sum ≤ 9 * limits.maxRecursionDepth

section CallDepth

variable {limits : Limits} {past during earlier : List Moment} {rest : List OpenFrame}
  {f : OpenFrame} {x : Moment} {m m' : Machine}

theorem Proper.countsCalls (h : Proper limits during) {r : Registers}
    (shows : r.Show (framesIn during)) : r.CountsCalls limits (framesIn during) := by
  have bounded := h.bounded
  refine ⟨?_, ?_, shows.handlerDepth, ?_, ?_⟩
  · rw [shows.callStack]
    cases framesIn during with
    | nil => rfl
    | cons f rest => rfl
  · intro f mem
    rw [OpenFrame.activeCalls, List.length_reverse]
    exact bounded.calls f mem
  · rw [shows.handlerDepth]
    exact bounded.handlers
  · simp only [OpenFrame.activeCalls, List.length_reverse]
    exact bounded.sum_calls_le

/-- A call is made in a frame with room for it, and refused in a frame without. -/
theorem Proper.room_of_step (h : Proper limits (x :: earlier)) :
    (∀ name, x.step = .called name → ∃ f rest, framesIn earlier = f :: rest ∧
      f.activeCalls.length < limits.maxRecursionDepth) ∧
    ∀ name, x.step = .refused name → ∃ f rest, framesIn earlier = f :: rest ∧
      f.activeCalls.length = limits.maxRecursionDepth := by
  have fits := (h x earlier List.suffix_rfl).1
  constructor
  · intro name step
    rw [step] at fits
    generalize framesIn earlier = frames at fits
    cases fits with
    | begins begins => cases begins
    | @called f rest _ awake room =>
        exact ⟨f, rest, rfl, by rwa [OpenFrame.activeCalls, List.length_reverse]⟩
  · intro name step
    rw [step] at fits
    generalize framesIn earlier = frames at fits
    cases fits with
    | begins begins => cases begins
    | @refused f rest _ awake full =>
        exact ⟨f, rest, rfl, by rwa [OpenFrame.activeCalls, List.length_reverse]⟩

/-- The last thing that is written by a call that was made is that it has returned. -/
theorem journal_of_callUser {sv : Services} {fn : UserFunction} {args : List Value} {e : Fault}
    (room : m.engine.limits.allowsCall m.engine.callStack.length = true)
    (h : callUser sv fn args m = .fault e m') :
    ∃ (m₁ : Machine) (registers : Registers),
      m'.engine.journal = m₁.engine.journal.map (⟨.returned, registers⟩ :: ·) := by
  rw [callUser_eq sv args room] at h
  simp only [Bind.bind, Run.andThen, Run.ensuring] at h
  cases hb : Run.inChildOf fn.closure (bindParams fn.params args []) (execAll sv fn.body)
      (m.pushCall fn.name) with
  | done signal m₁ => rw [hb] at h; cases h
  | cut why m₁ => rw [hb] at h; cases h
  | fault e₁ m₁ =>
      rw [hb] at h
      cases h
      obtain ⟨registers, written⟩ := m₁.journal_popCall
      exact ⟨m₁, registers, written⟩

/-- A call is refused at once exactly if the frame has as many active calls as it may have, and
the fault names them. -/
theorem Machine.Framed.callUser_eq_refusal_iff (framed : m.Framed limits past (f :: rest))
    (sv : Services) (fn : UserFunction) (args : List Value) :
    callUser sv fn args m = .fault (.recursion limits.maxRecursionDepth f.activeCalls)
        (m.record (.refused fn.name)) ↔
      f.activeCalls.length = limits.maxRecursionDepth := by
  have active : m.engine.callStack = f.calls := framed.shows.callStack
  rw [OpenFrame.activeCalls, List.length_reverse]
  constructor
  · intro refused
    by_contra other
    have most := framed.bounded.calls f List.mem_cons_self
    have room : m.engine.limits.allowsCall m.engine.callStack.length = true := by
      rw [framed.fixed, active]
      exact decide_eq_true (by omega)
    -- The journal would end with the refusal and with the return of the same call.
    obtain ⟨m₁, registers, returned⟩ := journal_of_callUser room refused
    obtain ⟨during, journal, -⟩ := framed.journal
    simp only [Machine.record, Engine.record_eq, journal, Option.map_some] at returned
    cases hj : m₁.engine.journal with
    | none => rw [hj] at returned; cases returned
    | some moments => rw [hj] at returned; cases returned
  · intro full
    have refused : m.engine.limits.allowsCall m.engine.callStack.length = false := by
      rw [framed.fixed, active]
      exact decide_eq_false (by omega)
    rw [callUser_eq_fault sv args refused, framed.fixed, Engine.activeCalls, active]

end CallDepth

/-- At every moment of a call of the host, and where it ends, the call stack lists the active
calls of the frame that runs, outermost first, and the handler depth counts the active
handlers; no frame has more calls than the limit, no more than eight handlers nest, and all
frames together have at most nine times as many calls. In any frame a call of a function is
refused exactly when the frame has as many active calls as the limit says. The fault names
them, and still does so when it leaves statements or ends the run: then the refusal is the
last thing that happened in the frame, but for calls that ended because of it. -/
theorem call_depth_accounted {m : Machine} (idle : Idle m) (allowance : Nat) (call : EngineCall) :
    let limits := m.engine.limits
    let sv := servicesWithin allowance
    ∃ past during, m.engine.journal = some past ∧
      (call.start allowance m).machine.engine.journal = some (during ++ past) ∧
      (call.start allowance m).machine.engine.registers.CountsCalls limits (framesIn during) ∧
      (∀ x earlier, x :: earlier <:+ during →
        x.registers.CountsCalls limits (framesIn (x :: earlier)) ∧
        (∀ name, x.step = .called name → ∃ f rest, framesIn earlier = f :: rest ∧
          f.activeCalls.length < limits.maxRecursionDepth) ∧
        ∀ name, x.step = .refused name → ∃ f rest, framesIn earlier = f :: rest ∧
          f.activeCalls.length = limits.maxRecursionDepth) ∧
      (∀ (m₁ : Machine) (f : OpenFrame) (rest : List OpenFrame),
        f.asleep = none → m₁.Framed limits past (f :: rest) →
          (∀ fn args, callUser sv fn args m₁ =
              .fault (.recursion limits.maxRecursionDepth f.activeCalls)
                (m₁.record (.refused fn.name)) ↔
            f.activeCalls.length = limits.maxRecursionDepth) ∧
          ∀ s e m₂ active, exec sv s m₁ = .fault e m₂ → e.refused? = some active →
            ∃ since, m₂.engine.journal = some (since ++ past) ∧
              RefusedIn limits f.number rest active since) ∧
      ∀ program e m' active, m.execute allowance program = some (.error e, m') →
        e.refused? = some active → ∃ number registers since,
          m'.engine.journal = some (⟨.left, registers⟩ :: since ++ past) ∧
            RefusedIn limits number [] active since := by
  intro limits sv
  obtain ⟨past, during, journal, written, shows, proper⟩ := idle.exists_moments allowance call
  refine ⟨past, during, journal, written, proper.countsCalls shows, ?_, ?_, ?_⟩
  · intro x earlier suffix
    have still := proper.suffix suffix
    exact ⟨still.countsCalls (proper x earlier suffix).2, still.room_of_step⟩
  · intro m₁ f rest awake framed
    refine ⟨framed.callUser_eq_refusal_iff sv, ?_⟩
    intro s e m₂ active failed carried
    have services := servicesWithin_keep limits past allowance
    have kept := exec_law (keepsFrames_law limits past) s (.inl trivial) sv services awake framed
    dsimp only at kept
    rw [failed] at kept
    exact kept.2 active carried
  · intro program e m' active ended carried
    have executed := Outcome.done?_eq_some_iff.mp ended
    exact refused_of_execute (idle.atRest.framed journal) executed carried

/-- A function that calls itself without end, in an attempt that calls it again. -/
def runawayProgram : Program :=
  [.define {} "f" [] [.expr {} (.call {} "f" [])],
    .attempt {} [.expr {} (.call {} "f" [])] "e" [.expr {} (.call {} "f" [])]]

/-- With a limit of two calls the run ends with a fault that names the function twice. -/
theorem runawayProgram_refused :
    let m : Machine := .new 0 { maxRecursionDepth := 2 } {}
    Idle m ∧ ∃ e m', m.execute 3 runawayProgram = some (.error e, m') ∧
      e.refused? = some ["f", "f"] ∧ ∃ number registers since,
        m'.engine.journal = some (⟨.left, registers⟩ :: since) ∧
          RefusedIn m.engine.limits number [] ["f", "f"] since := by
  intro m
  have idle : Idle m := .new 0 _ {}
  have named : ((m.execute 3 runawayProgram).bind fun p =>
      match p.1 with
      | .error e => e.refused?
      | .ok _ => none) = some ["f", "f"] := by decide +kernel
  obtain ⟨⟨result, m'⟩, executed, carried⟩ := Option.bind_eq_some_iff.mp named
  cases result with
  | ok v => cases carried
  | error e =>
      obtain ⟨past, during, journal, -, -, -, -, ended⟩ := call_depth_accounted idle 3 .dispatch
      obtain ⟨number, registers, since, left, refusal⟩ := ended _ e m' _ executed carried
      have start : past = [] := (Option.some.inj journal).symm
      rw [start, List.append_nil] at left
      exact ⟨idle, e, m', executed, carried, number, registers, since, left, refusal⟩

end HostScript
