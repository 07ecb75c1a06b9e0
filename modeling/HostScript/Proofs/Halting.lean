import HostScript.Proofs.Sessions
import HostScript.Proofs.Stopping

/-!
# A stop is final

Once a stop is requested, no statement begins and no frame, in whatever attempts, loops, calls
and handlers the engine is, until the call of the host has ended; and when it has ended, no
stop is pending any more. A statement that is reached meanwhile is barred. In the frame of a
run at the top level this ends the run at once: nothing that is around the statement goes on,
and the run ends as stopped, with `undefined` and without a fault.

## Implementation notes

That nothing begins holds of every evolution, since only the beginning and the end of a call
withdraw a stop. How a barred statement ends its frame depends on how computations end, so this
is a law of computations. The frame that runs is told by the number of active handlers: what
nested handlers do, they do while more of them are active.
-/

namespace HostScript

variable {α β : Type}

/-! ### Nothing begins -/

/-- A statement begins, or a frame. -/
def Step.launches : Step → Bool
  | .statement _ => true
  | .entered _ _ => true
  | _ => false

/-- After a request to stop nothing begins; the moments come newest first. -/
def StopsFinally (during : List Moment) : Prop :=
  during.Pairwise fun later earlier => earlier.step = .stopped → later.step.launches = false

/-- An engine has gone on as a pending stop demands, and has not withdrawn it. -/
structure Engine.Obeys (e e' : Engine) : Prop where
  stopping : e.stopping = true → e'.stopping = true
  journal : ∀ past, e.journal = some past → ∃ added, e'.journal = some (added ++ past) ∧
    StopsFinally added ∧ (e.stopping = true → ∀ x ∈ added, x.step.launches = false) ∧
    ((∃ x ∈ added, x.step = .stopped) → e'.stopping = true)

section Obeying

variable {limit : Nat} {names : Set String} {e e₁ e' : Engine} {m m' inside : Machine}
  {close : Machine → Machine}

/-- Nothing is written, and a stop stays pending. -/
theorem Engine.Obeys.of_eq (journal : e'.journal = e.journal)
    (stopping : e'.stopping = e.stopping) : e.Obeys e' where
  stopping := fun pending => stopping.trans pending
  journal := fun past before =>
    ⟨[], journal.trans before, .nil, fun _ => List.forall_mem_nil _, by simp⟩

theorem Engine.Obeys.trans (first : e.Obeys e₁) (then_ : e₁.Obeys e') : e.Obeys e' where
  stopping := fun pending => then_.stopping (first.stopping pending)
  journal := by
    intro past before
    obtain ⟨added, between, final, calm, asked⟩ := first.journal past before
    obtain ⟨more, after, final', calm', asked'⟩ := then_.journal _ between
    refine ⟨more ++ added, by rw [after, List.append_assoc], ?_, ?_, ?_⟩
    · refine List.pairwise_append.mpr ⟨final', final, ?_⟩
      intro later hlater earlier hearlier stopped
      exact calm' (asked ⟨earlier, hearlier, stopped⟩) later hlater
    · intro pending x mem
      rcases List.mem_append.mp mem with new | old
      · exact calm' (first.stopping pending) x new
      · exact calm pending x old
    · rintro ⟨x, mem, stopped⟩
      rcases List.mem_append.mp mem with new | old
      · exact asked' ⟨x, new, stopped⟩
      · exact then_.stopping (asked ⟨x, old, stopped⟩)

/-- A step can be written that begins nothing against a pending stop. -/
theorem Engine.obeys_record {s : Step} (journal : e₁.journal = e.journal)
    (stopping : e.stopping = true → e₁.stopping = true)
    (launches : s.launches = true → e.stopping = false)
    (asked : s = .stopped → e₁.stopping = true) : e.Obeys (e₁.record s) := by
  rw [Engine.record_eq]
  refine ⟨stopping, ?_⟩
  intro past before
  refine ⟨[⟨s, e₁.registers⟩], by rw [journal, before]; rfl, List.pairwise_singleton _ _, ?_, ?_⟩
  · intro pending x mem
    rw [List.mem_singleton.mp mem]
    cases hs : s.launches with
    | false => rfl
    | true => rw [launches hs] at pending; cases pending
  · rintro ⟨x, mem, stopped⟩
    rw [List.mem_singleton.mp mem] at stopped
    exact asked stopped

theorem Engine.obeys_dequeue? {taker : Taker} {fired : Fired}
    (taken : e.dequeue? taker = some (fired, e')) : e.Obeys e' := by
  unfold Engine.dequeue? at taken
  split at taken
  · cases taken
  · cases taken
    exact Engine.obeys_record rfl id nofun nofun

/-- A handler may begin unless a stop is pending. -/
theorem Machine.obeys_enterHandler (running : m.engine.stopping = false) (h : Handler)
    (payload : Value) : m.engine.Obeys (m.enterHandler h payload).engine :=
  Engine.obeys_record rfl id (fun _ => running) nofun

theorem Machine.obeys_leaveHandler (m : Machine) (scope : ScopeId) (callStack : List String)
    (clock : RunClock) : m.engine.Obeys (m.leaveHandler scope callStack clock).engine :=
  Engine.obeys_record rfl id nofun nofun

theorem Machine.obeys_register (m : Machine) (event : String) (body : List Stmt) :
    m.engine.Obeys (m.register event body).engine := by
  simp only [Machine.register]
  split
  · exact .of_eq rfl rfl
  · exact .of_eq rfl rfl

theorem Move.obeys (step : Move names m m') : m.engine.Obeys m'.engine := by
  cases step with
  | checked | bar | round | refuseCall => exact Engine.obeys_record rfl id nofun nofun
  | statement loc running inTime => exact Engine.obeys_record rfl id (fun _ => running) nofun
  | enqueue fired reached => exact Engine.obeys_record rfl id nofun nofun
  | stop => exact Engine.obeys_record rfl (fun _ => rfl) nofun fun _ => rfl
  | register event body room => exact m.obeys_register event body
  | refuse taken refused => exact Engine.obeys_dequeue? taken
  | _ => exact .of_eq rfl rfl

theorem Frame.obeys_open (opened : Frame limit names m inside close) :
    m.engine.Obeys inside.engine := by
  cases opened with
  | child => exact .of_eq rfl rfl
  | @call _ _ _ f args found room =>
      have called : m.engine.Obeys (m.pushCall f.name).engine :=
        Engine.obeys_record rfl id nofun nofun
      exact called.trans (.of_eq rfl rfl)
  | suspension => exact Engine.obeys_record rfl id nofun nofun
  | @handler _ e e' w taker fired h room taken found running =>
      have entered : e'.Obeys (Machine.enterHandler ⟨e', w⟩ h fired.payload).engine :=
        Machine.obeys_enterHandler (m := ⟨e', w⟩) running h fired.payload
      exact (Engine.obeys_dequeue? taken).trans entered

theorem Frame.obeys_close (opened : Frame limit names m inside close) (m' : Machine) :
    m'.engine.Obeys (close m').engine := by
  cases opened with
  | child => exact .of_eq rfl rfl
  | call args found room => exact Engine.obeys_record rfl id nofun nofun
  | suspension => exact Engine.obeys_record rfl id nofun nofun
  | handler room taken found running => exact m'.obeys_leaveHandler _ _ _

theorem Evolves.obeys (h : Evolves limit names m m') : m.engine.Obeys m'.engine := by
  induction h with
  | refl m => exact .of_eq rfl rfl
  | trans _ _ first then_ => exact first.trans then_
  | move step => exact step.obeys
  | frame opened _ body => exact (opened.obeys_open.trans body).trans (opened.obeys_close _)

theorem Passes.obeys (h : Passes limit m m') : m.engine.Obeys m'.engine := by
  induction h with
  | here done => exact done.obeys
  | inside done opened _ body => exact (done.obeys.trans opened.obeys_open).trans body

/-- Whatever follows evolution obeys a pending stop. -/
theorem Outcome.Follows.obeys {o : Outcome α} (h : o.Follows limit names m) :
    m.engine.Obeys o.machine.engine := by
  cases o with
  | done a m' => exact Evolves.obeys h
  | fault f m' => exact Evolves.obeys h
  | cut why m' => exact Passes.obeys h

end Obeying

/-! ### Calls of the host -/

section Operations

variable {m : Machine} {past : List Moment}

/-- A handler that is run directly begins only if no stop is pending. -/
theorem runHandler_obeys (allowance : Nat) (fired : Fired) (m : Machine) :
    m.engine.Obeys (runHandler (servicesWithin allowance) fired m).machine.engine := by
  have services := servicesWithin_follow (le_refl maxHandlerNesting) allowance
  simp only [runHandler]
  split
  · exact .of_eq rfl rfl
  · next h found =>
    split
    · exact .of_eq rfl rfl
    · next going =>
      have running : m.engine.stopping = false := by simpa using going
      have body := (execAll_follows services h.body (m.enterHandler h fired.payload)).obeys
      have inside := (Machine.obeys_enterHandler running h fired.payload).trans body
      have left (m' : Machine) := m'.obeys_leaveHandler m.engine.scope m.engine.callStack
        m.engine.clock
      cases hb : execAll (servicesWithin allowance) h.body (m.enterHandler h fired.payload) with
      | cut why m' => rw [hb] at inside; exact inside
      | done signal m' => rw [hb] at inside; exact inside.trans (left m')
      | fault f m' =>
          rw [hb] at inside
          cases f with
          | cancelled => exact inside.trans (left m')
          | failure k d =>
              have told : Evolves 0 ∅ _ _ := evolves_report (m'.leaveHandler m.engine.scope
                m.engine.callStack m.engine.clock) (Fault.failure k d).describe
              exact (inside.trans (left m')).trans told.obeys

theorem fireEach_obeys (allowance : Nat) (payload : Value) (ids : List HandlerId) (ran : Nat)
    (m : Machine) :
    m.engine.Obeys (Run.fireEach (servicesWithin allowance) payload ids ran m).machine.engine := by
  induction ids generalizing ran m with
  | nil => exact .of_eq rfl rfl
  | cons id rest ih =>
      have handled := runHandler_obeys allowance ⟨id, payload⟩ m
      simp only [Run.fireEach]
      split
      · next hr => rw [hr] at handled; exact handled.trans (ih _ _)
      · next hr => rw [hr] at handled; exact handled.trans (ih _ _)
      · next hr => rw [hr] at handled; exact handled
      · next hr => rw [hr] at handled; exact handled

/-- What a call of the host has written is final about stops. -/
def Outcome.Final (past : List Moment) (o : Outcome α) : Prop :=
  ∃ during, o.machine.engine.journal = some (during ++ past) ∧ StopsFinally during

theorem Engine.Obeys.final {e : Engine} {o : Outcome α} (h : e.Obeys o.machine.engine)
    (journal : e.journal = some past) : o.Final past := by
  obtain ⟨during, written, final, -⟩ := h.journal past journal
  exact ⟨during, written, final⟩

/-- A call may end by something that writes nothing. -/
theorem Outcome.Final.bind {x : Run α} {next : α → Run β} (h : (x m).Final past)
    (quiet : ∀ a m', ∃ b m₁, next a m' = .done b m₁ ∧ m₁.engine.journal = m'.engine.journal) :
    ((x >>= next) m).Final past := by
  cases hm : x m with
  | fault e m' => rw [hm] at h; rw [Run.bind_fault hm]; exact h
  | cut why m' => rw [hm] at h; rw [Run.bind_cut hm]; exact h
  | done a m' =>
      rw [hm] at h
      obtain ⟨b, m₁, ended, journal⟩ := quiet a m'
      obtain ⟨during, written, final⟩ := h
      rw [Run.bind_done hm, ended]
      exact ⟨during, journal.trans written, final⟩

theorem execute_final (allowance : Nat) (program : Program)
    (journal : m.engine.journal = some past) :
    (Run.execute allowance program m).Final past := by
  have services := servicesWithin_follow (le_refl maxHandlerNesting) allowance
  have body := (execAll_follows services program m.beginRun).obeys
  have begun : ∃ registers, m.beginRun.engine.journal =
      some (⟨.entered m.world.now none, registers⟩ :: past) := by
    simp only [Machine.beginRun, Engine.record_eq, journal]
    exact ⟨_, rfl⟩
  obtain ⟨registers, begun⟩ := begun
  obtain ⟨added, written, final, -⟩ := body.journal _ begun
  have first : StopsFinally (added ++ [⟨.entered m.world.now none, registers⟩]) := by
    refine List.pairwise_append.mpr ⟨final, List.pairwise_singleton _ _, ?_⟩
    intro later _ earlier mem stopped
    rw [List.mem_singleton.mp mem] at stopped
    cases stopped
  rw [List.append_cons] at written
  have ended (m' : Machine) (state : RunState)
      (written : m'.engine.journal =
        some (added ++ [⟨.entered m.world.now none, registers⟩] ++ past)) :
      ∃ during, (m'.endRun state).engine.journal = some (during ++ past) ∧
        StopsFinally during := by
    simp only [Machine.endRun, Engine.record_eq, written]
    exact ⟨_ :: _, rfl, first.cons fun _ _ _ => rfl⟩
  rw [Run.execute_eq]
  cases hb : execAll (servicesWithin allowance) program m.beginRun with
  | cut why m' => rw [hb] at written; exact ⟨_, written, first⟩
  | done signal m' =>
      rw [hb] at written
      cases signal with
      | _ => exact ended m' .completed written
  | fault f m' =>
      rw [hb] at written
      cases f with
      | cancelled => exact ended m' .stopped written
      | failure k d => exact ended m' .errored written

/-- Nothing begins after a stop in a call of the host, finished or not. -/
theorem EngineCall.start_final (allowance : Nat) (call : EngineCall) (rest : m.AtRest)
    (journal : m.engine.journal = some past) : (call.start allowance m).Final past := by
  have services := servicesWithin_follow (le_refl maxHandlerNesting) allowance
  cases call with
  | execute program =>
      exact (execute_final allowance program journal).bind fun _ _ => ⟨_, _, rfl, rfl⟩
  | run source =>
      simp only [EngineCall.start]
      cases Source.parse source with
      | ok program =>
          exact (execute_final allowance program journal).bind fun _ _ => ⟨_, _, rfl, rfl⟩
      | error f => exact ⟨[], journal, .nil⟩
  | dispatch =>
      have room : m.engine.handlerDepth < maxHandlerNesting := by
        rw [rest.handlerDepth]
        exact Nat.zero_lt_succ 7
      have batch : Outcome.Follows maxHandlerNesting ∅ m _ :=
        dispatchWithin_follows services allowance m.engine.limits.maxLoopIterations 0 room
      have handled : (Run.dispatch allowance m).Final past :=
        Outcome.Final.bind (x := Run.dispatchWithin _ _ _ _) (batch.obeys.final journal)
          fun _ _ => ⟨_, _, rfl, rfl⟩
      exact handled.bind fun _ _ => ⟨_, _, rfl, rfl⟩
  | fire event payload =>
      have each := fireEach_obeys allowance payload (m.engine.handlers.forEvent event) 0 m
      have fired : (Run.fire allowance event payload m).Final past :=
        Outcome.Final.bind (x := Run.fireEach _ _ _ _) (each.final journal)
          fun _ _ => ⟨_, _, rfl, rfl⟩
      exact fired.bind fun _ _ => ⟨_, _, rfl, rfl⟩
  | pump ms =>
      have waited : Outcome.Follows maxHandlerNesting ∅ m _ :=
        services.suspend (.timer (m.world.now + ms)) m
      have pumped : (Run.pump allowance ms m).Final past :=
        Outcome.Final.bind (x := (servicesWithin allowance).suspend _) (waited.obeys.final journal)
          fun _ _ => ⟨_, _, rfl, rfl⟩
      exact pumped.bind fun _ _ => ⟨_, _, rfl, rfl⟩
  | cleanup => exact ⟨[], journal, .nil⟩

/-- The call runs a program or handlers. -/
def EngineCall.runsScripts : EngineCall → Bool
  | .run source => (Source.parse source).toOption.isSome
  | .execute _ => true
  | .dispatch => true
  | .fire _ _ => true
  | .pump _ => true
  | .cleanup => false

theorem Outcome.stopping_of_concluded {o : Outcome Signal} {r : Except Fault Value}
    {m' : Machine} (h : o.concluded = .done r m') : m'.engine.stopping = false := by
  rcases Outcome.concluded_cases h with ⟨_, _, -, -, rfl⟩ | ⟨_, -, -, rfl⟩ | ⟨_, _, _, -, -, rfl⟩
  all_goals simp only [Machine.endRun, Engine.record_eq]

/-- A call that has run scripts leaves no stop pending. -/
theorem EngineCall.stopping_of_perform {allowance : Nat} {call : EngineCall} {answer : Answer}
    {m' : Machine} (runs : call.runsScripts = true)
    (h : call.perform allowance m = some (answer, m')) : m'.engine.stopping = false := by
  cases call with
  | cleanup => cases runs
  | execute program =>
      obtain ⟨⟨r, _⟩, executed, ⟨⟩⟩ := Option.map_eq_some_iff.mp h
      exact Outcome.stopping_of_concluded (Outcome.done?_eq_some_iff.mp executed)
  | run source =>
      obtain ⟨⟨r, _⟩, ran, ⟨⟩⟩ := Option.map_eq_some_iff.mp h
      rw [Machine.run_eq] at ran
      split at ran
      · exact Outcome.stopping_of_concluded (Outcome.done?_eq_some_iff.mp ran)
      · next failed =>
        rw [EngineCall.runsScripts, failed] at runs
        cases runs
  | dispatch =>
      obtain ⟨⟨ran, _⟩, dispatched, ⟨⟩⟩ := Option.map_eq_some_iff.mp h
      obtain ⟨m₁, -, rfl⟩ := exists_of_dispatchPending dispatched
      rfl
  | fire event payload =>
      obtain ⟨⟨ran, _⟩, fired, ⟨⟩⟩ := Option.map_eq_some_iff.mp h
      obtain ⟨_, _, -, ended⟩ := Run.bind_eq_done_iff.mp (Outcome.done?_eq_some_iff.mp fired)
      obtain ⟨_, _, -, ended⟩ := Run.bind_eq_done_iff.mp ended
      obtain ⟨_, _, cleared, counted⟩ := Run.bind_eq_done_iff.mp ended
      cases cleared
      cases counted
      rfl
  | pump ms =>
      obtain ⟨_, pumped, ⟨⟩⟩ := Option.map_eq_some_iff.mp h
      obtain ⟨r, m₁, -, rfl⟩ := exists_of_pump pumped
      rfl

end Operations

/-! ### What a barred statement ends -/

/-- A statement was reached and did not begin. -/
def Step.bars : Step → Bool
  | .barred _ => true
  | _ => false

/-- The journal has grown while at least as many handlers were active as at first. Statements
were barred while no more than those were active only if `own`. -/
def Engine.Spares (own : Prop) (e e' : Engine) : Prop :=
  ∀ past, e.journal = some past → ∃ added, e'.journal = some (added ++ past) ∧
    ∀ x ∈ added, e.handlerDepth ≤ x.registers.handlerDepth ∧
      (x.step.bars = true → x.registers.handlerDepth = e.handlerDepth → own)

/-- The frame that ran runs again; statements of its own were barred only if `own`. -/
structure Machine.Resumes (own : Prop) (m m' : Machine) : Prop where
  depth : m'.engine.handlerDepth = m.engine.handlerDepth
  journal : m.engine.Spares own m'.engine

/-- If a statement of the frame that runs is barred, the computation ends as cancelled. -/
def Outcome.Heeds (m : Machine) : Outcome α → Prop
  | .done _ m' => m.Resumes False m'
  | .fault f m' => m.Resumes (f = .cancelled) m'
  | .cut _ m' => m.engine.Spares False m'.engine

/-- Calls and waiting heed barred statements. -/
structure Services.Heed (sv : Services) : Prop where
  call : ∀ f args m, (sv.call f args m).Heeds m
  await : ∀ a m, (sv.await a m).Heeds m

/-- A computation heeds barred statements, whatever services it uses that do. -/
def HeedsBars (α : Type) (x : Services → Run α) : Prop :=
  ∀ sv : Services, sv.Heed → ∀ m, (x sv m).Heeds m

section Heeding

variable {own own' : Prop} {e e₁ e' : Engine} {m m₁ m' : Machine} {sv : Services}

theorem Engine.Spares.of_eq (journal : e'.journal = e.journal) : e.Spares own e' :=
  fun _ before => ⟨[], journal.trans before, List.forall_mem_nil _⟩

/-- What is barred later counts as own only if no more handlers are active then. -/
theorem Engine.Spares.trans (first : e.Spares own e₁)
    (deeper : e.handlerDepth ≤ e₁.handlerDepth) (then_ : e₁.Spares own' e')
    (only : e₁.handlerDepth = e.handlerDepth → own' → own) : e.Spares own e' := by
  intro past before
  obtain ⟨added, between, spared⟩ := first past before
  obtain ⟨more, after, spared'⟩ := then_ _ between
  refine ⟨more ++ added, by rw [after, List.append_assoc], ?_⟩
  intro x mem
  rcases List.mem_append.mp mem with new | old
  · obtain ⟨below, bars⟩ := spared' x new
    refine ⟨deeper.trans below, ?_⟩
    intro barred here
    -- the depth in between lies between that at first and that of the step
    have same : e₁.handlerDepth = e.handlerDepth := le_antisymm (below.trans here.le) deeper
    exact only same (bars barred (here.trans same.symm))
  · exact spared x old

/-- A step can be written as long as no fewer handlers are active than at first. -/
theorem Engine.Spares.record {s : Step} (h : e.Spares own e₁) (journal : e'.journal = e₁.journal)
    (deeper : e.handlerDepth ≤ e'.handlerDepth) (bars : s.bars = true → own) :
    e.Spares own (e'.record s) := by
  intro past before
  obtain ⟨added, written, spared⟩ := h past before
  rw [Engine.record_eq]
  refine ⟨⟨s, e'.registers⟩ :: added, by rw [journal, written]; rfl, ?_⟩
  rintro x (_ | ⟨_, mem⟩)
  · exact ⟨deeper, fun barred _ => bars barred⟩
  · exact spared x mem

theorem Engine.Spares.note {s : Step} (h : e.Spares own e₁) (journal : e'.journal = e₁.journal)
    (deeper : e.handlerDepth ≤ e'.handlerDepth) (bars : s.bars = false) :
    e.Spares own (e'.record s) :=
  h.record journal deeper fun barred => absurd barred (by simp [bars])

theorem Machine.Resumes.of_eq (depth : m'.engine.handlerDepth = m.engine.handlerDepth)
    (journal : m'.engine.journal = m.engine.journal) : m.Resumes own m' :=
  ⟨depth, .of_eq journal⟩

theorem Machine.Resumes.mono (h : m.Resumes own m') (imp : own → own') : m.Resumes own' m' := by
  refine ⟨h.depth, ?_⟩
  intro past before
  obtain ⟨added, written, spared⟩ := h.journal past before
  exact ⟨added, written, fun x mem =>
    ⟨(spared x mem).1, fun barred here => imp ((spared x mem).2 barred here)⟩⟩

theorem Machine.Resumes.of_failure {k : Category} {d : Detail}
    (h : m.Resumes (Fault.failure k d = .cancelled) m') : m.Resumes own m' := by
  refine h.mono fun same => ?_
  cases same

theorem Machine.Resumes.trans (first : m.Resumes own m₁) (then_ : m₁.Resumes own m') :
    m.Resumes own m' :=
  ⟨then_.depth.trans first.depth,
    first.journal.trans first.depth.ge then_.journal fun _ => id⟩

/-- A step that bars nothing, or that may, is written in the frame that runs. -/
theorem Machine.Resumes.record {s : Step} {w : World} (bars : s.bars = true → own)
    (depth : e.handlerDepth = m.engine.handlerDepth)
    (journal : e.journal = m.engine.journal) : m.Resumes own ⟨e.record s, w⟩ := by
  refine ⟨?_, Engine.Spares.record (.of_eq rfl) journal depth.ge bars⟩
  simpa only [Engine.record_eq] using depth

theorem Machine.Resumes.note {s : Step} {w : World} (bars : s.bars = false)
    (depth : e.handlerDepth = m.engine.handlerDepth)
    (journal : e.journal = m.engine.journal) : m.Resumes own ⟨e.record s, w⟩ :=
  .record (fun barred => absurd barred (by simp [bars])) depth journal

/-- What the host does beside a script bars nothing. -/
theorem Asides.resumes (h : Asides m m') : m.Resumes False m' := by
  induction h with
  | refl => exact .of_eq rfl rfl
  | tail _ step earlier =>
      refine earlier.trans ?_
      cases step with
      | host | time | timeline => exact .of_eq rfl rfl
      | enqueue fired reached => exact .note rfl rfl rfl
      | stop => exact .note rfl rfl rfl

theorem Machine.SameCore.resumes (h : m.SameCore m') : m.Resumes False m' := by
  refine ⟨h.handlerDepth, ?_⟩
  intro past before
  obtain ⟨added, written, notable⟩ := h.journal past before
  refine ⟨added, written, ?_⟩
  intro x mem
  have noted := notable x mem
  refine ⟨noted.handlerDepth.ge, ?_⟩
  intro barred
  rcases noted.step with checked | ⟨-, begins⟩
  · rw [checked] at barred
    cases barred
  · cases hs : x.step with
    | barred loc => rw [hs] at begins; cases begins
    | _ => rw [hs] at barred; cases barred

theorem Outcome.Heeds.after {o : Outcome α} (first : m.Resumes False m₁) (h : o.Heeds m₁) :
    o.Heeds m := by
  cases o with
  | done a m' => exact first.trans h
  | fault f m' => exact (first.mono False.elim).trans h
  | cut why m' => exact first.journal.trans first.depth.ge h fun _ => id

theorem heedsBars_plain {x : Run α} (hx : x.Plain) : HeedsBars α fun _ => x := by
  intro sv hsv m
  have ends := (hx m).1
  dsimp only
  cases hm : x m with
  | done a m' => rw [hm] at ends; exact Machine.SameCore.resumes ends
  | fault f m' => rw [hm] at ends; exact (Machine.SameCore.resumes ends).mono False.elim
  | cut why m' => rw [hm] at ends; exact ends.elim

theorem Outcome.Heeds.bind {x : Run α} {next : α → Run β} (h : (x m).Heeds m)
    (hnext : ∀ a m', (next a m').Heeds m') : ((x >>= next) m).Heeds m := by
  cases hm : x m with
  | done a m' => rw [hm] at h; rw [Run.bind_done hm]; exact (hnext a m').after h
  | fault f m' => rw [hm] at h; rw [Run.bind_fault hm]; exact h
  | cut why m' => rw [hm] at h; rw [Run.bind_cut hm]; exact h

theorem Outcome.Heeds.located {x : Run α} (h : (x m).Heeds m) (loc : Location) :
    (x.located loc m).Heeds m := by
  simp only [Run.located]
  cases hm : x m with
  | done a m' => rw [hm] at h; exact h
  | cut why m' => rw [hm] at h; exact h
  | fault f m' =>
      rw [hm] at h
      cases f with
      | cancelled => exact h
      | failure k d => exact h.of_failure

/-- A failure is caught only if no statement was barred, and a stop is not caught. -/
theorem Outcome.Heeds.attempt {x : Run Signal} {otherwise : String → Run Signal}
    (h : (x m).Heeds m) (hother : ∀ message m', (otherwise message m').Heeds m') :
    (Run.attempt x otherwise m).Heeds m := by
  simp only [Run.attempt]
  cases hm : x m with
  | done signal m' => rw [hm] at h; exact h
  | cut why m' => rw [hm] at h; exact h
  | fault f m' =>
      rw [hm] at h
      cases f with
      | cancelled => exact h
      | failure k d => exact (hother _ m').after h.of_failure

theorem Outcome.Heeds.ensuring {x : Run α} {close : Machine → Machine} (h : (x m).Heeds m)
    (closes : ∀ m' : Machine, m'.Resumes False (close m')) : (x.ensuring close m).Heeds m := by
  simp only [Run.ensuring]
  cases hm : x m with
  | done a m' => rw [hm] at h; exact h.trans (closes m')
  | fault f m' => rw [hm] at h; exact h.trans ((closes m').mono False.elim)
  | cut why m' => rw [hm] at h; exact h

theorem heedsBars_inChildOf {x : Services → Run α} (parent : ScopeId) (vars : Bindings)
    (hx : HeedsBars α x) : HeedsBars α fun sv => (x sv).inChildOf parent vars := by
  intro sv hsv m
  have entered : m.Resumes False (m.enterChild parent vars) := .of_eq rfl rfl
  have left (m' : Machine) : m'.Resumes False (m'.withScope m.engine.scope) := .of_eq rfl rfl
  exact ((hx sv hsv _).ensuring left).after entered

theorem heedsBars_suspend (a : Awaited) : HeedsBars Reply fun sv => sv.suspend a := by
  intro sv hsv m
  have suspended : m.Resumes False m.suspend := .note rfl rfl rfl
  have resumed (m' : Machine) : m'.Resumes False (m'.resume m.world.now) := .note rfl rfl rfl
  exact ((hsv.await a _).ensuring resumed).after suspended

/-! ### Calls and handlers -/

theorem heedsBars_replied (name : String) (reply : HostReply) :
    HeedsBars Value fun sv => sv.replied name reply := by
  simp only [Services.replied]
  cases reply.delay with
  | none => exact heedsBars_plain (.receive name reply.result)
  | some ms =>
      intro sv hsv m
      refine (heedsBars_plain (.view fun _ _ _ => rfl) sv hsv m).bind fun now m => ?_
      refine (heedsBars_suspend _ sv hsv m).bind fun r m => ?_
      exact heedsBars_plain (.receive name r) sv hsv m

theorem heedsBars_callByName (name : String) (args : List Value) :
    HeedsBars Value fun sv => sv.callByName name args := by
  intro sv hsv m
  simp only [Services.callByName]
  split
  · next host found =>
    have acted := (asides_acts ⟨m.engine, m.world.countCall host.name⟩
      (host.answer { args, heap := m.world.heap, now := m.world.now, earlier := host.calls }).acts)
    rw [Services.callHost_eq]
    have counted : m.Resumes False ⟨m.engine, m.world.countCall host.name⟩ := .of_eq rfl rfl
    exact (heedsBars_replied host.name _ sv hsv _).after (counted.trans acted.resumes)
  · split
    · next b _ => exact heedsBars_plain (.callBuiltin b args) sv hsv m
    · split
      · next user _ => exact hsv.call user args m
      · exact heedsBars_plain (.raise (Services.unknownFunction name)) sv hsv m

theorem callUser_heeds {f : UserFunction} (args : List Value) (hsv : sv.Heed)
    (bodies : HeedsBars Signal fun sv => execAll sv f.body) : (callUser sv f args m).Heeds m := by
  by_cases room : m.engine.limits.allowsCall m.engine.callStack.length = true
  · rw [callUser_eq sv args room]
    have pushed : m.Resumes False (m.pushCall f.name) := .note rfl rfl rfl
    have popped (m' : Machine) : m'.Resumes False m'.popCall := .note rfl rfl rfl
    have body := heedsBars_inChildOf f.closure (bindParams f.params args []) bodies sv hsv
      (m.pushCall f.name)
    exact Outcome.Heeds.after pushed ((body.ensuring popped).bind fun _ _ => .of_eq rfl rfl)
  · rw [callUser_eq_fault sv args (by simpa using room)]
    exact .note rfl rfl rfl

theorem Machine.resumes_register (m : Machine) (event : String) (body : List Stmt) :
    m.Resumes False (m.register event body) := by
  simp only [Machine.register]
  split
  · exact .of_eq rfl rfl
  · exact .of_eq rfl rfl

theorem heedsBars_openAt (base index : Value) :
    HeedsBars Unit fun _ => Run.openAt base index := by
  intro sv hsv m
  dsimp only
  obtain opened | ⟨a, -, -, held⟩ := Run.openAt_cases base index m
  · rw [opened]
    exact .of_eq rfl rfl
  · rw [held]
    exact .of_eq rfl

/-- Everything that a script does in a frame heeds barred statements. -/
theorem heedsBars_law : Law True HeedsBars := by
  constructor
  case plain => exact heedsBars_plain
  case bind => exact fun hx hnext sv hsv m => (hx sv hsv m).bind fun a => hnext a sv hsv
  case located => exact fun _ hx sv hsv m => (hx sv hsv m).located _
  case attempt =>
    exact fun hx hother sv hsv m => (hx sv hsv m).attempt fun message => hother message sv hsv
  case inChild => exact fun vars hx sv hsv m => heedsBars_inChildOf m.engine.scope vars hx sv hsv m
  case bar => exact fun loc sv hsv m => .record (fun _ => rfl) rfl rfl
  case openAt => exact heedsBars_openAt
  case emit => exact fun event payload sv hsv m => (asides_emit m event payload).resumes
  case suspend => exact fun _ => heedsBars_suspend _
  case callByName => exact heedsBars_callByName
  case define =>
    intro name params body _ sv hsv m
    simp only [Run.define]
    split
    · exact .of_eq rfl rfl
    · exact .of_eq rfl rfl
  case addHandler =>
    intro event body _ sv hsv m
    simp only [Run.addHandler]
    split
    · exact m.resumes_register event body
    · exact .of_eq rfl rfl

theorem heedsBars_execAll (body : List Stmt) : HeedsBars Signal fun sv => execAll sv body :=
  execAll_law heedsBars_law body (.inl trivial)

/-- Statements that are barred in a handler are not barred in the frame that it interrupts. -/
theorem runHandler_heeds (hsv : sv.Heed) (fired : Fired) (m : Machine) :
    (runHandler sv fired m).Heeds m := by
  simp only [runHandler]
  split
  · exact .of_eq rfl rfl
  · next h found =>
    split
    · exact .of_eq rfl rfl
    · have depth : (m.enterHandler h fired.payload).engine.handlerDepth =
          m.engine.handlerDepth + 1 := by
        simp only [Machine.enterHandler, Machine.enterChild, Engine.record_eq]
      have entered : m.engine.Spares False (m.enterHandler h fired.payload).engine :=
        Engine.Spares.note (.of_eq rfl) rfl (Nat.le_succ _) rfl
      -- whatever the handler bars is barred one level deeper than the frame it interrupts
      have below {own : Prop} {e : Engine}
          (body : (m.enterHandler h fired.payload).engine.Spares own e) :
          m.engine.Spares False e :=
        entered.trans (by omega) body (by omega)
      have left {own : Prop} {m' : Machine}
          (body : (m.enterHandler h fired.payload).Resumes own m') :
          m.Resumes False (m'.leaveHandler m.engine.scope m.engine.callStack m.engine.clock) := by
        have inside := body.depth.trans depth
        have ended : (m'.leaveHandler m.engine.scope m.engine.callStack
            m.engine.clock).engine.handlerDepth = m.engine.handlerDepth := by
          simp only [Machine.leaveHandler, Engine.record_eq]
          omega
        refine ⟨ended, (below body.journal).note rfl ?_ rfl⟩
        dsimp only
        omega
      have body := heedsBars_execAll h.body sv hsv (m.enterHandler h fired.payload)
      dsimp only at body
      cases hb : execAll sv h.body (m.enterHandler h fired.payload) with
      | cut why m' => rw [hb] at body; exact below body
      | done signal m' => rw [hb] at body; exact left body
      | fault f m' =>
          rw [hb] at body
          cases f with
          | cancelled => exact left body
          | failure k d => exact (left body).trans (.of_eq rfl rfl)

theorem awaitWithin_heeds (hsv : sv.Heed) (a : Awaited) (rounds : Nat) (m : Machine) :
    (awaitWithin sv a rounds m).Heeds m := by
  induction rounds generalizing m with
  | zero => exact Engine.Spares.of_eq rfl
  | succ rounds ih =>
      obtain ⟨e, w⟩ := m
      simp only [awaitWithin]
      split
      · next fired m₁ next_ =>
        obtain ⟨-, e', taken, rfl⟩ := nextFired?_eq_some next_
        have took : Machine.Resumes False ⟨e, w⟩ ⟨e', w⟩ := by
          unfold Engine.dequeue? at taken
          split at taken
          · cases taken
          · cases taken
            exact .note rfl rfl rfl
        refine Outcome.Heeds.after took ?_
        have ran := runHandler_heeds hsv fired ⟨e', w⟩
        cases hr : runHandler sv fired ⟨e', w⟩ with
        | done b m₂ => rw [hr] at ran; exact (ih m₂).after ran
        | fault f m₂ => rw [hr] at ran; exact ran
        | cut why m₂ => rw [hr] at ran; exact ran
      · have shown : Machine.Resumes False ⟨e, w⟩ ⟨e, w.showQuestion⟩ := .of_eq rfl rfl
        refine Outcome.Heeds.after shown ?_
        split
        · exact .of_eq rfl rfl
        · next waiting =>
          split
          · next m₂ passed => exact (ih m₂).after (asides_passTime? waiting passed).resumes
          · exact Engine.Spares.of_eq rfl

theorem servicesWithin_heed (allowance : Nat) : (servicesWithin allowance).Heed := by
  induction allowance with
  | zero => exact ⟨fun _ _ _ => Engine.Spares.of_eq rfl, fun _ _ => Engine.Spares.of_eq rfl⟩
  | succ allowance ih =>
      constructor
      · intro f args m
        exact callUser_heeds args ih (heedsBars_execAll f.body)
      · intro a m
        exact awaitWithin_heeds ih a allowance m

/-- If a statement of the top level is barred, the run ends as stopped, and it does end. -/
theorem execute_stopped {past during : List Moment} {x : Moment} {allowance : Nat}
    {program : Program} (rest : m.AtRest) (journal : m.engine.journal = some past)
    (written : (Run.execute allowance program m).machine.engine.journal = some (during ++ past))
    (mem : x ∈ during) (barred : x.step.bars = true) (top : x.registers.handlerDepth = 0) :
    ∃ m', Run.execute allowance program m = .done (.ok .undefined) m' ∧
      m'.engine.state = .stopped := by
  have own_of_spares {own : Prop} {e : Engine} (h : m.engine.Spares own e)
      (same : e.journal = some (during ++ past)) : own := by
    obtain ⟨added, grown, spared⟩ := h past journal
    have those : added = during := List.append_cancel_right (Option.some.inj (grown ▸ same))
    exact (spared x (those ▸ mem)).2 barred (top.trans rest.handlerDepth.symm)
  have begun : m.Resumes False m.beginRun := .note rfl rfl rfl
  have body := (heedsBars_execAll program _ (servicesWithin_heed allowance) m.beginRun).after begun
  have ended {own : Prop} {m' : Machine} (state : RunState) (h : m.Resumes own m') :
      m.engine.Spares own (m'.endRun state).engine :=
    h.journal.note rfl h.depth.ge rfl
  rw [Run.execute_eq] at written ⊢
  dsimp only at body
  cases hb : execAll (servicesWithin allowance) program m.beginRun with
  | cut why m' =>
      rw [hb] at body written
      exact (own_of_spares body written).elim
  | done signal m' =>
      rw [hb] at body written
      cases signal with
      | _ => exact (own_of_spares (ended .completed body) written).elim
  | fault f m' =>
      rw [hb] at body written
      cases f with
      | failure k d => cases own_of_spares (ended .errored body) written
      | cancelled =>
          refine ⟨m'.endRun .stopped, rfl, ?_⟩
          simp only [Machine.endRun, Engine.record_eq]

end Heeding

/-- Giving the result another form does not change where a computation ends. -/
theorem Run.machine_bind_result (x : Run α) (g : α → β) (m : Machine) :
    ((x >>= fun a => Run.result (g a)) m).machine = (x m).machine := by
  cases hx : x m with
  | done a m' => rw [Run.bind_done hx]; rfl
  | fault f m' => rw [Run.bind_fault hx]; rfl
  | cut why m' => rw [Run.bind_cut hx]; rfl

/-- In a call of the host, finished or not, no statement and no frame begins after a stop was
requested. A call that runs scripts leaves no stop pending when it ends. If in the execution of
a program a statement of the top level is reached after a stop was requested, then the execution
ends, as stopped and with `undefined`. -/
theorem stop_final {m : Machine} (idle : Idle m) (allowance : Nat) (call : EngineCall) :
    ∃ past during, m.engine.journal = some past ∧
      (call.start allowance m).machine.engine.journal = some (during ++ past) ∧
      (during.Pairwise fun later earlier =>
        earlier.step = .stopped → later.step.launches = false) ∧
      (call.runsScripts = true → ∀ answer m', call.perform allowance m = some (answer, m') →
        m'.engine.stopping = false) ∧
      ∀ program, call = .execute program →
        (∃ x ∈ during, ∃ loc, x.step = .barred loc ∧ x.registers.handlerDepth = 0) →
          ∃ m', call.perform allowance m = some (.result (.ok .undefined), m') ∧
            m'.engine.state = .stopped := by
  obtain ⟨past, journal⟩ := idle.atRest.journal
  obtain ⟨during, written, final⟩ := call.start_final allowance idle.atRest journal
  refine ⟨past, during, journal, written, final, ?_, ?_⟩
  · intro runs answer m' performed
    exact EngineCall.stopping_of_perform runs performed
  · rintro program rfl ⟨x, mem, loc, step, top⟩
    have barred : x.step.bars = true := by rw [step]; rfl
    have executed : (Run.execute allowance program m).machine.engine.journal =
        some (during ++ past) := by
      rw [← Run.machine_bind_result _ Answer.result]
      exact written
    obtain ⟨m', ended, state⟩ := execute_stopped idle.atRest journal executed mem barred top
    refine ⟨m', ?_, state⟩
    rw [EngineCall.perform, Machine.execute, ended]
    rfl

/-- Host functions that request a stop, and that answer after three milliseconds. -/
def haltingWorld : World where
  functions := [⟨"halt", HostFunction.halt, 0⟩,
    { name := "nap", answer := fun _ => { delay := some 3, result := .ok (.value .null) } }]

/-- A handler that requests a stop while a function naps, in an attempt in an endless loop. -/
def haltingProgram : Program :=
  [.on {} (.lit {} (.text "a")) [.expr {} (.call {} "halt" []), .expr {} (.call {} "nap" [])],
    .define {} "f" [] [.while {} (.lit {} (.bool true))
      [.attempt {} [.expr {} (.call {} "nap" []), .expr {} (.call {} "nap" [])] "e"
        [.expr {} (.var {} "e")]]],
    .host {} (.emit (.lit {} (.text "a")) none), .expr {} (.call {} "f" [])]

/-- The stop of the handler bars its next statement and the next one of the function. The
attempt, the loop and the call are left, and the run ends as stopped. -/
theorem haltingProgram_stopped :
    let m : Machine := .new 0 {} haltingWorld
    Idle m ∧ ∃ during m',
      ((EngineCall.execute haltingProgram).start 9 m).machine.engine.journal = some during ∧
      (during.any fun x => x.step = .stopped) = true ∧
      (during.any fun x => x.step = .barred {} ∧ x.registers.handlerDepth = 1) = true ∧
      StopsFinally during ∧
      (EngineCall.execute haltingProgram).perform 9 m = some (.result (.ok .undefined), m') ∧
      m'.engine.state = .stopped ∧ m'.engine.stopping = false := by
  intro m
  have idle : Idle m := .new 0 {} haltingWorld
  have reached : ((EngineCall.execute haltingProgram).start 9 m).machine.engine.journal.all
      (fun during => (during.any fun x => x.step = .stopped) &&
        (during.any fun x => x.step = .barred {} ∧ x.registers.handlerDepth = 1) &&
        during.any fun x => x.step = .barred {} ∧ x.registers.handlerDepth = 0) = true := by
    decide +kernel
  obtain ⟨past, during, journal, written, final, clear, stopped⟩ :=
    stop_final idle 9 (.execute haltingProgram)
  have start : past = [] := (Option.some.inj journal).symm
  rw [start, List.append_nil] at written
  rw [written, Option.all_some, Bool.and_eq_true, Bool.and_eq_true] at reached
  obtain ⟨⟨requested, inner⟩, outer⟩ := reached
  obtain ⟨x, mem, barred⟩ := List.any_eq_true.mp outer
  obtain ⟨step, top⟩ := of_decide_eq_true barred
  obtain ⟨m', performed, state⟩ := stopped _ rfl ⟨x, mem, {}, step, top⟩
  exact ⟨idle, during, m', written, requested, inner, final, performed, state,
    clear rfl _ _ performed⟩

end HostScript
