import HostScript.Proofs.Evolution.Execution
import HostScript.Proofs.OpenFrames

/-!
# Computations keep their frame

A computation that runs in a frame ends in the same frame: with the same calls active, not
suspended, and with all frames around it as they were. Handlers that run while it is
suspended come and go as frames of their own. If it ends because a call was refused, then
nothing but the ends of calls came after the refusal, and the fault carries the names of the
calls that were active then.

## Implementation notes

This is a law of computations. Calls and waiting are given as services, and the services for
any allowance keep frames by induction on the allowance.
-/

namespace HostScript

variable {α β : Type}

/-- The frame has gone on; it is as it was, but for the time. -/
structure OpenFrame.GoesOn (f g : OpenFrame) : Prop where
  number : g.number = f.number
  fired : g.fired = f.fired
  begun : g.begun = f.begun
  calls : g.calls = f.calls
  asleep : g.asleep = f.asleep

/-- A call was refused in a frame while the functions `active` were active, as many as may be,
and only calls of the frame have ended since. -/
structure RefusedIn (limits : Limits) (number : Nat) (rest : List OpenFrame)
    (active : List String) (during : List Moment) : Prop where
  full : active.length = limits.maxRecursionDepth
  refusal : ∃ returns name registers earlier f,
    during = returns ++ ⟨.refused name, registers⟩ :: earlier ∧
      (∀ x ∈ returns, x.step = .returned) ∧ framesIn earlier = f :: rest ∧ f.number = number ∧
      f.activeCalls = active ∧ registers.callStack.reverse = active

/-- A computation that began in the frame `f`, with the frames `rest` around it, has kept the
frames. -/
def Outcome.Keeps (limits : Limits) (past : List Moment) (f : OpenFrame)
    (rest : List OpenFrame) : Outcome α → Prop
  | .done _ m => ∃ g, f.GoesOn g ∧ m.Framed limits past (g :: rest)
  | .fault e m => (∃ g, f.GoesOn g ∧ m.Framed limits past (g :: rest)) ∧
      ∀ active, e.refused? = some active → ∃ during,
        m.engine.journal = some (during ++ past) ∧ RefusedIn limits f.number rest active during
  | .cut _ m => ∃ frames, m.Framed limits past frames

/-- A computation that leaves the frames exactly as they are, and does not fault. -/
def Outcome.Stays (limits : Limits) (past : List Moment) (frames : List OpenFrame) :
    Outcome α → Prop
  | .done _ m => m.Framed limits past frames
  | .fault _ _ => False
  | .cut _ m => ∃ frames, m.Framed limits past frames

/-- A suspension that began at the time `started` has ended, and has added to the time that the
innermost frame was away. -/
def Outcome.Resumes (limits : Limits) (past : List Moment) (frames : List OpenFrame)
    (started : Nat) : Outcome α → Prop
  | .done _ m => m.Framed limits past
      (frames.modifyHead fun f => (f.sleep started).wake m.world.now)
  | .fault _ _ => False
  | .cut _ m => ∃ frames, m.Framed limits past frames

/-- Calls keep the frame in which they are made; waiting leaves suspended frames alone. -/
structure Services.Keep (limits : Limits) (past : List Moment) (sv : Services) : Prop where
  call : ∀ (f : UserFunction) (args : List Value) {m : Machine} {g : OpenFrame}
    {rest : List OpenFrame}, g.asleep = none → m.Framed limits past (g :: rest) →
      (sv.call f args m).Keeps limits past g rest
  await : ∀ (a : Awaited) {m : Machine} {frames : List OpenFrame},
    (∀ f ∈ frames, f.asleep.isSome = true) → m.Framed limits past frames →
      (sv.await a m).Stays limits past frames

/-- A computation keeps frames, whatever services it uses that do. -/
def KeepsFrames (limits : Limits) (past : List Moment) (α : Type) (x : Services → Run α) : Prop :=
  ∀ sv : Services, sv.Keep limits past → ∀ {m : Machine} {f : OpenFrame} {rest : List OpenFrame},
    f.asleep = none → m.Framed limits past (f :: rest) → (x sv m).Keeps limits past f rest

section Law

variable {limits : Limits} {past : List Moment} {f g : OpenFrame} {rest frames : List OpenFrame}
  {m m' : Machine} {sv : Services}

theorem OpenFrame.GoesOn.refl (f : OpenFrame) : f.GoesOn f := ⟨rfl, rfl, rfl, rfl, rfl⟩

theorem OpenFrame.GoesOn.trans {k : OpenFrame} (first : f.GoesOn g) (then_ : g.GoesOn k) :
    f.GoesOn k :=
  ⟨then_.number.trans first.number, then_.fired.trans first.fired, then_.begun.trans first.begun,
    then_.calls.trans first.calls, then_.asleep.trans first.asleep⟩

/-- What a computation keeps that began later in the frame. -/
theorem Outcome.Keeps.after {o : Outcome α} (h : o.Keeps limits past g rest) (on : f.GoesOn g) :
    o.Keeps limits past f rest := by
  cases o with
  | done a m =>
      obtain ⟨k, goes, framed⟩ := h
      exact ⟨k, on.trans goes, framed⟩
  | fault e m =>
      obtain ⟨⟨k, goes, framed⟩, refused⟩ := h
      exact ⟨⟨k, on.trans goes, framed⟩, on.number ▸ refused⟩
  | cut why m => exact h

/-- A fault is not the refusal of a call. -/
def Outcome.Unrefused : Outcome α → Prop
  | .fault f _ => f.refused? = none
  | _ => True

theorem Outcome.Mild.unrefused {o : Outcome α} (mild : o.Mild) : o.Unrefused := by
  cases o with
  | fault e m => exact Fault.refused?_of_bare mild
  | _ => trivial

/-- A fault that is not a refusal only has to leave the frames in order. -/
theorem Outcome.keeps_of_unrefused {o : Outcome α} (unrefused : o.Unrefused)
    (ends : o.EndsAt fun m => ∃ g, f.GoesOn g ∧ m.Framed limits past (g :: rest)) :
    o.Keeps limits past f rest := by
  cases o with
  | done a m => exact ends
  | fault e m =>
      refine ⟨ends, ?_⟩
      intro active refused
      cases unrefused.symm.trans refused
  | cut why m => exact ends.elim

theorem keepsFrames_plain {x : Run α} (hx : x.Plain) : KeepsFrames limits past α fun _ => x := by
  intro sv hsv m f rest awake framed
  obtain ⟨ends, mild, -⟩ := hx m
  apply Outcome.keeps_of_unrefused mild.unrefused
  have same (m' : Machine) (same : m.SameCore m') :
      ∃ g, f.GoesOn g ∧ m'.Framed limits past (g :: rest) := by
    obtain ⟨during, journal, open_, proper⟩ := framed.journal
    obtain ⟨added, written, notable⟩ := same.journal _ journal
    obtain ⟨charged, inTime, frames, proper⟩ := framed.notable awake open_ proper notable
    refine ⟨{ f with charged }, ⟨rfl, rfl, rfl, rfl, rfl⟩, ?_⟩
    refine ⟨same.limits.trans framed.fixed, ?_, ?_, added ++ during, ?_, frames, proper⟩
    · exact ⟨same.callStack.trans framed.shows.callStack, same.clock.trans framed.shows.clock,
        same.handlerDepth.trans (framed.shows.handlerDepth.trans (countP_isHandler_cons rfl _))⟩
    · rw [same.now]
      refine framed.timely.tail.cons ?_
      simp only [awake, Option.getD_none]
      exact ⟨inTime, le_rfl⟩
    · rw [written, List.append_assoc]
  cases hm : x m with
  | done a m' => rw [hm] at ends; exact same m' ends
  | fault e m' => rw [hm] at ends; exact same m' ends
  | cut why m' => rw [hm] at ends; exact ends.elim

theorem Outcome.Keeps.bind {x : Run α} {next : α → Run β} (h : (x m).Keeps limits past f rest)
    (awake : f.asleep = none)
    (hnext : ∀ a {m : Machine} {g : OpenFrame}, g.asleep = none →
      m.Framed limits past (g :: rest) → (next a m).Keeps limits past g rest) :
    ((x >>= next) m).Keeps limits past f rest := by
  cases hm : x m with
  | done a m' =>
      rw [hm] at h
      obtain ⟨g, goes, framed⟩ := h
      rw [Run.bind_done hm]
      exact (hnext a (goes.asleep.trans awake) framed).after goes
  | fault e m' =>
      rw [hm] at h
      rw [Run.bind_fault hm]
      exact h
  | cut why m' =>
      rw [hm] at h
      rw [Run.bind_cut hm]
      exact h

theorem Outcome.Keeps.located {x : Run α} (h : (x m).Keeps limits past f rest) (loc : Location) :
    (x.located loc m).Keeps limits past f rest := by
  simp only [Run.located]
  cases hm : x m with
  | done a m' => rw [hm] at h; exact h
  | fault e m' =>
      rw [hm] at h
      refine ⟨h.1, ?_⟩
      intro active refused
      exact h.2 active (by rwa [Fault.refused?_located] at refused)
  | cut why m' => rw [hm] at h; exact h

theorem Outcome.Keeps.attempt {x : Run Signal} {otherwise : String → Run Signal}
    (h : (x m).Keeps limits past f rest) (awake : f.asleep = none)
    (hother : ∀ message {m : Machine} {g : OpenFrame}, g.asleep = none →
      m.Framed limits past (g :: rest) → (otherwise message m).Keeps limits past g rest) :
    (Run.attempt x otherwise m).Keeps limits past f rest := by
  simp only [Run.attempt]
  cases hm : x m with
  | done signal m' => rw [hm] at h; exact h
  | cut why m' => rw [hm] at h; exact h
  | fault e m' =>
      rw [hm] at h
      cases e with
      | cancelled => exact h
      | failure k d =>
          obtain ⟨⟨g, goes, framed⟩, -⟩ := h
          exact (hother _ (goes.asleep.trans awake) framed).after goes

/-- What is done at the end of a computation and has nothing to do with frames. -/
theorem Outcome.Keeps.ensuring {x : Run α} {close : Machine → Machine}
    (h : (x m).Keeps limits past f rest)
    (closes : ∀ {m : Machine} {frames : List OpenFrame}, m.Framed limits past frames →
      (close m).Framed limits past frames)
    (journal : ∀ m, (close m).engine.journal = m.engine.journal) :
    (x.ensuring close m).Keeps limits past f rest := by
  simp only [Run.ensuring]
  cases hm : x m with
  | cut why m' => rw [hm] at h; exact h
  | done a m' =>
      rw [hm] at h
      obtain ⟨g, goes, framed⟩ := h
      exact ⟨g, goes, closes framed⟩
  | fault e m' =>
      rw [hm] at h
      obtain ⟨⟨g, goes, framed⟩, refused⟩ := h
      refine ⟨⟨g, goes, closes framed⟩, ?_⟩
      rw [journal]
      exact refused

theorem keepsFrames_inChildOf {x : Services → Run α} (parent : ScopeId) (vars : Bindings)
    (hx : KeepsFrames limits past α x) :
    KeepsFrames limits past α fun sv => (x sv).inChildOf parent vars := by
  intro sv hsv m f rest awake framed
  have entered : (m.enterChild parent vars).Framed limits past (f :: rest) := framed.of_eq
  exact Outcome.Keeps.ensuring (hx sv hsv awake entered) (fun h => h.of_eq) fun _ => rfl

/-! ### Suspension -/

theorem Services.Keep.suspend (hsv : sv.Keep limits past) (a : Awaited)
    (framed : m.Framed limits past frames) (awake : ∀ f ∈ frames.head?, f.asleep = none) :
    (sv.suspend a m).Resumes limits past frames m.world.now := by
  have suspended : ∀ f ∈ frames.modifyHead (.sleep m.world.now), f.asleep.isSome = true := by
    cases frames with
    | nil => exact List.forall_mem_nil _
    | cons f rest =>
        rintro g (_ | ⟨_, mem⟩)
        · rfl
        · exact framed.bounded.suspended g mem
  have waited := hsv.await a suspended (framed.suspend awake)
  simp only [Services.suspend, Run.ensuring]
  cases hm : sv.await a m.suspend with
  | done r m' => rw [hm] at waited; exact Machine.Framed.resume waited
  | fault e m' => rw [hm] at waited; exact waited.elim
  | cut why m' => rw [hm] at waited; exact waited

theorem keepsFrames_suspend (a : Awaited) :
    KeepsFrames limits past Reply fun sv => sv.suspend a := by
  intro sv hsv m f rest awake framed
  have waited := hsv.suspend a framed (by rintro _ ⟨⟩; exact awake)
  change (sv.suspend a m).Keeps limits past f rest
  cases hm : sv.suspend a m with
  | done r m' =>
      rw [hm] at waited
      exact ⟨(f.sleep m.world.now).wake m'.world.now, ⟨rfl, rfl, rfl, rfl, awake.symm⟩, waited⟩
  | fault e m' => rw [hm] at waited; exact waited.elim
  | cut why m' => rw [hm] at waited; exact waited

/-! ### Calls -/

theorem keepsFrames_replied (name : String) (reply : HostReply) :
    KeepsFrames limits past Value fun sv => sv.replied name reply := by
  simp only [Services.replied]
  cases reply.delay with
  | none => exact keepsFrames_plain (.receive name reply.result)
  | some ms =>
      intro sv hsv m f rest awake framed
      refine (keepsFrames_plain (.view fun _ _ _ => rfl) sv hsv awake framed).bind awake ?_
      intro now m g awake framed
      refine (keepsFrames_suspend _ sv hsv awake framed).bind awake ?_
      intro r m g awake framed
      exact keepsFrames_plain (.receive name r) sv hsv awake framed

theorem keepsFrames_callByName (name : String) (args : List Value) :
    KeepsFrames limits past Value fun sv => sv.callByName name args := by
  intro sv hsv m f rest awake framed
  simp only [Services.callByName]
  split
  · next host found =>
    let reply := host.answer
      { args, heap := m.world.heap, now := m.world.now, earlier := host.calls }
    have counted : Machine.Framed limits past (f :: rest)
        ⟨m.engine, m.world.countCall host.name⟩ := framed.of_eq
    have acted := counted.asides (asides_acts _ reply.acts)
    rw [Services.callHost_eq]
    exact keepsFrames_replied host.name reply sv hsv awake acted
  · split
    · next b _ => exact keepsFrames_plain (.callBuiltin b args) sv hsv awake framed
    · split
      · next user _ => exact hsv.call user args awake framed
      · exact keepsFrames_plain (.raise (Services.unknownFunction name)) sv hsv awake framed

/-- A refusal is not forgotten when a call ends because of it. -/
theorem RefusedIn.returned {number : Nat} {active : List String} {during : List Moment}
    (h : RefusedIn limits number rest active during) (registers : Registers) :
    RefusedIn limits number rest active (⟨.returned, registers⟩ :: during) := by
  obtain ⟨returns, name, at_, earlier, g, rfl, only, rest⟩ := h.refusal
  refine ⟨h.full, ⟨.returned, registers⟩ :: returns, name, at_, earlier, g, rfl, ?_, rest⟩
  rintro x (_ | ⟨_, mem⟩)
  · rfl
  · exact only x mem

theorem Machine.journal_popCall (m : Machine) : ∃ registers,
    m.popCall.engine.journal = m.engine.journal.map (⟨.returned, registers⟩ :: ·) := by
  simp only [Machine.popCall, Engine.record_eq]
  exact ⟨_, rfl⟩

/-- The end of a call: the frame has one active call less. -/
theorem Outcome.Keeps.popCall {x : Run α} {name : String} (awake : f.asleep = none)
    (h : (x m).Keeps limits past { f with calls := name :: f.calls } rest) :
    (x.ensuring Machine.popCall m).Keeps limits past f rest := by
  have popped {m : Machine} {g : OpenFrame}
      (goes : OpenFrame.GoesOn { f with calls := name :: f.calls } g)
      (framed : m.Framed limits past (g :: rest)) :
      ∃ g, f.GoesOn g ∧ m.popCall.Framed limits past (g :: rest) := by
    have calls : g.calls.tail = f.calls := congrArg List.tail goes.calls
    exact ⟨{ g with calls := g.calls.tail },
      ⟨goes.number, goes.fired, goes.begun, calls, goes.asleep⟩,
      framed.popCall (goes.asleep.trans awake)⟩
  simp only [Run.ensuring]
  cases hm : x m with
  | cut why m' => rw [hm] at h; exact h
  | done a m' =>
      rw [hm] at h
      obtain ⟨g, goes, framed⟩ := h
      exact popped goes framed
  | fault e m' =>
      rw [hm] at h
      obtain ⟨⟨g, goes, framed⟩, refused⟩ := h
      refine ⟨popped goes framed, ?_⟩
      intro active carried
      obtain ⟨during, journal, refusal⟩ := refused active carried
      obtain ⟨registers, written⟩ := m'.journal_popCall
      refine ⟨⟨.returned, registers⟩ :: during, ?_, refusal.returned registers⟩
      rw [written, journal]
      rfl

/-- A call is refused exactly if the frame has as many active calls as it may have. -/
theorem callUser_keeps {f : UserFunction} (args : List Value) (hsv : sv.Keep limits past)
    (bodies : KeepsFrames limits past Signal fun sv => execAll sv f.body)
    (awake : g.asleep = none) (framed : m.Framed limits past (g :: rest)) :
    (callUser sv f args m).Keeps limits past g rest := by
  have active : m.engine.callStack = g.calls := framed.shows.callStack
  by_cases room : g.calls.length < limits.maxRecursionDepth
  · have allowed : m.engine.limits.allowsCall m.engine.callStack.length = true := by
      rw [framed.fixed, active]
      exact decide_eq_true room
    rw [callUser_eq sv args allowed]
    have pushed := framed.pushCall awake room f.name
    have body := keepsFrames_inChildOf f.closure (bindParams f.params args []) bodies sv hsv
      (f := { g with calls := f.name :: g.calls }) awake pushed
    refine Outcome.Keeps.bind (body.popCall awake) awake ?_
    intro signal m g awake framed
    exact ⟨g, .refl g, framed⟩
  · have refused : m.engine.limits.allowsCall m.engine.callStack.length = false := by
      rw [framed.fixed, active]
      exact decide_eq_false room
    have full : g.calls.length = limits.maxRecursionDepth := by
      have most := framed.bounded.calls g List.mem_cons_self
      omega
    rw [callUser_eq_fault sv args refused]
    refine ⟨⟨g, .refl g, framed.refuse awake full f.name⟩, ?_⟩
    rintro _ ⟨⟩
    obtain ⟨during, journal, frames, -⟩ := framed.journal
    refine ⟨⟨.refused f.name, m.engine.registers⟩ :: during, ?_, ?_, ?_⟩
    · simp only [Machine.record, Engine.record_eq, journal]
      rfl
    · simp only [Engine.activeCalls, active, List.length_reverse, full]
    · exact ⟨[], f.name, _, during, g, rfl, List.forall_mem_nil _, frames,
        rfl, congrArg List.reverse active.symm, rfl⟩

end Law

/-! ### The law -/

section Frames

variable {limits : Limits} {past : List Moment} {rest frames : List OpenFrame} {m : Machine}
  {sv : Services}

theorem keepsFrames_define (name : String) (params : List String) (body : List Stmt) :
    KeepsFrames limits past Unit fun _ => Run.define name params body := by
  intro sv hsv m f rest awake framed
  simp only [Run.define]
  split
  · exact Outcome.keeps_of_unrefused rfl ⟨f, .refl f, framed⟩
  · exact ⟨f, .refl f, framed.of_eq⟩

theorem Machine.Framed.register (framed : m.Framed limits past frames) (event : String)
    (body : List Stmt) : (m.register event body).Framed limits past frames := by
  simp only [Machine.register]
  split
  · exact framed.of_eq
  · exact framed.of_eq

theorem keepsFrames_addHandler (event : String) (body : List Stmt) :
    KeepsFrames limits past Unit fun _ => Run.addHandler event body := by
  intro sv hsv m f rest awake framed
  simp only [Run.addHandler]
  split
  · exact ⟨f, .refl f, framed.register event body⟩
  · exact Outcome.keeps_of_unrefused rfl ⟨f, .refl f, framed⟩

theorem keepsFrames_openAt (base index : Value) :
    KeepsFrames limits past Unit fun _ => Run.openAt base index := by
  intro sv hsv m f rest awake framed
  dsimp only
  obtain opened | ⟨a, -, -, held⟩ := Run.openAt_cases base index m
  · rw [opened]
    exact ⟨f, .refl f, framed⟩
  · rw [held]
    exact ⟨f :: rest, framed⟩

/-- Everything that a script does in a frame keeps the frames. -/
theorem keepsFrames_law (limits : Limits) (past : List Moment) :
    Law True (KeepsFrames limits past) := by
  constructor
  case plain => exact keepsFrames_plain
  case bind =>
    intro α β x next hx hnext sv hsv m f rest awake framed
    exact (hx sv hsv awake framed).bind awake fun a _ _ awake framed => hnext a sv hsv awake framed
  case located =>
    intro α x loc _ hx sv hsv m f rest awake framed
    exact (hx sv hsv awake framed).located loc
  case attempt =>
    intro x otherwise hx hother sv hsv m f rest awake framed
    exact (hx sv hsv awake framed).attempt awake fun message _ _ awake framed =>
      hother message sv hsv awake framed
  case inChild =>
    intro α x vars hx sv hsv m f rest awake framed
    exact keepsFrames_inChildOf m.engine.scope vars hx sv hsv awake framed
  case bar =>
    intro loc sv hsv m f rest awake framed
    have barred := framed.note (.barred loc awake) fun _ => rfl
    exact Outcome.keeps_of_unrefused rfl ⟨f, .refl f, barred⟩
  case openAt => exact keepsFrames_openAt
  case emit =>
    intro event payload sv hsv m f rest awake framed
    exact ⟨f, .refl f, framed.asides (asides_emit m event payload)⟩
  case suspend => exact fun _ => keepsFrames_suspend _
  case callByName => exact keepsFrames_callByName
  case define => exact fun name params body _ => keepsFrames_define name params body
  case addHandler => exact fun event body _ => keepsFrames_addHandler event body

theorem keepsFrames_execAll (body : List Stmt) :
    KeepsFrames limits past Signal fun sv => execAll sv body :=
  execAll_law (keepsFrames_law limits past) body (.inl trivial)

/-! ### Handlers and waiting -/

theorem Machine.Framed.report (framed : m.Framed limits past frames) (message : String) :
    (m.report message).Framed limits past frames := by
  simp only [Machine.report]
  split
  · exact framed.of_eq
  · exact framed.of_eq

/-- A handler that has gone on in its frame leaves the frames that were open before it. -/
theorem Machine.Framed.leaves {f : OpenFrame} {m' : Machine} (before : m.Framed limits past frames)
    (awake : f.asleep = none) (kind : f.isHandler = true)
    (kept : ∃ g, f.GoesOn g ∧ m'.Framed limits past (g :: frames)) :
    (m'.leaveHandler m.engine.scope m.engine.callStack m.engine.clock).Framed limits past
      frames := by
  obtain ⟨g, goes, inside⟩ := kept
  have still : g.isHandler = true := (congrArg Option.isSome goes.fired).trans kind
  exact inside.leaveHandler (goes.asleep.trans awake) still before.shows.callStack
    before.shows.clock _

/-- The invocation of a handler comes and goes; the frames around it stay. -/
theorem runHandler_stays (hsv : sv.Keep limits past) (fired : Fired)
    (suspended : ∀ f ∈ frames, f.asleep.isSome = true)
    (room : m.engine.handlerDepth < maxHandlerNesting) (framed : m.Framed limits past frames) :
    (runHandler sv fired m).Stays limits past frames := by
  simp only [runHandler]
  split
  · exact framed
  · next h found =>
    split
    · exact framed
    · obtain ⟨number, entered⟩ := framed.enterHandler suspended room h fired.payload
      have body := keepsFrames_execAll h.body sv hsv rfl entered
      dsimp only at body
      cases hb : execAll sv h.body (m.enterHandler h fired.payload) with
      | cut why m' => rw [hb] at body; exact body
      | done signal m' => rw [hb] at body; exact framed.leaves rfl rfl body
      | fault f m' =>
          rw [hb] at body
          have left := framed.leaves rfl rfl body.1
          cases f with
          | cancelled => exact left
          | failure k d => exact left.report _

theorem Machine.Framed.dequeue {e e' : Engine} {w : World} {taker : Taker} {fired : Fired}
    (framed : Machine.Framed limits past frames ⟨e, w⟩)
    (taken : e.dequeue? taker = some (fired, e')) :
    Machine.Framed limits past frames ⟨e', w⟩ := by
  unfold Engine.dequeue? at taken
  split at taken
  · cases taken
  · cases taken
    exact framed.note (.taken taker fired) fun _ => rfl

theorem awaitWithin_stays (hsv : sv.Keep limits past) (a : Awaited) (rounds : Nat)
    (suspended : ∀ f ∈ frames, f.asleep.isSome = true) (framed : m.Framed limits past frames) :
    (awaitWithin sv a rounds m).Stays limits past frames := by
  induction rounds generalizing m with
  | zero => exact ⟨frames, framed⟩
  | succ rounds ih =>
      obtain ⟨e, w⟩ := m
      simp only [awaitWithin]
      split
      · next fired m₁ next_ =>
        obtain ⟨room, e', taken, rfl⟩ := nextFired?_eq_some next_
        have depth : e'.handlerDepth = e.handlerDepth := by
          obtain ⟨queue, journal, rfl⟩ := Engine.eq_of_dequeue? taken
          rfl
        have ran := runHandler_stays hsv fired suspended (depth ▸ room) (framed.dequeue taken)
        cases hr : runHandler sv fired ⟨e', w⟩ with
        | done b m₂ => rw [hr] at ran; exact ih ran
        | fault f m₂ => rw [hr] at ran; exact ran
        | cut why m₂ => rw [hr] at ran; exact ran
      · have shown : Machine.Framed limits past frames ⟨e, w.showQuestion⟩ :=
          framed.of_eq rfl rfl rfl rfl rfl w.alike_showQuestion.now
        split
        · exact shown
        · next waiting =>
          split
          · next m₂ passed => exact ih (shown.asides (asides_passTime? waiting passed))
          · exact ⟨frames, shown⟩

/-- Calls and waiting keep frames for every allowance. -/
theorem servicesWithin_keep (limits : Limits) (past : List Moment) (allowance : Nat) :
    (servicesWithin allowance).Keep limits past := by
  induction allowance with
  | zero =>
      constructor
      · intro f args m g rest awake framed
        exact ⟨g :: rest, framed⟩
      · intro a m frames suspended framed
        exact ⟨frames, framed⟩
  | succ allowance ih =>
      constructor
      · intro f args m g rest awake framed
        exact callUser_keeps args ih (keepsFrames_execAll f.body) awake framed
      · intro a m frames suspended framed
        exact awaitWithin_stays ih a allowance suspended framed

end Frames

end HostScript
