import HostScript.Proofs.Evolution.Asides
import HostScript.Proofs.Laws
import Mathlib.Algebra.GroupWithZero.Nat
import Mathlib.Algebra.Order.BigOperators.Group.List
import Mathlib.Algebra.Order.Group.Nat

/-!
# The frames that are open

The journal of an engine tells which frames are open: the top level and the invocations of
handlers that have begun and not ended, innermost first. It also tells which calls are active
in each of them, since when it is suspended, how long it was suspended before, and how much
time was charged to it when that was last checked. The registers of the engine hold this for
the innermost frame only, and what they held for the others has to come back when a frame
ends. A machine is framed when all of this fits together.

## Implementation notes

`Step.Fits` says once which steps may follow when some frames are open. Bounds on calls and
frames, and how the charged time of a frame grows, are read off a proper journal alone; the
machine is needed only to know that time does not run backwards.
-/

namespace HostScript

/-! ### Frames -/

/-- A frame that has begun and not ended. -/
structure OpenFrame where
  /-- The number of moments before the frame began; it tells frames apart. -/
  number : Nat
  /-- The event of a handler; the top level has none. -/
  fired : Option Fired
  begun : Nat
  /-- The functions whose calls are active in the frame, innermost first. -/
  calls : List String := []
  /-- Since when the frame is suspended. -/
  asleep : Option Nat := none
  /-- The time of all suspensions that have ended. -/
  away : Nat := 0
  /-- The time that was charged to the frame at the last check. -/
  charged : Nat := 0
  deriving DecidableEq

namespace OpenFrame

/-- The frame is the invocation of a handler. -/
def isHandler (f : OpenFrame) : Bool := f.fired.isSome

/-- The clock of the frame counts from its beginning, moved on by the time away. -/
def clock (f : OpenFrame) : RunClock := .started (f.begun + f.away)

/-- The functions whose calls are active in the frame, outermost first. -/
def activeCalls (f : OpenFrame) : List String := f.calls.reverse

/-- The frame is suspended. -/
def sleep (now : Nat) (f : OpenFrame) : OpenFrame := { f with asleep := some now }

/-- The frame goes on after a suspension. -/
def wake (now : Nat) (f : OpenFrame) : OpenFrame :=
  { f with asleep := none, away := f.away + (now - f.asleep.getD now) }

end OpenFrame

theorem countP_isHandler_cons {f g : OpenFrame} (same : g.fired = f.fired)
    (rest : List OpenFrame) :
    (g :: rest).countP OpenFrame.isHandler = (f :: rest).countP OpenFrame.isHandler := by
  have kind : g.isHandler = f.isHandler := congrArg Option.isSome same
  rw [List.countP_cons, List.countP_cons, kind]

/-- The open frames after a step that is preceded by `number` moments. -/
def Step.reshape (number : Nat) (frames : List OpenFrame) : Step → List OpenFrame
  | .entered now fired => { number, fired, begun := now } :: frames
  | .left => frames.tail
  | .checked _ elapsed _ => frames.modifyHead fun f => { f with charged := elapsed }
  | .called name => frames.modifyHead fun f => { f with calls := name :: f.calls }
  | .returned => frames.modifyHead fun f => { f with calls := f.calls.tail }
  | .suspended now => frames.modifyHead (OpenFrame.sleep now)
  | .resumed now => frames.modifyHead (OpenFrame.wake now)
  | _ => frames

/-- The frames that are open after some moments, innermost first; the moments come newest
first. -/
def framesIn : List Moment → List OpenFrame
  | [] => []
  | x :: earlier => x.step.reshape earlier.length (framesIn earlier)

/-- The steps that may come when some frames are open. -/
inductive Step.Fits (limits : Limits) : List OpenFrame → Step → Prop
  | queued {frames : List OpenFrame} (fired : Fired) : Fits limits frames (.queued fired)
  | taken {frames : List OpenFrame} (taker : Taker) (fired : Fired) :
      Fits limits frames (.taken taker fired)
  | stopped {frames : List OpenFrame} : Fits limits frames .stopped
  | topLevel (now : Nat) : Fits limits [] (.entered now none)
  | handler {frames : List OpenFrame} (now : Nat) (fired : Fired)
      (suspended : ∀ f ∈ frames, f.asleep.isSome = true)
      (room : frames.countP OpenFrame.isHandler < maxHandlerNesting) :
      Fits limits frames (.entered now (some fired))
  | left {f : OpenFrame} {rest : List OpenFrame} (awake : f.asleep = none) :
      Fits limits (f :: rest) .left
  | checked {f : OpenFrame} {rest : List OpenFrame} {now elapsed : Nat}
      (awake : f.asleep = none) (exact : f.begun + f.away + elapsed = now)
      (grown : f.charged ≤ elapsed) :
      Fits limits (f :: rest) (.checked now elapsed (decide (elapsed ≤ limits.timeout)))
  | begins {f : OpenFrame} {rest : List OpenFrame} {s : Step} (begins : s.begins = true)
      (awake : f.asleep = none) (inTime : f.charged ≤ limits.timeout) :
      Fits limits (f :: rest) s
  | barred {f : OpenFrame} {rest : List OpenFrame} (loc : Location) (awake : f.asleep = none) :
      Fits limits (f :: rest) (.barred loc)
  | called {f : OpenFrame} {rest : List OpenFrame} (name : String) (awake : f.asleep = none)
      (room : f.calls.length < limits.maxRecursionDepth) : Fits limits (f :: rest) (.called name)
  | refused {f : OpenFrame} {rest : List OpenFrame} (name : String) (awake : f.asleep = none)
      (full : f.calls.length = limits.maxRecursionDepth) :
      Fits limits (f :: rest) (.refused name)
  | returned {f : OpenFrame} {rest : List OpenFrame} (awake : f.asleep = none) :
      Fits limits (f :: rest) .returned
  | suspended {frames : List OpenFrame} (now : Nat)
      (awake : ∀ f ∈ frames.head?, f.asleep = none) : Fits limits frames (.suspended now)
  | resumed {frames : List OpenFrame} (now : Nat)
      (asleep : ∀ f ∈ frames.head?, ∃ since ≤ now, f.asleep = some since) :
      Fits limits frames (.resumed now)

/-- The registers hold what is active in the innermost frame, and count the handlers. -/
structure Registers.Show (r : Registers) (frames : List OpenFrame) : Prop where
  callStack : r.callStack = (frames.head?.map OpenFrame.calls).getD []
  clock : r.clock = (frames.head?.map OpenFrame.clock).getD .stopped
  handlerDepth : r.handlerDepth = frames.countP OpenFrame.isHandler

/-- Every moment fits what came before it, and shows the frames that are open. -/
def Proper (limits : Limits) (during : List Moment) : Prop :=
  ∀ x earlier, x :: earlier <:+ during →
    x.step.Fits limits (framesIn earlier) ∧ x.registers.Show (framesIn (x :: earlier))

/-! ### What a proper journal tells -/

/-- How many frames and calls there can be. At most one frame is not the invocation of a
handler, and all but the innermost are suspended. -/
structure FramesWithin (limits : Limits) (frames : List OpenFrame) : Prop where
  calls : ∀ f ∈ frames, f.calls.length ≤ limits.maxRecursionDepth
  handlers : frames.countP OpenFrame.isHandler ≤ maxHandlerNesting
  length : frames.length ≤ frames.countP OpenFrame.isHandler + 1
  suspended : ∀ f ∈ frames.tail, f.asleep.isSome = true

section Proper

variable {limits : Limits} {frames rest : List OpenFrame} {f g : OpenFrame} {s : Step}
  {during earlier later : List Moment} {x : Moment}

theorem Proper.nil : Proper limits [] := by
  intro x earlier suffix
  simp at suffix

theorem Proper.cons (h : Proper limits during) (fits : x.step.Fits limits (framesIn during))
    (shows : x.registers.Show (framesIn (x :: during))) : Proper limits (x :: during) := by
  intro y earlier suffix
  rcases List.suffix_cons_iff.mp suffix with heq | older
  · cases heq
    exact ⟨fits, shows⟩
  · exact h y earlier older

theorem Proper.suffix (h : Proper limits during) (suffix : earlier <:+ during) :
    Proper limits earlier :=
  fun y older before => h y older (before.trans suffix)

/-- The innermost frame may change, as long as it does not get too many calls. -/
theorem FramesWithin.replace (h : FramesWithin limits (f :: rest)) (same : g.fired = f.fired)
    (room : g.calls.length ≤ limits.maxRecursionDepth) : FramesWithin limits (g :: rest) := by
  have handlers := countP_isHandler_cons same rest
  refine ⟨?_, handlers ▸ h.handlers, handlers ▸ h.length, h.suspended⟩
  rintro k (_ | ⟨_, mem⟩)
  · exact room
  · exact h.calls k (List.mem_cons_of_mem _ mem)

/-- A new frame begins when all others are suspended. -/
theorem FramesWithin.enter (h : FramesWithin limits rest) (calls : f.calls = [])
    (suspended : ∀ g ∈ rest, g.asleep.isSome = true)
    (room : rest = [] ∨ f.isHandler = true ∧
      rest.countP OpenFrame.isHandler < maxHandlerNesting) : FramesWithin limits (f :: rest) := by
  refine ⟨?_, ?_, ?_, suspended⟩
  · rintro k (_ | ⟨_, mem⟩)
    · simp [calls]
    · exact h.calls k mem
  · rcases room with rfl | ⟨kind, room⟩
    · exact List.countP_le_length.trans (Nat.le_add_left 1 7)
    · rw [List.countP_cons_of_pos kind]
      exact room
  · rcases room with rfl | ⟨kind, -⟩
    · simp
    · rw [List.countP_cons_of_pos kind]
      exact Nat.succ_le_succ h.length

theorem FramesWithin.leave (h : FramesWithin limits (f :: rest)) : FramesWithin limits rest := by
  have handlers := h.handlers
  have length := h.length
  rw [List.countP_cons] at handlers length
  simp only [List.length_cons] at length
  refine ⟨fun g mem => h.calls g (List.mem_cons_of_mem _ mem), by omega, ?_,
    fun g mem => h.suspended g (List.mem_of_mem_tail mem)⟩
  split at length
  · omega
  · omega

/-- A step that fits keeps the bounds. -/
theorem Step.Fits.bounded (fits : s.Fits limits frames) (h : FramesWithin limits frames)
    (number : Nat) : FramesWithin limits (s.reshape number frames) := by
  cases fits with
  | queued | taken | stopped | barred | refused => exact h
  | topLevel now => exact h.enter rfl (List.forall_mem_nil _) (.inl rfl)
  | handler now fired suspended room => exact h.enter rfl suspended (.inr ⟨rfl, room⟩)
  | left awake => exact h.leave
  | checked awake exact grown =>
      have room := h.calls _ List.mem_cons_self
      exact h.replace rfl room
  | begins begins =>
      cases s with
      | statement | round => exact h
      | _ => cases begins
  | called name awake room => exact h.replace rfl room
  | returned awake =>
      have room := h.calls _ List.mem_cons_self
      refine h.replace rfl ?_
      simp only [List.length_tail]
      omega
  | suspended now awake =>
      cases frames with
      | nil => exact h
      | cons f rest =>
          have room := h.calls f List.mem_cons_self
          exact h.replace rfl room
  | resumed now asleep =>
      cases frames with
      | nil => exact h
      | cons f rest =>
          have room := h.calls f List.mem_cons_self
          exact h.replace rfl room

/-- The bounds hold at every moment. -/
theorem Proper.bounded (h : Proper limits during) : FramesWithin limits (framesIn during) := by
  induction during with
  | nil => exact ⟨List.forall_mem_nil _, Nat.zero_le _, Nat.zero_le _, List.forall_mem_nil _⟩
  | cons x earlier ih =>
      have before := ih (h.suffix (List.suffix_cons _ _))
      exact (h x earlier List.suffix_rfl).1.bounded before earlier.length

/-- All frames together have not more active calls than nine times the limit. -/
theorem FramesWithin.sum_calls_le (h : FramesWithin limits frames) :
    (frames.map fun f => f.calls.length).sum ≤
      (maxHandlerNesting + 1) * limits.maxRecursionDepth := by
  have each : ∀ n ∈ frames.map (fun f => f.calls.length), n ≤ limits.maxRecursionDepth := by
    intro n mem
    obtain ⟨f, hf, rfl⟩ := List.mem_map.mp mem
    exact h.calls f hf
  have count : frames.length ≤ maxHandlerNesting + 1 := by
    have handlers := h.handlers
    have length := h.length
    omega
  calc (frames.map fun f => f.calls.length).sum
      ≤ frames.length * limits.maxRecursionDepth := by
        simpa using List.sum_le_card_nsmul _ _ each
    _ ≤ (maxHandlerNesting + 1) * limits.maxRecursionDepth := Nat.mul_le_mul_right _ count

/-- Where the frames after a step come from: a frame is new, or it was there with the same
number and not more time charged. -/
theorem Step.Fits.origin (fits : s.Fits limits frames) (number : Nat) :
    ∀ g ∈ s.reshape number frames,
      g.number = number ∨ ∃ f ∈ frames, f.number = g.number ∧ f.charged ≤ g.charged := by
  have same {g : OpenFrame} (mem : g ∈ frames) :
      ∃ f ∈ frames, f.number = g.number ∧ f.charged ≤ g.charged := ⟨g, mem, rfl, le_rfl⟩
  have changed {change : OpenFrame → OpenFrame} {g : OpenFrame}
      (mem : g ∈ frames.modifyHead change)
      (grown : ∀ f ∈ frames.head?, (change f).number = f.number ∧ f.charged ≤ (change f).charged) :
      ∃ f ∈ frames, f.number = g.number ∧ f.charged ≤ g.charged := by
    cases frames with
    | nil => cases mem
    | cons f rest =>
        obtain ⟨number, charged⟩ := grown f rfl
        rcases List.mem_cons.mp mem with rfl | old
        · exact ⟨f, List.mem_cons_self, number.symm, charged⟩
        · exact same (List.mem_cons_of_mem _ old)
  intro g mem
  cases fits with
  | queued | taken | stopped | barred | refused => exact .inr (same mem)
  | topLevel | handler =>
      rcases List.mem_cons.mp mem with rfl | old
      · exact .inl rfl
      · exact .inr (same old)
  | left => exact .inr (same (List.mem_of_mem_tail mem))
  | checked awake exact grown =>
      simp only [Step.reshape] at mem
      refine .inr (changed mem ?_)
      rintro _ ⟨⟩
      exact ⟨rfl, grown⟩
  | begins begins =>
      cases s with
      | statement | round => exact .inr (same mem)
      | _ => cases begins
  | called | returned | suspended | resumed =>
      simp only [Step.reshape] at mem
      exact .inr (changed mem fun _ _ => ⟨rfl, le_rfl⟩)

theorem map_number_modifyHead {change : OpenFrame → OpenFrame}
    (same : ∀ f, (change f).number = f.number) (frames : List OpenFrame) :
    (frames.modifyHead change).map OpenFrame.number = frames.map OpenFrame.number := by
  cases frames with
  | nil => rfl
  | cons f rest => simp only [List.modifyHead_cons, List.map_cons, same]

/-- Frames are numbered by moments that have been, inner frames by later ones. -/
theorem numbers_framesIn (during : List Moment) :
    ((framesIn during).map OpenFrame.number).Pairwise (· > ·) ∧
      ∀ f ∈ framesIn during, f.number < during.length := by
  induction during with
  | nil => exact ⟨.nil, List.forall_mem_nil _⟩
  | cons x earlier ih =>
      obtain ⟨sorted, past⟩ := ih
      have later : ∀ n ∈ (framesIn earlier).map OpenFrame.number, n < earlier.length := by
        intro n mem
        obtain ⟨f, hf, rfl⟩ := List.mem_map.mp mem
        exact past f hf
      have kept (frames : List OpenFrame)
          (same : frames.map OpenFrame.number = (framesIn earlier).map OpenFrame.number) :
          (frames.map OpenFrame.number).Pairwise (· > ·) ∧
            ∀ f ∈ frames, f.number < earlier.length + 1 := by
        rw [same]
        refine ⟨sorted, fun f mem => Nat.lt_succ_of_lt (later _ ?_)⟩
        rw [← same]
        exact List.mem_map_of_mem mem
      rw [framesIn, List.length_cons]
      cases x.step with
      | entered now fired =>
          refine ⟨List.pairwise_cons.mpr ⟨later, sorted⟩, ?_⟩
          rintro f (_ | ⟨_, mem⟩)
          · exact Nat.lt_succ_self _
          · exact Nat.lt_succ_of_lt (past f mem)
      | left =>
          refine ⟨?_, fun f mem => Nat.lt_succ_of_lt (past f (List.mem_of_mem_tail mem))⟩
          rw [Step.reshape, List.map_tail]
          exact sorted.tail
      | checked | called | returned | suspended | resumed =>
          apply kept
          apply map_number_modifyHead
          exact fun _ => rfl
      | _ => exact kept _ rfl

/-- The time charged to a frame does not fall as long as the frame is open. -/
theorem Proper.charged_le {number charged : Nat} (h : Proper limits (later ++ earlier))
    (old : number < earlier.length)
    (before : ∀ f ∈ framesIn earlier, f.number = number → charged ≤ f.charged) :
    ∀ f ∈ framesIn (later ++ earlier), f.number = number → charged ≤ f.charged := by
  induction later with
  | nil => exact before
  | cons x later ih =>
      intro g mem same
      rcases (h x _ List.suffix_rfl).1.origin _ g mem with new | ⟨f, there, number, grown⟩
      · -- The frame began after all earlier moments, so its number is a later one.
        have length : (later ++ earlier).length = later.length + earlier.length :=
          List.length_append
        have late : g.number = (later ++ earlier).length := new
        omega
      · have least := ih (h.suffix (List.suffix_cons _ _)) f there (number.trans same)
        exact least.trans grown

end Proper

/-! ### Machines and their frames -/

/-- What is charged to a frame and the time it was away lie between its beginning and now, or
the time when it was suspended. -/
def Timely (now : Nat) (frames : List OpenFrame) : Prop :=
  ∀ f ∈ frames, f.begun + f.away + f.charged ≤ f.asleep.getD now ∧ f.asleep.getD now ≤ now

/-- The journal since `past` is proper, `frames` are open, and the machine shows them. -/
structure Machine.Framed (limits : Limits) (past : List Moment) (frames : List OpenFrame)
    (m : Machine) : Prop where
  fixed : m.engine.limits = limits
  shows : m.engine.registers.Show frames
  timely : Timely m.world.now frames
  journal : ∃ during, m.engine.journal = some (during ++ past) ∧ framesIn during = frames ∧
    Proper limits during

section Framed

variable {limits : Limits} {past : List Moment} {frames rest : List OpenFrame} {f : OpenFrame}
  {s : Step} {m m' : Machine} {e : Engine} {w : World} {now : Nat}

theorem Timely.later (h : Timely now frames) {after : Nat} (later : now ≤ after) :
    Timely after frames := by
  intro f mem
  obtain ⟨charged, begun⟩ := h f mem
  cases hs : f.asleep with
  | none =>
      simp only [hs, Option.getD_none] at charged ⊢
      omega
  | some since =>
      simp only [hs, Option.getD_some] at charged begun ⊢
      omega

theorem Timely.cons (first : f.begun + f.away + f.charged ≤ f.asleep.getD now ∧
    f.asleep.getD now ≤ now) (h : Timely now rest) : Timely now (f :: rest) := by
  rintro g (_ | ⟨_, mem⟩)
  · exact first
  · exact h g mem

theorem Timely.tail (h : Timely now (f :: rest)) : Timely now rest :=
  fun g mem => h g (List.mem_cons_of_mem _ mem)

theorem Machine.Framed.bounded (h : m.Framed limits past frames) : FramesWithin limits frames := by
  obtain ⟨during, -, rfl, proper⟩ := h.journal
  exact proper.bounded

/-- What has nothing to do with frames may change. -/
theorem Machine.Framed.of_eq (h : m.Framed limits past frames)
    (same : m'.engine.limits = m.engine.limits := by rfl)
    (callStack : m'.engine.callStack = m.engine.callStack := by rfl)
    (clock : m'.engine.clock = m.engine.clock := by rfl)
    (handlerDepth : m'.engine.handlerDepth = m.engine.handlerDepth := by rfl)
    (journal : m'.engine.journal = m.engine.journal := by rfl)
    (now : m'.world.now = m.world.now := by rfl) : m'.Framed limits past frames where
  fixed := same.trans h.fixed
  shows := ⟨callStack.trans h.shows.callStack, clock.trans h.shows.clock,
    handlerDepth.trans h.shows.handlerDepth⟩
  timely := now ▸ h.timely
  journal := journal ▸ h.journal

/-- A step can be written that fits the frames, if the registers show the frames after it. -/
theorem Machine.Framed.write (h : m.Framed limits past frames) (fits : s.Fits limits frames)
    (same : e.limits = m.engine.limits) (journal : e.journal = m.engine.journal)
    (shows : ∀ number, e.registers.Show (s.reshape number frames))
    (timely : ∀ number, Timely w.now (s.reshape number frames)) :
    ∃ number, Machine.Framed limits past (s.reshape number frames) ⟨e.record s, w⟩ := by
  obtain ⟨during, before, rfl, proper⟩ := h.journal
  have registers : (e.record s).registers = e.registers := by
    simp only [Engine.record_eq, Engine.registers]
  refine ⟨during.length, ⟨?_, registers ▸ shows _, timely _, ⟨s, e.registers⟩ :: during, ?_, rfl,
    proper.cons fits (shows _)⟩⟩
  · rw [Engine.record_eq]
    exact same.trans h.fixed
  · rw [Engine.record_eq, journal, before]
    rfl

/-- Writing a step that concerns no frame. -/
theorem Machine.Framed.note (h : m.Framed limits past frames) (fits : s.Fits limits frames)
    (unmoved : ∀ number, s.reshape number frames = frames)
    (same : e.limits = m.engine.limits := by rfl)
    (callStack : e.callStack = m.engine.callStack := by rfl)
    (clock : e.clock = m.engine.clock := by rfl)
    (handlerDepth : e.handlerDepth = m.engine.handlerDepth := by rfl)
    (journal : e.journal = m.engine.journal := by rfl)
    (now : w.now = m.world.now := by rfl) :
    Machine.Framed limits past frames ⟨e.record s, w⟩ := by
  obtain ⟨number, written⟩ := h.write (e := e) (w := w) fits same journal
    (fun number => by
      rw [unmoved]
      exact ⟨callStack.trans h.shows.callStack, clock.trans h.shows.clock,
        handlerDepth.trans h.shows.handlerDepth⟩)
    fun number => by
      rw [unmoved, now]
      exact h.timely
  rwa [unmoved] at written

/-- What the host does beside a script leaves the frames alone. -/
theorem Machine.Framed.asides (h : m.Framed limits past frames) (beside : Asides m m') :
    m'.Framed limits past frames := by
  induction beside with
  | refl => exact h
  | tail _ step framed =>
      cases step with
      | host alike => exact framed.of_eq rfl rfl rfl rfl rfl alike.now
      | time later => exact ⟨framed.fixed, framed.shows, framed.timely.later later, framed.journal⟩
      | timeline suffix => exact framed.of_eq
      | enqueue fired reached => exact framed.note (.queued fired) fun _ => rfl
      | stop => exact framed.note .stopped fun _ => rfl

/-! The frame that runs. -/

/-- The clock of the frame that runs shows the time since its beginning less the time away. -/
theorem Machine.Framed.elapsed (h : m.Framed limits past (f :: rest)) (awake : f.asleep = none) :
    f.begun + f.away + m.engine.clock.elapsed m.world.now = m.world.now ∧
      f.charged ≤ m.engine.clock.elapsed m.world.now := by
  have charged := (h.timely f List.mem_cons_self).1
  have clock : m.engine.clock = f.clock := h.shows.clock
  rw [awake, Option.getD_none] at charged
  simp only [clock, OpenFrame.clock, RunClock.started, RunClock.elapsed]
  omega

theorem Machine.Framed.isNone_timeoutFault? (h : m.Framed limits past frames) :
    m.timeoutFault?.isNone = decide (m.engine.clock.elapsed m.world.now ≤ limits.timeout) := by
  simp only [Machine.timeoutFault?, Limits.timeoutFault?, h.fixed]
  split
  · next late => simpa using late
  · next inTime => simpa using Nat.le_of_not_lt inTime

/-- Notable moments leave the frames as they are, but for the time that is charged. -/
theorem Machine.Framed.notable (h : m.Framed limits past (f :: rest)) (awake : f.asleep = none)
    {during added : List Moment} (frames : framesIn during = f :: rest)
    (proper : Proper limits during) (notable : ∀ x ∈ added, m.Notable x) :
    ∃ charged, f.begun + f.away + charged ≤ m.world.now ∧
      framesIn (added ++ during) = { f with charged } :: rest ∧
      Proper limits (added ++ during) := by
  obtain ⟨exact, grown⟩ := h.elapsed awake
  induction added with
  | nil => exact ⟨f.charged, by omega, frames, proper⟩
  | cons x added ih =>
      obtain ⟨charged, before, same, proper⟩ :=
        ih fun y mem => notable y (List.mem_cons_of_mem _ mem)
      have noted := notable x List.mem_cons_self
      have shows (charged : Nat) : x.registers.Show ({ f with charged } :: rest) :=
        ⟨noted.callStack.trans h.shows.callStack, noted.clock.trans h.shows.clock,
          noted.handlerDepth.trans (h.shows.handlerDepth.trans (countP_isHandler_cons rfl _))⟩
      rcases noted.step with checked | ⟨inTime, begins⟩
      · have frames : framesIn (x :: (added ++ during)) =
            { f with charged := m.engine.clock.elapsed m.world.now } :: rest := by
          rw [framesIn, same, checked]
          rfl
        refine ⟨m.engine.clock.elapsed m.world.now, exact.le, frames, ?_⟩
        refine proper.cons ?_ (frames ▸ shows _)
        rw [same, checked, h.isNone_timeoutFault?]
        exact .checked awake exact (by dsimp only; omega)
      · have frames : framesIn (x :: (added ++ during)) = { f with charged } :: rest := by
          rw [framesIn, same]
          cases hs : x.step with
          | statement | round => rfl
          | _ => rw [hs] at begins; cases begins
        refine ⟨charged, before, frames, proper.cons ?_ (frames ▸ shows _)⟩
        have left : m.engine.clock.elapsed m.world.now ≤ limits.timeout := by
          have passed := h.isNone_timeoutFault?
          rw [inTime] at passed
          simpa using passed.symm
        rw [same]
        exact .begins begins awake (by dsimp only; omega)

end Framed

/-! ### Opening and closing frames -/

section Operations

variable {limits : Limits} {past : List Moment} {frames rest : List OpenFrame} {f : OpenFrame}
  {m : Machine}

theorem Machine.Framed.suspend (h : m.Framed limits past frames)
    (awake : ∀ f ∈ frames.head?, f.asleep = none) :
    m.suspend.Framed limits past (frames.modifyHead (.sleep m.world.now)) := by
  have shows : m.engine.registers.Show (frames.modifyHead (.sleep m.world.now)) := by
    cases frames with
    | nil => exact h.shows
    | cons f rest =>
        exact ⟨h.shows.callStack, h.shows.clock,
          h.shows.handlerDepth.trans (countP_isHandler_cons rfl _)⟩
  have timely : Timely m.world.now (frames.modifyHead (.sleep m.world.now)) := by
    cases frames with
    | nil => exact h.timely
    | cons f rest =>
        have before := (h.timely f List.mem_cons_self).1
        rw [awake f rfl] at before
        exact h.timely.tail.cons ⟨before, le_rfl⟩
  obtain ⟨number, written⟩ := h.write (.suspended m.world.now awake) rfl rfl
    (fun _ => shows) fun _ => timely
  exact written

/-- After a suspension the clock counts as if its time had not been. -/
theorem Machine.Framed.resume {started : Nat}
    (h : m.Framed limits past (frames.modifyHead (.sleep started))) :
    (m.resume started).Framed limits past
      (frames.modifyHead fun f => (f.sleep started).wake m.world.now) := by
  have asleep : ∀ f ∈ (frames.modifyHead (.sleep started)).head?,
      ∃ since ≤ m.world.now, f.asleep = some since := by
    cases frames with
    | nil => rintro _ ⟨⟩
    | cons f rest =>
        rintro _ ⟨⟩
        exact ⟨started, (h.timely _ List.mem_cons_self).2, rfl⟩
  obtain ⟨number, written⟩ := h.write (w := m.world)
    (e := { m.engine with clock := m.engine.clock.exclude (m.world.now - started) })
    (.resumed m.world.now asleep) rfl rfl
    (fun _ => by
      cases frames with
      | nil =>
          have stopped : m.engine.clock = .stopped := h.shows.clock
          refine ⟨h.shows.callStack, ?_, h.shows.handlerDepth⟩
          simp only [Engine.registers, stopped]
          rfl
      | cons f rest =>
          have running : m.engine.clock = f.clock := h.shows.clock
          refine ⟨h.shows.callStack, ?_, h.shows.handlerDepth.trans (countP_isHandler_cons rfl _)⟩
          simp only [Engine.registers, running, OpenFrame.clock, RunClock.exclude,
            RunClock.started, Option.map_some, Nat.add_assoc]
          rfl)
    fun _ => by
      cases frames with
      | nil => exact h.timely
      | cons f rest =>
          obtain ⟨before, since⟩ := h.timely _ List.mem_cons_self
          simp only [OpenFrame.sleep, Option.getD_some] at before since
          refine h.timely.tail.cons ⟨?_, le_rfl⟩
          simp only [OpenFrame.wake, OpenFrame.sleep, Option.getD_some, Option.getD_none]
          omega
  rw [Step.reshape, List.modifyHead_modifyHead] at written
  exact written

theorem Machine.Framed.pushCall (h : m.Framed limits past (f :: rest)) (awake : f.asleep = none)
    (room : f.calls.length < limits.maxRecursionDepth) (name : String) :
    (m.pushCall name).Framed limits past ({ f with calls := name :: f.calls } :: rest) := by
  have active : m.engine.callStack = f.calls := h.shows.callStack
  obtain ⟨number, written⟩ := h.write (w := m.world)
    (e := { m.engine with callStack := name :: m.engine.callStack })
    (.called name awake room) rfl rfl
    (fun _ => ⟨congrArg (name :: ·) active, h.shows.clock,
      h.shows.handlerDepth.trans (countP_isHandler_cons rfl _)⟩)
    fun _ => h.timely.tail.cons (h.timely f List.mem_cons_self)
  exact written

theorem Machine.Framed.popCall (h : m.Framed limits past (f :: rest)) (awake : f.asleep = none) :
    m.popCall.Framed limits past ({ f with calls := f.calls.tail } :: rest) := by
  have active : m.engine.callStack = f.calls := h.shows.callStack
  obtain ⟨number, written⟩ := h.write (w := m.world)
    (e := { m.engine with callStack := m.engine.callStack.tail }) (.returned awake) rfl rfl
    (fun _ => ⟨congrArg List.tail active, h.shows.clock,
      h.shows.handlerDepth.trans (countP_isHandler_cons rfl _)⟩)
    fun _ => h.timely.tail.cons (h.timely f List.mem_cons_self)
  exact written

/-- A call is refused when the frame has as many calls as it may have. -/
theorem Machine.Framed.refuse (h : m.Framed limits past (f :: rest)) (awake : f.asleep = none)
    (full : f.calls.length = limits.maxRecursionDepth) (name : String) :
    (m.record (.refused name)).Framed limits past (f :: rest) :=
  h.note (.refused name awake full) fun _ => rfl

theorem Machine.Framed.enterHandler (h : m.Framed limits past frames)
    (suspended : ∀ f ∈ frames, f.asleep.isSome = true)
    (room : m.engine.handlerDepth < maxHandlerNesting) (k : Handler) (payload : Value) :
    ∃ number, (m.enterHandler k payload).Framed limits past
      ({ number, fired := some ⟨k.id, payload⟩, begun := m.world.now } :: frames) := by
  have depth : m.engine.handlerDepth = frames.countP OpenFrame.isHandler := h.shows.handlerDepth
  have fits : Step.Fits limits frames (.entered m.world.now (some ⟨k.id, payload⟩)) :=
    .handler _ _ suspended (depth ▸ room)
  refine h.write fits rfl rfl (fun number => ⟨rfl, rfl, ?_⟩) fun number => ?_
  · rw [Step.reshape, List.countP_cons_of_pos rfl, ← depth]
    rfl
  · exact h.timely.cons ⟨le_rfl, le_rfl⟩

/-- When a handler ends, the registers show again the frames that were open before it. -/
theorem Machine.Framed.leaveHandler (h : m.Framed limits past (f :: frames))
    (awake : f.asleep = none) (kind : f.isHandler = true) {callStack : List String}
    {clock : RunClock} (calls : callStack = (frames.head?.map OpenFrame.calls).getD [])
    (time : clock = (frames.head?.map OpenFrame.clock).getD .stopped) (scope : ScopeId) :
    (m.leaveHandler scope callStack clock).Framed limits past frames := by
  have depth : m.engine.handlerDepth = (f :: frames).countP OpenFrame.isHandler :=
    h.shows.handlerDepth
  obtain ⟨number, written⟩ := h.write (w := m.world)
    (e := { m.engine with scope, callStack, clock, handlerDepth := m.engine.handlerDepth - 1 })
    (.left awake) rfl rfl
    (fun _ => ⟨calls, time, by
      rw [List.countP_cons_of_pos kind] at depth
      simp only [Engine.registers, Step.reshape, List.tail_cons]
      omega⟩)
    fun _ => h.timely.tail
  exact written

theorem Machine.Framed.beginRun (h : m.Framed limits past []) :
    ∃ number, m.beginRun.Framed limits past
      [{ number, fired := none, begun := m.world.now }] :=
  h.write (.topLevel m.world.now) rfl rfl (fun _ => ⟨rfl, rfl, h.shows.handlerDepth⟩)
    fun _ => h.timely.cons ⟨le_rfl, le_rfl⟩

theorem Machine.Framed.endRun (h : m.Framed limits past [f]) (awake : f.asleep = none)
    (kind : f.isHandler = false) (calls : f.calls = []) (state : RunState) :
    (m.endRun state).Framed limits past [] := by
  have active : m.engine.callStack = f.calls := h.shows.callStack
  have depth : m.engine.handlerDepth = [f].countP OpenFrame.isHandler := h.shows.handlerDepth
  obtain ⟨number, written⟩ := h.write (w := m.world)
    (e := { m.engine with
      stopping := false
      scope := m.engine.globals
      clock := .stopped
      state := state }) (.left awake) rfl rfl
    (fun _ => ⟨active.trans calls, rfl, by
      rw [List.countP_cons_of_neg (by simp [kind])] at depth
      exact depth⟩)
    fun _ => List.forall_mem_nil _
  exact written

end Operations

end HostScript
