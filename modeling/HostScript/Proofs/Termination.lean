import HostScript.Proofs.Laws
import HostScript.Proofs.Starvation
import Mathlib

/-!
# Scripts without handlers end

A program that registers no handler, on an engine without handlers, ends for every choice of
limits. Its functions may call each other and be defined anew while they run, and its loops
may make the collections grow that they go through. What bounds it is the number of calls
that may still be made, then the syntax, and in each loop the number of rounds left; while
it waits, the things that the host has still to do and the events that are queued.

It ends with a value or with a fault unless it comes to an assignment to an object under a
key whose text looks into the object, and there are programs that do.

## Implementation notes

An allowance is large enough if every larger one leads to the same end. How large it has to
be is only known when the run is: the queue may grow with each emission, and waiting takes
one turn for each event in it. So a computation is said to settle, and the bounds of its
parts are put together as it goes on.
-/

namespace HostScript

/-! ### Engines without handlers -/

/-- Events were queued or taken or a stop was requested, and nothing else happened. -/
def Engine.Notified (e e' : Engine) : Prop :=
  ∃ queue stopping journal, e' = { e with queue, stopping, journal }

/-- An engine without handlers and with functions that register none, at a point where the
functions `calls` are active. -/
structure Machine.Handlerless (limits : Limits) (calls : List String) (m : Machine) : Prop where
  handlers : m.engine.handlers.handlers = []
  functions : ∀ f ∈ m.engine.functions, Stmt.handlerFreeAll f.2.body = true
  limits : m.engine.limits = limits
  callStack : m.engine.callStack = calls

section Notified

variable {e e₁ e' : Engine} {m m' : Machine} {limits : Limits} {calls : List String}

theorem Engine.Notified.refl (e : Engine) : e.Notified e := ⟨e.queue, e.stopping, e.journal, rfl⟩

theorem Engine.Notified.trans (first : e.Notified e₁) (then_ : e₁.Notified e') :
    e.Notified e' := by
  obtain ⟨_, _, _, rfl⟩ := first
  obtain ⟨queue, stopping, journal, rfl⟩ := then_
  exact ⟨queue, stopping, journal, rfl⟩

theorem Engine.notified_enqueue (e : Engine) (fired : Fired) : e.Notified (e.enqueue fired) :=
  ⟨_, _, _, Engine.record_eq _ _⟩

theorem Engine.notified_record (e : Engine) (s : Step) : e.Notified (e.record s) :=
  ⟨_, _, _, Engine.record_eq _ _⟩

theorem Engine.notified_requestStop (e : Engine) : e.Notified e.requestStop :=
  ⟨_, _, _, Engine.record_eq _ _⟩

theorem Asides.notified (h : Asides m m') : m.engine.Notified m'.engine := by
  induction h with
  | refl => exact .refl _
  | tail _ step earlier =>
      refine earlier.trans ?_
      cases step with
      | host alike => exact .refl _
      | time later => exact .refl _
      | timeline suffix => exact .refl _
      | enqueue fired reached => exact Engine.notified_enqueue _ fired
      | stop => exact Engine.notified_requestStop _

theorem Machine.Handlerless.notified (h : m.Handlerless limits calls)
    (notified : m.engine.Notified m'.engine) : m'.Handlerless limits calls := by
  obtain ⟨queue, stopping, journal, same⟩ := notified
  refine ⟨?_, ?_, ?_, ?_⟩
  · rw [same]
    exact h.handlers
  · rw [same]
    exact h.functions
  · rw [same]
    exact h.limits
  · rw [same]
    exact h.callStack

theorem Machine.Handlerless.sameCore (h : m.Handlerless limits calls) (same : m.SameCore m') :
    m'.Handlerless limits calls where
  handlers := by rw [same.handlers]; exact h.handlers
  functions := by rw [same.functions]; exact h.functions
  limits := same.limits.trans h.limits
  callStack := same.callStack.trans h.callStack

end Notified

/-! ### Waiting -/

section Waiting

variable {limits : Limits} {calls : List String} {a : Awaited}

/-- Events find no handler. -/
theorem Machine.Handlerless.runHandler_eq {m : Machine} (h : m.Handlerless limits calls)
    (sv : Services) (fired : Fired) : runHandler sv fired m = .done false m := by
  have gone : m.engine.handlers.get? fired.handler = none := by
    rw [Registry.get?, h.handlers]
    rfl
  simp only [runHandler, gone]

theorem turn_eq_ending {m m' : Machine} {r : Reply} (h : m.turn a = .ending r m') :
    m' = m.showing := by
  unfold Machine.turn at h
  split at h
  · cases h
  · split at h
    · cases h
      rfl
    · cases h

/-- Waiting for something that will come takes a number of turns that does not depend on the
services: no handler runs meanwhile. -/
theorem Machine.Handlerless.exists_awaitWithin (some_ending : a ≠ []) (m : Machine)
    (h : m.Handlerless limits calls) :
    ∃ rounds r m', m'.Handlerless limits calls ∧
      ∀ sv, ∀ n ≥ rounds, awaitWithin sv a n m = .done r m' := by
  have shown : m.showing.Handlerless limits calls := h.notified (.refl _)
  cases ht : m.turn a with
  | ending r m₁ =>
      obtain rfl := turn_eq_ending ht
      refine ⟨1, r, m.showing, shown, ?_⟩
      intro sv n le
      obtain ⟨n, rfl⟩ := Nat.exists_eq_add_of_le' le
      rw [awaitWithin_succ, ht]
  | time later m₁ =>
      obtain ⟨rfl, waiting, rfl⟩ := turn_eq_time ht
      obtain ⟨m₂, passed⟩ := m.showing.exists_passTime? some_ending
      rw [passed] at ht
      have fewer : m₂.passages a < m.passages a := by
        rw [← Machine.passages_showing a m]
        exact Machine.passages_lt waiting passed
      have still := shown.notified (asides_passTime? waiting passed).notified
      obtain ⟨rounds, r, m', ended, resumed⟩ := exists_awaitWithin some_ending m₂ still
      refine ⟨rounds + 1, r, m', ended, ?_⟩
      intro sv n le
      obtain ⟨n, rfl⟩ := Nat.exists_eq_add_of_le' (Nat.le_of_add_left_le le)
      rw [awaitWithin_succ, ht]
      exact resumed sv n (Nat.le_of_succ_le_succ le)
  | event fired m₁ =>
      have taken := turn_eq_event ht
      obtain ⟨shorter, world⟩ := length_queue_of_nextFired? taken
      have same : m₁.passages a = m.passages a := by
        rw [Machine.passages, Machine.passages, world]
      have still : m₁.Handlerless limits calls := by
        obtain ⟨-, e', dequeued, rfl⟩ := nextFired?_eq_some taken
        obtain ⟨queue, journal, rfl⟩ := Engine.eq_of_dequeue? dequeued
        exact h.notified ⟨queue, _, journal, rfl⟩
      obtain ⟨rounds, r, m', ended, resumed⟩ := exists_awaitWithin some_ending m₁ still
      refine ⟨rounds + 1, r, m', ended, ?_⟩
      intro sv n le
      obtain ⟨n, rfl⟩ := Nat.exists_eq_add_of_le' (Nat.le_of_add_left_le le)
      rw [awaitWithin_succ, ht]
      simp only [Run.andThen, still.runHandler_eq]
      exact resumed sv n (Nat.le_of_succ_le_succ le)
termination_by (m.passages a, m.engine.queue.toList.length)
decreasing_by
  · rw [same]
    exact Prod.Lex.right _ shorter
  · exact Prod.Lex.left _ _ fewer

end Waiting

/-! ### Settling -/

/-- A computation has ended at a machine with the property, or where the key for an object looks
into the object. It has not ended because its allowance was used up. -/
def Outcome.SettledAt {α : Type} (I : Machine → Prop) : Outcome α → Prop
  | .done _ m => I m
  | .fault _ m => I m
  | .cut .allowance _ => False
  | .cut (.entangled object index) m => m.world.heap.looksInto object index = true

/-- For all allowances that are large enough a computation ends in the same way, at a machine with
the property if it is not cut off. -/
def SettlesAt {α : Type} (I : Machine → Prop) (x : Services → Run α) (m : Machine) : Prop :=
  ∃ bound o, o.SettledAt I ∧ ∀ n ≥ bound, x (servicesWithin n) m = o

/-- A computation settles wherever the property holds. -/
def Settles (I : Machine → Prop) (α : Type) (x : Services → Run α) : Prop :=
  ∀ m, I m → SettlesAt I x m

section Settling

variable {α β : Type} {I : Machine → Prop} {m : Machine}

/-- What has been cut off stays so, whatever was to follow. -/
theorem Outcome.SettledAt.cut {J : Machine → Prop} {why : Cut} {m' : Machine}
    (h : (Outcome.cut why m' : Outcome α).SettledAt J) :
    (Outcome.cut why m' : Outcome β).SettledAt I := by
  cases why with
  | allowance => exact h.elim
  | entangled object index => exact h

theorem SettlesAt.of_done {x : Services → Run α} {a : α} {m' : Machine}
    (h : ∀ sv, x sv m = .done a m') (ends : I m') : SettlesAt I x m :=
  ⟨0, .done a m', ends, fun _ _ => h _⟩

/-- What follows on a computation that settles. -/
theorem SettlesAt.bind {J : Machine → Prop} {x : Services → Run α} {f : α → Services → Run β}
    (hx : SettlesAt J x m) (faults : ∀ m, J m → I m)
    (hf : ∀ a m', J m' → SettlesAt I (f a) m') :
    SettlesAt I (fun sv => x sv >>= fun a => f a sv) m := by
  obtain ⟨bound, o, ends, settled⟩ := hx
  cases o with
  | cut why m₁ =>
      refine ⟨bound, .cut why m₁, ends.cut, ?_⟩
      intro n le
      exact Run.bind_cut (settled n le)
  | fault e m₁ =>
      refine ⟨bound, .fault e m₁, faults m₁ ends, ?_⟩
      intro n le
      exact Run.bind_fault (settled n le)
  | done a m₁ =>
      obtain ⟨bound', o, ends', settled'⟩ := hf a m₁ ends
      refine ⟨max bound bound', o, ends', ?_⟩
      intro n le
      obtain ⟨first, second⟩ := Nat.max_le.mp le
      exact (Run.bind_done (settled n first)).trans (settled' n second)

/-- What is done to the machine at the end does not keep a computation from settling. -/
theorem SettlesAt.ensuring {J : Machine → Prop} {x : Services → Run α} {close : Machine → Machine}
    (hx : SettlesAt J x m) (closes : ∀ m, J m → I (close m)) :
    SettlesAt I (fun sv => (x sv).ensuring close) m := by
  obtain ⟨bound, o, ends, settled⟩ := hx
  cases o with
  | cut why m₁ =>
      exact ⟨bound, .cut why m₁, ends.cut, fun n le => by simp only [Run.ensuring, settled n le]⟩
  | done a m₁ =>
      exact ⟨bound, .done a (close m₁), closes m₁ ends,
        fun n le => by simp only [Run.ensuring, settled n le]⟩
  | fault e m₁ =>
      exact ⟨bound, .fault e (close m₁), closes m₁ ends,
        fun n le => by simp only [Run.ensuring, settled n le]⟩

theorem SettlesAt.located {x : Services → Run α} (hx : SettlesAt I x m) (loc : Location) :
    SettlesAt I (fun sv => (x sv).located loc) m := by
  obtain ⟨bound, o, ends, settled⟩ := hx
  cases o with
  | cut why m₁ =>
      exact ⟨bound, .cut why m₁, ends, fun n le => by simp only [Run.located, settled n le]⟩
  | done a m₁ =>
      exact ⟨bound, .done a m₁, ends, fun n le => by simp only [Run.located, settled n le]⟩
  | fault e m₁ =>
      exact ⟨bound, .fault (e.located loc) m₁, ends,
        fun n le => by simp only [Run.located, settled n le]⟩

theorem SettlesAt.attempt {x : Services → Run Signal} {otherwise : String → Services → Run Signal}
    (hx : SettlesAt I x m) (hother : ∀ message m', I m' → SettlesAt I (otherwise message) m') :
    SettlesAt I (fun sv => Run.attempt (x sv) fun message => otherwise message sv) m := by
  obtain ⟨bound, o, ends, settled⟩ := hx
  cases o with
  | cut why m₁ =>
      exact ⟨bound, .cut why m₁, ends, fun n le => by simp only [Run.attempt, settled n le]⟩
  | done signal m₁ =>
      exact ⟨bound, .done signal m₁, ends, fun n le => by simp only [Run.attempt, settled n le]⟩
  | fault e m₁ =>
      cases e with
      | cancelled =>
          exact ⟨bound, .fault .cancelled m₁, ends,
            fun n le => by simp only [Run.attempt, settled n le]⟩
      | failure k d =>
          obtain ⟨bound', o, ends', settled'⟩ := hother (Fault.failure k d).message m₁ ends
          refine ⟨max bound bound', o, ends', ?_⟩
          intro n le
          obtain ⟨first, second⟩ := Nat.max_le.mp le
          simp only [Run.attempt, settled n first]
          exact settled' n second

/-- Changing the machine first does not keep a computation from settling. -/
theorem SettlesAt.after {x y : Services → Run α} {m' : Machine} (hy : SettlesAt I y m')
    (same : ∀ sv, x sv m = y sv m') : SettlesAt I x m := by
  obtain ⟨bound, o, ends, settled⟩ := hy
  exact ⟨bound, o, ends, fun n le => (same _).trans (settled n le)⟩

/-- A call is made by services that have one level more. -/
theorem SettlesAt.call {f : UserFunction} {args : List Value}
    (h : SettlesAt I (fun sv => callUser sv f args) m) :
    SettlesAt I (fun sv => sv.call f args) m := by
  obtain ⟨bound, o, ends, settled⟩ := h
  refine ⟨bound + 1, o, ends, ?_⟩
  intro n le
  obtain ⟨n, rfl⟩ := Nat.exists_eq_add_of_le' (Nat.le_of_add_left_le le)
  exact settled n (Nat.le_of_succ_le_succ le)

end Settling

/-! ### Scripts without handlers settle -/

section Handlerless

variable {limits : Limits} {calls : List String} {m : Machine}

theorem settles_plain {α : Type} {x : Run α} (hx : x.Plain) :
    Settles (Machine.Handlerless limits calls) α fun _ => x := by
  intro m h
  refine ⟨0, x m, ?_, fun _ _ => rfl⟩
  have ends := (hx m).1
  cases hm : x m with
  | cut why m₁ => rw [hm] at ends; exact ends.elim
  | done a m₁ => rw [hm] at ends; exact h.sameCore ends
  | fault e m₁ => rw [hm] at ends; exact h.sameCore ends

theorem settles_inChildOf {α : Type} {x : Services → Run α} (parent : ScopeId) (vars : Bindings)
    (hx : Settles (Machine.Handlerless limits calls) α x) :
    Settles (Machine.Handlerless limits calls) α fun sv => (x sv).inChildOf parent vars := by
  intro m h
  have entered : (m.enterChild parent vars).Handlerless limits calls :=
    ⟨h.handlers, h.functions, h.limits, h.callStack⟩
  have body : SettlesAt (Machine.Handlerless limits calls)
      (fun sv => (x sv).ensuring (·.withScope m.engine.scope)) (m.enterChild parent vars) :=
    (hx _ entered).ensuring fun m h => ⟨h.handlers, h.functions, h.limits, h.callStack⟩
  exact body.after fun _ => rfl

theorem settles_suspend {a : Awaited} (some_ending : a ≠ []) :
    Settles (Machine.Handlerless limits calls) Reply fun sv => sv.suspend a := by
  intro m h
  have suspended : m.suspend.Handlerless limits calls :=
    h.notified (m.engine.notified_record _)
  obtain ⟨rounds, r, m', ended, resumed⟩ :=
    Machine.Handlerless.exists_awaitWithin some_ending _ suspended
  have waited : SettlesAt (Machine.Handlerless limits calls) (fun sv => sv.await a) m.suspend := by
    refine ⟨rounds + 1, .done r m', ended, ?_⟩
    intro n le
    obtain ⟨n, rfl⟩ := Nat.exists_eq_add_of_le' (Nat.le_of_add_left_le le)
    exact resumed _ n (Nat.le_of_succ_le_succ le)
  have closed : SettlesAt (Machine.Handlerless limits calls)
      (fun sv => (sv.await a).ensuring (·.resume m.world.now)) m.suspend := by
    refine waited.ensuring ?_
    rintro ⟨e, w⟩ h
    simp only [Machine.resume, Engine.record_eq]
    exact ⟨h.handlers, h.functions, h.limits, h.callStack⟩
  exact closed.after fun _ => rfl

theorem settles_callHost (f : HostFunction) (args : List Value) :
    Settles (Machine.Handlerless limits calls) Value fun sv => sv.callHost f args := by
  intro m h
  let reply := f.answer { args, heap := m.world.heap, now := m.world.now, earlier := f.calls }
  have acted := h.notified
    (asides_acts ⟨m.engine, m.world.countCall f.name⟩ reply.acts).notified
  have replied : Settles (Machine.Handlerless limits calls) Value fun sv =>
      sv.replied f.name reply := by
    simp only [Services.replied]
    cases reply.delay with
    | none => exact settles_plain (.receive f.name reply.result)
    | some ms =>
        intro m h
        refine (settles_plain (.view fun _ _ _ => rfl) m h).bind (fun _ h => h) fun now m h => ?_
        refine (settles_suspend (List.cons_ne_nil _ _) m h).bind (fun _ h => h) fun r => ?_
        exact settles_plain (.receive f.name r)
  exact (replied _ acted).after fun sv => sv.callHost_eq f args m

/-- A call settles if the body of the function does one level deeper; at the last level no call
is made. -/
theorem settles_callUser {f : UserFunction} (args : List Value)
    (body : calls.length < limits.maxRecursionDepth →
      Settles (Machine.Handlerless limits (f.name :: calls)) Signal fun sv => execAll sv f.body) :
    Settles (Machine.Handlerless limits calls) Value fun sv => callUser sv f args := by
  intro m h
  by_cases room : calls.length < limits.maxRecursionDepth
  · have allowed : m.engine.limits.allowsCall m.engine.callStack.length = true := by
      rw [h.limits, h.callStack]
      exact decide_eq_true room
    have pushed : (m.pushCall f.name).Handlerless limits (f.name :: calls) := by
      simp only [Machine.pushCall, Engine.record_eq]
      exact ⟨h.handlers, h.functions, h.limits, by rw [h.callStack]⟩
    have inside := settles_inChildOf f.closure (bindParams f.params args []) (body room) _ pushed
    have popped (m : Machine) (h : m.Handlerless limits (f.name :: calls)) :
        m.popCall.Handlerless limits calls := by
      simp only [Machine.popCall, Engine.record_eq]
      exact ⟨h.handlers, h.functions, h.limits, by rw [h.callStack]; rfl⟩
    have called := (inside.ensuring popped).bind (fun _ h => h) fun signal =>
      settles_plain (.result signal.returned)
    exact called.after fun sv => callUser_eq sv args allowed
  · have refused : m.engine.limits.allowsCall m.engine.callStack.length = false := by
      rw [h.limits, h.callStack]
      exact decide_eq_false room
    refine ⟨0, _, ?_, fun _ _ => callUser_eq_fault _ args refused⟩
    exact h.notified (m.engine.notified_record _)

theorem settles_callByName (name : String) (args : List Value)
    (bodies : calls.length < limits.maxRecursionDepth → ∀ callee body,
      Stmt.handlerFreeAll body = true →
        Settles (Machine.Handlerless limits (callee :: calls)) Signal fun sv => execAll sv body) :
    Settles (Machine.Handlerless limits calls) Value fun sv => sv.callByName name args := by
  intro m h
  cases hf : m.world.function? name with
  | some f =>
      refine (settles_callHost f args m h).after fun sv => ?_
      simp only [Services.callByName, hf]
  | none =>
      cases hb : Builtin.ofName? name with
      | some b =>
          refine (settles_plain (.callBuiltin b args) m h).after fun sv => ?_
          simp only [Services.callByName, hf, hb]
      | none =>
          cases hu : m.engine.function? name with
          | none =>
              refine (settles_plain (.raise (Services.unknownFunction name)) m h).after fun sv => ?_
              simp only [Services.callByName, hf, hb, hu]
              rfl
          | some f =>
              have free : Stmt.handlerFreeAll f.body = true := by
                obtain ⟨before, after, functions, -⟩ := List.lookup_eq_some_iff.mp hu
                refine h.functions (name, f) ?_
                rw [functions]
                exact List.mem_append_right _ List.mem_cons_self
              have called := settles_callUser args (fun room => bodies room f.name f.body free) m h
              refine called.call.after fun sv => ?_
              simp only [Services.callByName, hf, hb, hu]

theorem settles_define (name : String) (params : List String) {body : List Stmt}
    (free : Stmt.handlerFreeAll body = true) :
    Settles (Machine.Handlerless limits calls) Unit fun _ => Run.define name params body := by
  intro m h
  obtain ⟨e, w⟩ := m
  refine ⟨0, Run.define name params body ⟨e, w⟩, ?_, fun _ _ => rfl⟩
  simp only [Run.define]
  split
  · exact h
  · refine ⟨h.handlers, ?_, h.limits, h.callStack⟩
    intro f mem
    rcases List.mem_cons.mp mem with rfl | old
    · exact free
    · exact h.functions f (List.mem_filter.mp old).1

theorem settles_openAt (base index : Value) :
    Settles (Machine.Handlerless limits calls) Unit fun _ => Run.openAt base index := by
  intro m h
  obtain opened | ⟨a, -, looks, held⟩ := Run.openAt_cases base index m
  · exact .of_done (fun _ => opened) h
  · exact ⟨0, .cut (.entangled a index) m, looks, fun _ _ => held⟩

/-- Without handlers everything settles, whatever calls are active. The induction is on the number
of calls that may still be made. -/
theorem settles_law (limits : Limits) (calls : List String) :
    Law False (Settles (Machine.Handlerless limits calls)) := by
  have deeper (room : calls.length < limits.maxRecursionDepth) (callee : String) :
      Law False (Settles (Machine.Handlerless limits (callee :: calls))) :=
    settles_law limits (callee :: calls)
  constructor
  case plain => exact settles_plain
  case bind => exact fun hx hf m h => (hx m h).bind (fun _ h => h) hf
  case located => exact fun _ hx m h => (hx m h).located _
  case attempt => exact fun hx hother m h => (hx m h).attempt hother
  case inChild => exact fun vars hx m h => settles_inChildOf m.engine.scope vars hx m h
  case bar =>
    intro loc m h
    exact ⟨0, Run.bar loc m, h.notified (m.engine.notified_record _), fun _ _ => rfl⟩
  case openAt => exact settles_openAt
  case emit =>
    intro event payload m h
    exact .of_done (fun _ => rfl) (h.notified (asides_emit m event payload).notified)
  case suspend => exact settles_suspend
  case callByName =>
    intro name args
    refine settles_callByName name args fun room callee body free => ?_
    exact execAll_law (deeper room callee) body (.inr free)
  case define =>
    intro name params body free
    exact settles_define name params (free.resolve_left id)
  case addHandler => exact fun _ _ speaks => speaks.elim
termination_by limits.maxRecursionDepth - calls.length
decreasing_by
  simp only [List.length_cons]
  omega

theorem Outcome.SettledAt.concluded {I : Machine → Prop} {o : Outcome Signal}
    (ends : o.SettledAt I) :
    (∃ result m', o.concluded = .done result m') ∨
      ∃ object index m', m'.world.heap.looksInto object index = true ∧
        o.concluded = .cut (.entangled object index) m' := by
  cases o with
  | cut why m => cases why with
      | allowance => exact ends.elim
      | entangled object index => exact .inr ⟨object, index, m, ends, rfl⟩
  | done signal m => cases signal with
      | _ => exact .inl ⟨_, _, rfl⟩
  | fault f m => cases f with
      | _ => exact .inl ⟨_, _, rfl⟩

/-- On an engine without handlers a program that registers none ends: for all allowances that are
large enough, and for all of them in the same way. It ends with a value or with a fault, unless it
comes to an assignment to an object under a key whose text looks into the object. -/
theorem handlerFree_execute_ends (m : Machine) (program : Program)
    (no_handlers : m.engine.handlers.handlers = [])
    (functions : ∀ f ∈ m.engine.functions, Stmt.handlerFreeAll f.2.body = true)
    (free : Stmt.handlerFreeAll program = true) :
    ∃ bound,
      (∃ result m', ∀ allowance ≥ bound, m.execute allowance program = some (result, m')) ∨
        ∃ object index m', m'.world.heap.looksInto object index = true ∧
          ∀ allowance ≥ bound,
            Run.execute allowance program m = .cut (.entangled object index) m' := by
  have begun : m.beginRun.Handlerless m.engine.limits [] := by
    simp only [Machine.beginRun, Engine.record_eq]
    exact ⟨no_handlers, functions, rfl, rfl⟩
  obtain ⟨bound, o, ends, settled⟩ :=
    execAll_law (settles_law m.engine.limits []) program (.inr free) _ begun
  have ran (allowance : Nat) (le : allowance ≥ bound) :
      Run.execute allowance program m = o.concluded := by
    rw [Run.execute_eq, ← settled allowance le]
  refine ⟨bound, ?_⟩
  obtain ⟨result, m', concluded⟩ | ⟨object, index, m', looks, concluded⟩ := ends.concluded
  · refine .inl ⟨result, m', fun allowance le => ?_⟩
    rw [Machine.execute, Outcome.done?_eq_some_iff, ran allowance le]
    exact concluded
  · exact .inr ⟨object, index, m', looks, fun allowance le => (ran allowance le).trans concluded⟩

/-- A function that calls itself without end. -/
def endlessFunction : UserFunction where
  name := "f"
  params := []
  body := [.expr {} (.call {} "f" [])]
  closure := 0

/-- A program that calls it without end, and defines it anew. -/
def endlessProgram : Program :=
  [.while {} (.lit {} (.bool true))
    [.attempt {} [.expr {} (.call {} "f" [])] "e"
      [.define {} "f" [] [.host {} (.wait (.lit {} (.number 1))), .expr {} (.call {} "f" [])]]]]

/-- An engine that knows the function, and where little is allowed. -/
def endlessMachine : Machine where
  engine :=
    { limits := { maxRecursionDepth := 1, maxLoopIterations := 1 }
      functions := [("f", endlessFunction)] }

/-- Even so the program ends, and not by an assignment that cuts it off. -/
theorem endlessProgram_ends : Stmt.handlerFreeAll endlessProgram = true ∧
    ∃ bound result m', ∀ allowance ≥ bound,
      endlessMachine.execute allowance endlessProgram = some (result, m') := by
  have functions : ∀ f ∈ endlessMachine.engine.functions, Stmt.handlerFreeAll f.2.body = true := by
    intro f mem
    rw [List.mem_singleton.mp mem]
    rfl
  refine ⟨rfl, ?_⟩
  obtain ⟨bound, ended | ⟨object, index, m', -, cut⟩⟩ :=
    handlerFree_execute_ends endlessMachine endlessProgram rfl functions rfl
  · exact ⟨bound, ended⟩
  · have done : (endlessMachine.execute (bound + 3) endlessProgram).isSome = true := by cbv
    rw [Machine.execute, cut (bound + 3) (Nat.le_add_right bound 3)] at done
    cases done

/-- A program that assigns to an object under the text of the object itself. -/
def selfKeyedProgram : Program :=
  [.set {} (.var "o") .set (.object {} []),
    .set {} (.index (.var {} "o") (.var {} "o")) .set (.lit {} (.number 1))]

/-- It registers no handler, and for no allowance does it end with a value or with a fault. -/
theorem selfKeyedProgram_breaks :
    Stmt.handlerFreeAll selfKeyedProgram = true ∧
      (∃ m', ∀ allowance,
        Run.execute allowance selfKeyedProgram {} = .cut (.entangled 0 (.object 0)) m') ∧
      ∀ allowance, Machine.execute allowance {} selfKeyedProgram = none :=
  ⟨rfl, ⟨_, fun _ => rfl⟩, fun _ => rfl⟩

end Handlerless

end HostScript
