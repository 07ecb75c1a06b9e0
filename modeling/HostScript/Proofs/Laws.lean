import HostScript.Engine.Operations
import HostScript.Proofs.Places

/-!
# Laws of computations

Everything that a script does is put together from a few operations: plain ones, emissions,
suspensions, calls, and those that change what the engine knows about functions and
handlers. A law is a property of computations that these operations have and that survives
putting them together. Such a property holds of all expressions and statements, by one
recursion on syntax for all laws.

## Implementation notes

Computations are given as functions of the services they use, so that a law may compare
what a computation does with different services. A law may leave out statements by their positions,
by the bodies of the functions that they define and of the handlers that they register. Such bodies
run only later, so a law has to say of them no more than that they are of the kind it speaks about.
Most laws leave out nothing, or the statements that register handlers.
-/

namespace HostScript

variable {α β : Type}

/-! ### Statements that register no handler -/

mutual

/-- The statement and all statements in it register no handler. -/
def Stmt.handlerFree : Stmt → Bool
  | .on _ _ _ => false
  | .block _ body => Stmt.handlerFreeAll body
  | .cond _ _ thenBody none => Stmt.handlerFreeAll thenBody
  | .cond _ _ thenBody (some elseBody) =>
    Stmt.handlerFreeAll thenBody && Stmt.handlerFreeAll elseBody
  | .loop _ _ body => Stmt.handlerFreeAll body
  | .while _ _ body => Stmt.handlerFreeAll body
  | .foreach _ _ _ body => Stmt.handlerFreeAll body
  | .define _ _ _ body => Stmt.handlerFreeAll body
  | .attempt _ body _ handler => Stmt.handlerFreeAll body && Stmt.handlerFreeAll handler
  | _ => true

/-- None of the statements registers a handler. -/
def Stmt.handlerFreeAll : List Stmt → Bool
  | [] => true
  | s :: rest => s.handlerFree && Stmt.handlerFreeAll rest

end

mutual

/-- The functions that the statement defines and the handlers that it registers have bodies of
the given kinds. What is inside such bodies does not matter. -/
def Stmt.Installs (functions handlers : List Stmt → Prop) : Stmt → Prop
  | .define _ _ _ body => functions body
  | .on _ _ body => handlers body
  | .block _ body => Stmt.InstallsAll functions handlers body
  | .cond _ _ thenBody none => Stmt.InstallsAll functions handlers thenBody
  | .cond _ _ thenBody (some elseBody) =>
    Stmt.InstallsAll functions handlers thenBody ∧ Stmt.InstallsAll functions handlers elseBody
  | .loop _ _ body => Stmt.InstallsAll functions handlers body
  | .while _ _ body => Stmt.InstallsAll functions handlers body
  | .foreach _ _ _ body => Stmt.InstallsAll functions handlers body
  | .attempt _ body _ handler =>
    Stmt.InstallsAll functions handlers body ∧ Stmt.InstallsAll functions handlers handler
  | _ => True

/-- All of the statements install bodies of the given kinds. -/
def Stmt.InstallsAll (functions handlers : List Stmt → Prop) : List Stmt → Prop
  | [] => True
  | s :: rest => s.Installs functions handlers ∧ Stmt.InstallsAll functions handlers rest

end

mutual

/-- A statement installs bodies without handlers, unless anything may be installed. -/
theorem Stmt.installs_of_handlerFree {registers : Prop} (s : Stmt)
    (h : registers ∨ s.handlerFree = true) :
    s.Installs (fun body => registers ∨ Stmt.handlerFreeAll body = true) fun _ => registers := by
  match s with
  | .define _ _ _ _ => exact h
  | .on _ _ _ => exact h.resolve_right Bool.false_ne_true
  | .block _ body => exact Stmt.installsAll_of_handlerFree body h
  | .loop _ _ body => exact Stmt.installsAll_of_handlerFree body h
  | .while _ _ body => exact Stmt.installsAll_of_handlerFree body h
  | .foreach _ _ _ body => exact Stmt.installsAll_of_handlerFree body h
  | .cond _ _ thenBody none => exact Stmt.installsAll_of_handlerFree thenBody h
  | .cond _ _ thenBody (some elseBody) =>
      have both := h.imp_right Bool.and_eq_true_iff.mp
      exact ⟨Stmt.installsAll_of_handlerFree thenBody (both.imp_right And.left),
        Stmt.installsAll_of_handlerFree elseBody (both.imp_right And.right)⟩
  | .attempt _ body _ handler =>
      have both := h.imp_right Bool.and_eq_true_iff.mp
      exact ⟨Stmt.installsAll_of_handlerFree body (both.imp_right And.left),
        Stmt.installsAll_of_handlerFree handler (both.imp_right And.right)⟩
  | .set _ _ _ _ | .declare _ _ _ | .print _ _ | .break _ | .continue _ | .return _ _
  | .expr _ _ | .host _ _ => trivial

theorem Stmt.installsAll_of_handlerFree {registers : Prop} (body : List Stmt)
    (h : registers ∨ Stmt.handlerFreeAll body = true) :
    Stmt.InstallsAll (fun body => registers ∨ Stmt.handlerFreeAll body = true)
      (fun _ => registers) body := by
  match body with
  | [] => trivial
  | s :: rest =>
      have both := h.imp_right Bool.and_eq_true_iff.mp
      exact ⟨s.installs_of_handlerFree (both.imp_right And.left),
        Stmt.installsAll_of_handlerFree rest (both.imp_right And.right)⟩

end

/-! ### Plain computations -/

/-- Change the machine at the end of a computation. -/
def Outcome.map (g : Machine → Machine) : Outcome α → Outcome α
  | .done a m => .done a (g m)
  | .fault f m => .fault f (g m)
  | .cut why m => .cut why (g m)

/-- A computation has ended at a machine with the property. -/
def Outcome.EndsAt (P : Machine → Prop) : Outcome α → Prop
  | .done _ m => P m
  | .fault _ m => P m
  | .cut _ _ => False

/-- The machine with other handlers and another bus. -/
def Machine.recast (m : Machine) (handlers : Registry) (bus : Option (Bus Subscriber)) : Machine :=
  ⟨{ m.engine with handlers }, { m.world with bus }⟩

/-- A statement or a round of a loop begins. -/
def Step.begins : Step → Bool
  | .statement _ => true
  | .round => true
  | _ => false

/-- What may be written while calls, frames and time stay as they are: the time is checked, or
something begins while there is time left. -/
structure Machine.Notable (m : Machine) (x : Moment) : Prop where
  callStack : x.registers.callStack = m.engine.callStack
  clock : x.registers.clock = m.engine.clock
  handlerDepth : x.registers.handlerDepth = m.engine.handlerDepth
  step : x.step =
      .checked m.world.now (m.engine.clock.elapsed m.world.now) m.timeoutFault?.isNone ∨
    m.timeoutFault? = none ∧ x.step.begins = true

/-- The journal goes on with notable moments, if there is one. -/
def Machine.Noted (m : Machine) (journal : Option (List Moment)) : Prop :=
  ∀ past, m.engine.journal = some past →
    ∃ added, journal = some (added ++ past) ∧ ∀ x ∈ added, m.Notable x

/-- Machines that agree in who the engine is, what it knows and calls, in the frame and its time,
in who listens, in the errors of handlers, and in what the host will do by itself or answer. -/
structure Machine.SameCore (m m' : Machine) : Prop where
  party : m'.engine.party = m.engine.party
  limits : m'.engine.limits = m.engine.limits
  functions : m'.engine.functions = m.engine.functions
  callStack : m'.engine.callStack = m.engine.callStack
  handlers : m'.engine.handlers = m.engine.handlers
  clock : m'.engine.clock = m.engine.clock
  handlerDepth : m'.engine.handlerDepth = m.engine.handlerDepth
  errors : m'.engine.errors = m.engine.errors
  journal : m.Noted m'.engine.journal
  now : m'.world.now = m.world.now
  bus : m'.world.bus = m.world.bus
  timeline : m'.world.timeline = m.world.timeline
  answers : m'.world.functions.map HostFunction.answer = m.world.functions.map HostFunction.answer

section SameCore

variable {m m₁ m' : Machine}

theorem Machine.noted_self (m : Machine) : m.Noted m.engine.journal := by
  intro past journal
  exact ⟨[], journal, List.forall_mem_nil _⟩

/-- Moments that are notable stay so as long as calls, frame and time do. -/
theorem Machine.Notable.of_eq {x : Moment} (h : m₁.Notable x)
    (limits : m₁.engine.limits = m.engine.limits)
    (callStack : m₁.engine.callStack = m.engine.callStack)
    (clock : m₁.engine.clock = m.engine.clock)
    (handlerDepth : m₁.engine.handlerDepth = m.engine.handlerDepth)
    (now : m₁.world.now = m.world.now) : m.Notable x := by
  have fault : m₁.timeoutFault? = m.timeoutFault? := by
    simp only [Machine.timeoutFault?, limits, clock, now]
  refine ⟨h.callStack.trans callStack, h.clock.trans clock,
    h.handlerDepth.trans handlerDepth, ?_⟩
  rw [← fault, ← clock, ← now]
  exact h.step

theorem Machine.Noted.trans {journal : Option (List Moment)} (first : m.SameCore m₁)
    (then_ : m₁.Noted journal) : m.Noted journal := by
  intro past before
  obtain ⟨added, between, notable⟩ := first.journal past before
  obtain ⟨more, after, notable'⟩ := then_ _ between
  refine ⟨more ++ added, by rw [after, List.append_assoc], ?_⟩
  intro x mem
  rcases List.mem_append.mp mem with new | old
  · exact (notable' x new).of_eq first.limits first.callStack first.clock first.handlerDepth
      first.now
  · exact notable x old

theorem Machine.SameCore.refl (m : Machine) : m.SameCore m :=
  ⟨rfl, rfl, rfl, rfl, rfl, rfl, rfl, rfl, m.noted_self, rfl, rfl, rfl, rfl⟩

theorem Machine.SameCore.trans (first : m.SameCore m₁) (then_ : m₁.SameCore m') :
    m.SameCore m' where
  party := then_.party.trans first.party
  limits := then_.limits.trans first.limits
  functions := then_.functions.trans first.functions
  callStack := then_.callStack.trans first.callStack
  handlers := then_.handlers.trans first.handlers
  clock := then_.clock.trans first.clock
  handlerDepth := then_.handlerDepth.trans first.handlerDepth
  errors := then_.errors.trans first.errors
  journal := then_.journal.trans first
  now := then_.now.trans first.now
  bus := then_.bus.trans first.bus
  timeline := then_.timeline.trans first.timeline
  answers := then_.answers.trans first.answers

/-- What stays the same in a core that nothing is written in. -/
def Machine.core (m : Machine) :=
  (m.engine.party, m.engine.limits, m.engine.functions, m.engine.callStack, m.engine.handlers,
    m.engine.clock, m.engine.handlerDepth, m.engine.errors, m.engine.journal, m.world.now,
    m.world.bus, m.world.timeline, m.world.functions.map HostFunction.answer)

/-- Nothing of the core changes and nothing is written. -/
theorem Machine.SameCore.of_eq (same : m'.core = m.core) : m.SameCore m' := by
  simp only [Machine.core, Prod.mk.injEq] at same
  obtain ⟨party, limits, functions, callStack, handlers, clock, handlerDepth, errors, journal, now,
    bus, timeline, answers⟩ := same
  exact ⟨party, limits, functions, callStack, handlers, clock, handlerDepth, errors,
    journal ▸ m.noted_self, now, bus, timeline, answers⟩

/-- A notable step can be written. -/
theorem Machine.SameCore.record {s : Step} (notable : m.Notable ⟨s, m.engine.registers⟩) :
    m.SameCore (m.record s) := by
  have journal : (m.record s).engine.journal =
      m.engine.journal.map (⟨s, m.engine.registers⟩ :: ·) := by
    simp only [Machine.record, Engine.record_eq]
  refine ⟨?_, ?_, ?_, ?_, ?_, ?_, ?_, ?_, ?_, rfl, rfl, rfl, rfl⟩
  case refine_9 =>
    intro past before
    refine ⟨[⟨s, m.engine.registers⟩], by rw [journal, before]; rfl, ?_⟩
    intro x mem
    rwa [List.mem_singleton.mp mem]
  all_goals simp only [Machine.record, Engine.record_eq]

end SameCore

/-- The calls that were active when the fault arose, if it is the refusal of a call. -/
def Fault.refused? : Fault → Option (List String)
  | .failure (.recursion active) _ => some active
  | _ => none

@[simp] theorem Fault.refused?_located (loc : Location) (f : Fault) :
    (f.located loc).refused? = f.refused? := by
  cases f with
  | cancelled => rfl
  | failure k d =>
      simp only [Fault.located]
      split
      · rfl
      · cases k with
        | _ => rfl

/-- The fault is a failure at a place not yet known, and no refusal of a call. -/
def Fault.bare : Fault → Bool
  | .failure (.recursion _) _ => false
  | .failure _ d => !d.loc.isKnown
  | .cancelled => false

theorem Fault.refused?_of_bare {f : Fault} (bare : f.bare = true) : f.refused? = none := by
  cases f with
  | cancelled => rfl
  | failure k d =>
      cases k with
      | recursion active => cases bare
      | _ => rfl

/-! Operations on values fail because of the values. -/

theorem Heap.bare_binary {h : Heap} {op : BinaryOp} {l r : Value} {f : Fault}
    (failed : h.binary op l r = .error f) : f.bare = true := by
  unfold Heap.binary at failed
  split at failed
  case h_12 | h_13 => cases failed; rfl
  case h_1 => split at failed <;> cases failed
  all_goals cases failed

theorem Heap.bare_member {h : Heap} {base : Value} {key : String} {f : Fault}
    (failed : h.member base key = .error f) : f.bare = true := by
  unfold Heap.member at failed
  split at failed
  case h_1 | h_2 => cases failed; rfl
  all_goals cases failed

theorem Heap.bare_memberSlot {base : Value} {key : String} {f : Fault}
    (failed : Heap.memberSlot base key = .error f) : f.bare = true := by
  unfold Heap.memberSlot at failed
  split at failed
  · cases failed
  · cases failed
    rfl

theorem Heap.bare_indexSlot {h : Heap} {base index : Value} {f : Fault}
    (failed : h.indexSlot base index = .error f) : f.bare = true := by
  unfold Heap.indexSlot at failed
  split at failed
  · dsimp only at failed
    split at failed
    · cases failed
    · cases failed
      rfl
  · cases failed
  · cases failed
    rfl

theorem Scopes.bare_get {s : Scopes} {id : ScopeId} {name : String} {f : Fault}
    (failed : s.get id name = .error f) : f.bare = true := by
  unfold Scopes.get at failed
  split at failed
  · cases failed
  · cases failed
    rfl

theorem bare_indexable {base : Value} {f : Fault} (failed : indexable base = .error f) :
    f.bare = true := by
  unfold indexable at failed
  split at failed
  · cases failed
    rfl
  · cases failed
    rfl
  · cases failed

/-- A fault is a failure at a place not yet known, and no refusal of a call. -/
def Outcome.Mild : Outcome α → Prop
  | .fault f _ => f.bare = true
  | _ => True

/-- A computation that ends, changes nothing of the core, fails without a position, refuses no call,
and looks neither at the handlers nor at the bus. -/
def Run.Plain (x : Run α) : Prop :=
  ∀ m, (x m).EndsAt m.SameCore ∧ (x m).Mild ∧
    ∀ handlers bus, x (m.recast handlers bus) = (x m).map (·.recast handlers bus)

namespace Run.Plain

theorem result (a : α) : (Run.result a).Plain := fun m => ⟨.refl m, trivial, fun _ _ => rfl⟩

theorem raise (f : Fault) (mild : f.bare = true := by rfl) : (Run.raise f : Run α).Plain :=
  fun m => ⟨.refl m, mild, fun _ _ => rfl⟩

theorem ofExcept {x : Except Fault α} (mild : ∀ f, x = .error f → f.bare = true) :
    (Run.ofExcept x).Plain := by
  cases x with
  | ok a => exact result a
  | error f => exact raise f (mild f rfl)

theorem view {f : Machine → α} (blind : ∀ m handlers bus, f (m.recast handlers bus) = f m) :
    (Run.view f).Plain := by
  intro m
  refine ⟨.refl m, trivial, fun handlers bus => ?_⟩
  simp only [Run.view, blind, Outcome.map]

theorem check {f : Machine → Except Fault α}
    (blind : ∀ m handlers bus, f (m.recast handlers bus) = f m)
    (mild : ∀ m e, f m = .error e → e.bare = true) : (Run.check f).Plain := by
  intro m
  simp only [Run.check, blind]
  cases hf : f m with
  | ok a => exact ⟨.refl m, trivial, fun _ _ => rfl⟩
  | error e => exact ⟨.refl m, mild m e hf, fun _ _ => rfl⟩

theorem change {g : Machine → Machine} (core : ∀ m : Machine, m.SameCore (g m))
    (blind : ∀ m handlers bus, g (m.recast handlers bus) = (g m).recast handlers bus) :
    (Run.change g).Plain := by
  intro m
  refine ⟨core m, trivial, fun handlers bus => ?_⟩
  simp only [Run.change, blind, Outcome.map]

theorem bind {x : Run α} {f : α → Run β} (hx : x.Plain) (hf : ∀ a, (f a).Plain) :
    (x >>= f).Plain := by
  intro m
  obtain ⟨ends, mild, blind⟩ := hx m
  cases hm : x m with
  | cut why m₁ => rw [hm] at ends; exact ends.elim
  | fault e m₁ =>
      rw [hm] at ends mild blind
      rw [Run.bind_fault hm]
      refine ⟨ends, mild, fun handlers bus => ?_⟩
      exact Run.bind_fault (blind handlers bus)
  | done a m₁ =>
      rw [hm] at ends blind
      obtain ⟨ends', mild', blind'⟩ := hf a m₁
      rw [Run.bind_done hm]
      refine ⟨?_, mild', ?_⟩
      · cases hf₁ : f a m₁ with
        | cut why m₂ => rw [hf₁] at ends'; exact ends'.elim
        | fault e m₂ => rw [hf₁] at ends'; exact Machine.SameCore.trans ends ends'
        | done b m₂ => rw [hf₁] at ends'; exact Machine.SameCore.trans ends ends'
      · intro handlers bus
        rw [Run.bind_done (blind handlers bus)]
        exact blind' handlers bus

theorem newArray (items : List Value) : (Run.newArray items).Plain :=
  fun _ => ⟨.of_eq rfl, trivial, fun _ _ => rfl⟩

theorem newObject (entries : List (String × Value)) : (Run.newObject entries).Plain :=
  fun _ => ⟨.of_eq rfl, trivial, fun _ _ => rfl⟩

theorem receive (name : String) (r : Reply) : (Run.receive name r).Plain := by
  cases r with
  | error message => exact raise _
  | ok v =>
      intro m
      cases v with
      | value v => exact ⟨.refl m, trivial, fun _ _ => rfl⟩
      | newArray items => exact ⟨.of_eq rfl, trivial, fun _ _ => rfl⟩

theorem callBuiltin (b : Builtin) (args : List Value) : (Services.callBuiltin b args).Plain := by
  rintro ⟨e, w⟩
  simp only [Services.callBuiltin, Machine.recast]
  cases b.call (w.epoch + w.now) args w.heap with
  | mk r heap =>
      cases r with
      | ok v => exact ⟨.of_eq rfl, trivial, fun _ _ => rfl⟩
      | error message => exact ⟨.of_eq rfl, rfl, fun _ _ => rfl⟩

theorem assignName (name : String) (v : Value) : (Run.assignName name v).Plain :=
  change (fun _ => .of_eq rfl) fun _ _ _ => rfl

theorem declareName (name : String) (v : Value) : (Run.declareName name v).Plain :=
  change (fun _ => .of_eq rfl) fun _ _ _ => rfl

/-- A command is noted if the host takes commands, and then carried out or refused. -/
theorem command_eq (name : String) (payload : Value) :
    Run.command name payload = Run.view (fun m => m.world.commands) >>= fun commands =>
      match commands with
      | none => Run.result ()
      | some refused =>
        Run.change (fun m => ⟨m.engine, m.world.note (.command name payload m.world.heap)⟩) >>=
          fun _ =>
            match refused.lookup name with
            | some message => Run.raise (.runtime message)
            | none => Run.result () := by
  funext m
  obtain ⟨e, w⟩ := m
  simp only [Run.command, Bind.bind, Run.andThen, Run.view]
  cases w.commands with
  | none => rfl
  | some refused =>
      dsimp only
      cases refused.lookup name with
      | none => rfl
      | some message => rfl

theorem command (name : String) (payload : Value) : (Run.command name payload).Plain := by
  rw [command_eq]
  refine bind (view fun _ _ _ => rfl) fun commands => ?_
  cases commands with
  | none => exact result ()
  | some refused =>
      refine bind (change (fun _ => .of_eq rfl) fun _ _ _ => rfl) ?_
      intro _
      cases refused.lookup name with
      | none => exact result ()
      | some message => exact raise _

theorem commandWith (name : String) (entries : List (String × Value)) :
    (Run.commandWith name entries).Plain :=
  bind (newObject entries) fun _ => command name _

/-- An operation on files happens if there are files; then they change, and it may fail. -/
theorem onFiles_eq (act : Files.Root → Option String × Files.Root) :
    Run.onFiles act = Run.view (fun m => m.world.files) >>= fun files =>
      match files with
      | none => Run.result ()
      | some root =>
        Run.change (fun m => ⟨m.engine, { m.world with files := some (act root).2 }⟩) >>= fun _ =>
          match (act root).1 with
          | some message => Run.raise (.runtime message)
          | none => Run.result () := by
  funext m
  obtain ⟨e, w⟩ := m
  simp only [Run.onFiles, Bind.bind, Run.andThen, Run.view]
  cases w.files with
  | none => rfl
  | some root =>
      dsimp only
      cases act root with
      | mk message root =>
          cases message with
          | none => rfl
          | some message => rfl

theorem onFiles (act : Files.Root → Option String × Files.Root) : (Run.onFiles act).Plain := by
  rw [onFiles_eq]
  refine bind (view fun _ _ _ => rfl) fun files => ?_
  cases files with
  | none => exact result ()
  | some root =>
      refine bind (change (fun _ => .of_eq rfl) fun _ _ _ => rfl) ?_
      intro _
      cases (act root).1 with
      | none => exact result ()
      | some message => exact raise _

theorem print (text : String) : (Run.change fun m => m.print text).Plain := by
  apply change
  · rintro ⟨e, w⟩
    simp only [Machine.print]
    split
    · exact .of_eq rfl
    · exact .of_eq rfl
  · rintro ⟨e, w⟩ handlers bus
    simp only [Machine.print, Machine.recast]
    by_cases sink : w.hasSink = true
    · rw [if_pos sink]
      exact if_pos sink
    · rw [if_neg sink]
      exact if_neg sink

theorem blind_record (s : Step) (m : Machine) (handlers : Registry)
    (bus : Option (Bus Subscriber)) :
    (m.recast handlers bus).record s = (m.record s).recast handlers bus := by
  simp only [Machine.record, Machine.recast, Engine.record_eq]
  rfl

theorem bare_timeoutFault? {m : Machine} {f : Fault} (h : m.timeoutFault? = some f) :
    f.bare = true := by
  simp only [Machine.timeoutFault?, Limits.timeoutFault?] at h
  split at h
  · cases h
    rfl
  · cases h

theorem checkTime : Run.checkTime.Plain := by
  intro m
  have checked : m.SameCore (m.record (.checked m.world.now
      (m.engine.clock.elapsed m.world.now) m.timeoutFault?.isNone)) :=
    .record ⟨rfl, rfl, rfl, .inl rfl⟩
  have blind (handlers : Registry) (bus : Option (Bus Subscriber)) :
      (m.recast handlers bus).timeoutFault? = m.timeoutFault? := rfl
  simp only [Run.checkTime, blind]
  cases hm : m.timeoutFault? with
  | none =>
      rw [hm] at checked
      refine ⟨checked, trivial, fun handlers bus => ?_⟩
      simp only [Outcome.map, ← blind_record]
      rfl
  | some f =>
      rw [hm] at checked
      refine ⟨checked, bare_timeoutFault? hm, fun handlers bus => ?_⟩
      simp only [Outcome.map, ← blind_record]
      rfl

/-- Something begins after a check that was passed. -/
theorem beginning {s : Step} (begins : s.begins = true) :
    (do Run.checkTime; Run.change fun m => m.record s : Run Unit).Plain := by
  intro m
  obtain ⟨ends, mild, blind⟩ := checkTime m
  cases hm : Run.checkTime m with
  | cut why m₁ => rw [hm] at ends; exact ends.elim
  | fault f m₁ =>
      rw [hm] at ends mild blind
      rw [Run.bind_fault hm]
      exact ⟨ends, mild, fun handlers bus => Run.bind_fault (blind handlers bus)⟩
  | done u m₁ =>
      rw [hm] at ends blind
      rw [Run.bind_done hm]
      have inTime : m.timeoutFault? = none := by
        simp only [Run.checkTime] at hm
        split at hm
        · cases hm
        · assumption
      have still : m₁.timeoutFault? = none := by
        rw [← inTime]
        simp only [Machine.timeoutFault?, Machine.SameCore.limits ends,
          Machine.SameCore.clock ends, Machine.SameCore.now ends]
      refine ⟨?_, trivial, fun handlers bus => ?_⟩
      · exact Machine.SameCore.trans ends (.record ⟨rfl, rfl, rfl, .inr ⟨still, begins⟩⟩)
      · rw [Run.bind_done (blind handlers bus)]
        simp only [Run.change, blind_record, Outcome.map]

theorem writeSlot {slot : Machine → Except Fault Heap.Slot}
    (blind : ∀ m handlers bus, slot (m.recast handlers bus) = slot m)
    (mild : ∀ m f, slot m = .error f → f.bare = true) (v : Value) :
    (Run.writeSlot slot v).Plain := by
  intro m
  simp only [Run.writeSlot, blind]
  cases hs : slot m with
  | error f => exact ⟨.refl m, mild m f hs, fun _ _ => rfl⟩
  | ok s => exact ⟨.of_eq rfl, trivial, fun _ _ => rfl⟩

theorem combined (op : AssignOp) {old : Machine → Except Fault Value}
    (blind : ∀ m handlers bus, old (m.recast handlers bus) = old m)
    (mild : ∀ m f, old m = .error f → f.bare = true) (v : Value) :
    (Run.combined op old v).Plain := by
  simp only [Run.combined]
  split
  · exact result v
  · next o _ =>
    refine check (fun m handlers bus => ?_) fun m f failed => ?_
    · simp only [blind]
      rfl
    · cases before : old m with
      | error e =>
          rw [before] at failed
          have same : e = f := by injection failed
          rw [← same]
          exact mild m e before
      | ok u =>
          rw [before] at failed
          exact Heap.bare_binary failed

theorem readFile (path : String) : (Run.readFile path).Plain := by
  refine check (fun _ _ _ => rfl) fun m f failed => ?_
  split at failed
  · cases failed
  · split at failed
    · cases failed
    · cases failed
      rfl

theorem elementsOf (v : Value) : (Run.elementsOf v).Plain := by
  refine check (fun _ _ _ => rfl) fun m f failed => ?_
  split at failed
  · cases failed
  · cases failed
    rfl

theorem templateText_recast (m : Machine) (handlers : Registry) (bus : Option (Bus Subscriber))
    (parts : List TemplatePart) :
    (m.recast handlers bus).templateText parts = m.templateText parts := by
  induction parts with
  | nil => rfl
  | cons part rest ih =>
      cases part with
      | text s => simp only [Machine.templateText, ih]
      | var name =>
          simp only [Machine.templateText, ih]
          rfl

end Run.Plain

/-! ### Laws -/

/-- A property of computations that operations have and that survives putting computations
together. It speaks about statements with positions of a kind that install bodies of the given
kinds. -/
structure LawOf (places : Location → Prop) (functions handlers : List Stmt → Prop)
    (P : (α : Type) → (Services → Run α) → Prop) : Prop where
  plain : ∀ {α : Type} {x : Run α}, x.Plain → P α fun _ => x
  bind : ∀ {α β : Type} {x : Services → Run α} {f : α → Services → Run β},
    P α x → (∀ a, P β (f a)) → P β fun sv => x sv >>= fun a => f a sv
  located : ∀ {α : Type} {x : Services → Run α} {loc : Location}, places loc →
    P α x → P α fun sv => (x sv).located loc
  attempt : ∀ {x : Services → Run Signal} {otherwise : String → Services → Run Signal},
    P Signal x → (∀ message, P Signal (otherwise message)) →
      P Signal fun sv => Run.attempt (x sv) fun message => otherwise message sv
  inChild : ∀ {α : Type} {x : Services → Run α} (vars : Bindings),
    P α x → P α fun sv => (x sv).inChild vars
  bar : ∀ loc, P Signal fun _ => Run.bar loc
  openAt : ∀ base index, P Unit fun _ => Run.openAt base index
  emit : ∀ event payload, P Unit fun _ => Run.emit event payload
  suspend : ∀ {a : Awaited}, a ≠ [] → P Reply fun sv => sv.suspend a
  callByName : ∀ name args, P Value fun sv => sv.callByName name args
  define : ∀ name params {body : List Stmt}, functions body →
    P Unit fun _ => Run.define name params body
  addHandler : ∀ event body, handlers body → P Unit fun _ => Run.addHandler event body

/-- A law that speaks about all statements, or about those that register no handler. -/
abbrev Law (registers : Prop) (P : (α : Type) → (Services → Run α) → Prop) : Prop :=
  LawOf (fun _ => True) (fun body => registers ∨ Stmt.handlerFreeAll body = true)
    (fun _ => registers) P

section Syntax

variable {places : Location → Prop} {functions handlers : List Stmt → Prop}
  {P : (α : Type) → (Services → Run α) → Prop}

/-- What holds of both branches holds of the choice between them. -/
theorem ite_law {c : Prop} [Decidable c] {x y : Services → Run α} (hx : P α x) (hy : P α y) :
    P α fun sv => if c then x sv else y sv := by
  by_cases h : c
  · simpa only [if_pos h] using hx
  · simpa only [if_neg h] using hy

mutual

/-- A law holds of every expression with positions of its kind. -/
theorem eval_law (law : LawOf places functions handlers P) (e : Expr) (h : e.Placed places) :
    P Value fun sv => eval sv e := by
  match e with
  | .lit _ v => exact law.plain (.result _)
  | .var loc name =>
      exact law.located h
        (law.plain (.check (fun _ _ _ => rfl) fun _ _ failed => Scopes.bare_get failed))
  | .group loc e => exact law.located h.1 (eval_law law e h.2)
  | .template _ parts =>
      refine law.plain (.view fun m handlers bus => ?_)
      rw [Run.Plain.templateText_recast]
  | .unary loc op e =>
      exact law.located h.1 (law.bind (eval_law law e h.2) fun _ => law.plain (.result _))
  | .binary loc op l r =>
      obtain ⟨at_, left, right⟩ := h
      have hl := eval_law law l left
      have hr := eval_law law r right
      cases op with
      | both =>
          exact law.located at_ (law.bind hl fun v => ite_law hr (law.plain (.result v)))
      | either =>
          exact law.located at_ (law.bind hl fun v => ite_law (law.plain (.result v)) hr)
      | _ =>
          exact law.located at_ (law.bind hl fun _ => law.bind hr fun _ =>
            law.plain (.check (fun _ _ _ => rfl) fun _ _ failed => Heap.bare_binary failed))
  | .array loc items =>
      exact law.located h.1 (law.bind (evalAll_law law items h.2) fun _ =>
        law.plain (.newArray _))
  | .object loc entries =>
      exact law.located h.1 (law.bind (evalEntries_law law entries h.2) fun _ =>
        law.plain (.newObject _))
  | .member loc base key =>
      exact law.located h.1 (law.bind (eval_law law base h.2) fun _ =>
        law.plain (.check (fun _ _ _ => rfl) fun _ _ failed => Heap.bare_member failed))
  | .index loc base position =>
      obtain ⟨at_, hbase, hposition⟩ := h
      refine law.located at_ (law.bind (eval_law law base hbase) fun b => ?_)
      refine law.bind (eval_law law position hposition) fun i => ?_
      exact law.bind (law.plain (.ofExcept fun _ failed => bare_indexable failed)) fun _ =>
        law.plain (.view fun _ _ _ => rfl)
  | .call loc name args =>
      exact law.located h.1 (law.bind (evalAll_law law args h.2) fun _ => law.callByName name _)

theorem evalAll_law (law : LawOf places functions handlers P) (es : List Expr)
    (h : Expr.PlacedAll places es) : P (List Value) fun sv => evalAll sv es := by
  match es with
  | [] => exact law.plain (.result _)
  | e :: rest =>
      refine law.bind (eval_law law e h.1) fun _ => ?_
      exact law.bind (evalAll_law law rest h.2) fun _ => law.plain (.result _)

theorem evalEntries_law (law : LawOf places functions handlers P) (es : List (String × Expr))
    (h : Expr.PlacedEntries places es) : P (List (String × Value)) fun sv => evalEntries sv es := by
  match es with
  | [] => exact law.plain (.result _)
  | (k, e) :: rest =>
      refine law.bind (eval_law law e h.1) fun _ => ?_
      exact law.bind (evalEntries_law law rest h.2) fun _ => law.plain (.result _)

end

theorem evalText_law (law : LawOf places functions handlers P) (e : Expr) (h : e.Placed places) :
    P String fun sv => evalText sv e :=
  law.bind (eval_law law e h) fun _ => law.plain (.view fun _ _ _ => rfl)

theorem evalOr_law (law : LawOf places functions handlers P) (otherwise : Value) (e : Option Expr)
    (h : Expr.PlacedAll places e.toList) : P Value fun sv => evalOr sv otherwise e := by
  cases e with
  | none => exact law.plain (.result _)
  | some e => exact eval_law law e h.1

/-! ### Requests -/

/-- Put a question on the screen, if there are dialogs. The result says what the script will wait
for: the time, the time limit and the reply. -/
def Question.pose (q : Question) : Run (Option (Nat × Nat × DialogReply)) := do
  match ← Run.view fun m => m.world.dialogs with
  | none => return none
  | some d =>
    Run.change fun m =>
      ⟨m.engine, if d.showsLate then { m.world with asking := some q.note }
        else m.world.note q.note⟩
    let reply ← Run.update fun m => (m.world.nextReply.1, ⟨m.engine, m.world.nextReply.2⟩)
    let now ← Run.view fun m => m.world.now
    let limit ← Run.view fun m => m.engine.limits.dialogTimeout
    return some (now, limit, reply)

/-- A question is put and then waited for. -/
theorem Services.ask_eq (sv : Services) (q : Question) :
    sv.ask q = q.pose >>= fun posed =>
      match posed with
      | none => Run.result q.default
      | some (now, limit, reply) =>
        sv.suspend (q.awaited now limit reply) >>= Run.receive "dialog" := by
  funext m
  obtain ⟨e, ⟨_, _, _, _, _, _, _, _, _, dialogs, _, _, _, _⟩⟩ := m
  cases dialogs with
  | none => rfl
  | some d => rfl

theorem World.nextReply_recast (w : World) (bus : Option (Bus Subscriber)) :
    World.nextReply { w with bus } = (w.nextReply.1, { w.nextReply.2 with bus }) := by
  obtain ⟨_, _, _, _, _, _, _, _, _, dialogs, _, _, _, _⟩ := w
  cases dialogs with
  | none => rfl
  | some d =>
      obtain ⟨replies, afterwards, late⟩ := d
      cases replies with
      | nil => rfl
      | cons r rest => rfl

theorem World.core_nextReply (e : Engine) (w : World) :
    Machine.SameCore ⟨e, w⟩ ⟨e, w.nextReply.2⟩ := by
  unfold World.nextReply
  split
  · exact .refl _
  · split
    · exact .of_eq rfl
    · exact .refl _

theorem Run.Plain.nextReply :
    (Run.update fun m => (m.world.nextReply.1, ⟨m.engine, m.world.nextReply.2⟩)).Plain := by
  intro m
  refine ⟨World.core_nextReply m.engine m.world, trivial, fun handlers bus => ?_⟩
  have replied := World.nextReply_recast m.world bus
  simp only [Run.update, Machine.recast, replied, Outcome.map]

theorem Run.Plain.pose (q : Question) : q.pose.Plain := by
  refine bind (view fun _ _ _ => rfl) fun dialogs => ?_
  cases dialogs with
  | none => exact result _
  | some d =>
      refine bind (change ?_ ?_) fun _ => bind nextReply fun reply => ?_
      · intro m
        cases d.showsLate with
        | _ => exact .of_eq rfl
      · intro m handlers bus
        cases d.showsLate with
        | _ => rfl
      · exact bind (view fun _ _ _ => rfl) fun _ => bind (view fun _ _ _ => rfl) fun _ => result _

theorem Question.awaited_ne_nil (q : Question) (now limit : Nat) (r : DialogReply) :
    q.awaited now limit r ≠ [] := by
  cases r with
  | _ => exact List.cons_ne_nil _ _

theorem ask_law (law : LawOf places functions handlers P) (q : Question) :
    P Value fun sv => sv.ask q := by
  simp only [Services.ask_eq]
  refine law.bind (law.plain (.pose q)) fun posed => ?_
  cases posed with
  | none => exact law.plain (.result _)
  | some posed =>
      exact law.bind (law.suspend (q.awaited_ne_nil _ _ _)) fun r => law.plain (.receive _ r)

theorem emitWith_law (law : LawOf places functions handlers P) (event : HostEvent)
    (entries : List (String × Value)) : P Unit fun _ => Run.emitWith event entries :=
  law.bind (law.plain (.newObject entries)) fun _ => law.emit _ _

theorem Run.alert_eq (message : String) :
    Run.alert message = Run.view (fun m => m.world.dialogs.isSome) >>= fun shown =>
      if shown then Run.change fun m => ⟨m.engine, m.world.note (.alert message)⟩
      else Run.emitWith .dialogAlert [("message", .text message)] := by
  funext m
  obtain ⟨e, w⟩ := m
  simp only [Run.alert, Bind.bind, Run.andThen, Run.view]
  cases w.dialogs with
  | none => rfl
  | some _ => rfl

theorem alert_law (law : LawOf places functions handlers P) (message : String) :
    P Unit fun _ => Run.alert message := by
  simp only [Run.alert_eq]
  refine law.bind (law.plain (.view fun _ _ _ => rfl)) fun shown => ?_
  refine ite_law (law.plain ?_) (emitWith_law law _ _)
  exact .change (fun _ => .of_eq rfl) fun _ _ _ => rfl

/-- A law holds of every request with positions of its kind. -/
theorem request_law (law : LawOf places functions handlers P) (r : HostRequest)
    (h : Expr.PlacedAll places r.operands) : P Unit fun sv => request sv r := by
  have text {e : Expr} (h : e.Placed places) := evalText_law law e h
  have value {e : Expr} (h : e.Placed places) := eval_law law e h
  cases r with
  | emit event payload =>
      exact law.bind (text h.1) fun _ => law.bind (evalOr_law law _ payload h.2) fun _ =>
        law.emit _ _
  | launch app options =>
      refine law.bind (value h.1) fun a => ?_
      cases options with
      | none => exact law.bind (law.plain (.newObject _)) fun _ => law.plain (.commandWith _ _)
      | some e => exact law.bind (value h.2.1) fun _ => law.plain (.commandWith _ _)
  | close target =>
      cases target with
      | some target => exact law.bind (value h.1) fun _ => law.plain (.commandWith _ _)
      | none =>
          refine law.bind (law.plain (.view fun _ _ _ => rfl)) fun window => ?_
          cases window with
          | some name => exact law.plain (.commandWith _ _)
          | none => exact law.plain (.result _)
  | window action target => exact law.bind (value h.1) fun _ => law.plain (.commandWith _ _)
  | wait duration =>
      refine law.bind (value h.1) fun v => ?_
      refine law.bind (law.plain (.view fun _ _ _ => rfl)) fun now => ?_
      exact law.bind (law.suspend (List.cons_ne_nil _ _)) fun _ => law.plain (.result _)
  | write content path =>
      exact law.bind (text h.1) fun _ => law.bind (text h.2.1) fun _ => law.plain (.onFiles _)
  | read path var =>
      exact law.bind (text h.1) fun _ => law.bind (law.plain (.readFile _)) fun v =>
        law.plain (.assignName _ v)
  | mkdir path => exact law.bind (text h.1) fun _ => law.plain (.onFiles _)
  | delete path recursive => exact law.bind (text h.1) fun _ => law.plain (.onFiles _)
  | alert message => exact law.bind (text h.1) fun _ => alert_law law _
  | confirm message var =>
      exact law.bind (text h.1) fun _ => law.bind (ask_law law _) fun v =>
        law.plain (.assignName _ v)
  | prompt message default var =>
      have asked (q : Question) := law.bind (ask_law law q) fun v =>
        law.plain (.assignName (var.getD answerName) v)
      refine law.bind (text h.1) fun _ => ?_
      cases default with
      | some e => exact law.bind (text h.2.1) fun _ => asked _
      | none => exact law.bind (law.plain (.result _)) fun _ => asked _
  | notify message title =>
      exact law.bind (value h.1) fun _ => law.bind (evalOr_law law _ title h.2) fun _ =>
        emitWith_law law _ _
  | play source => exact law.bind (value h.1) fun _ => emitWith_law law _ _
  | stop => exact law.emit _ _
  | video source => exact law.bind (value h.1) fun _ => emitWith_law law _ _
  | command name args =>
      refine law.bind (text h.1) fun n => law.bind (evalAll_law law args h.2) fun values => ?_
      have sent (payload : Value) : P Unit fun _ => if n.toList.contains ':' then
          Run.emit (commandEventStart ++ n) payload else Run.command n payload :=
        ite_law (law.emit _ _) (law.plain (.command _ _))
      dsimp only
      split
      · exact law.bind (law.plain (.result _)) sent
      · exact law.bind (law.plain (.newArray _)) fun _ => law.bind (law.plain (.newObject _)) sent

/-! ### Statements -/

/-- What comes after a round of a loop: `break` ends the loop, `return` more. -/
def Run.afterRound (rest : Run Signal) : Signal → Run Signal
  | .next => rest
  | .continue => rest
  | .break => .result .next
  | .return v => .result (.return v)

theorem afterRound_law (law : LawOf places functions handlers P) {rest : Services → Run Signal}
    (hrest : P Signal rest) (signal : Signal) :
    P Signal fun sv => Run.afterRound (rest sv) signal := by
  cases signal with
  | next => exact hrest
  | «continue» => exact hrest
  | «break» => exact law.plain (.result _)
  | «return» v => exact law.plain (.result _)

theorem beginRound_law (law : LawOf places functions handlers P) : P Unit fun _ => Run.beginRound :=
  law.plain (.beginning rfl)

theorem Run.forRounds_cons (body : α → Run Signal) (a : α) (rest : List α) :
    Run.forRounds body (a :: rest) =
      Run.beginRound >>= fun _ => body a >>= Run.afterRound (Run.forRounds body rest) := by
  funext m
  simp only [Run.forRounds, Bind.bind, Run.andThen]
  cases Run.beginRound m with
  | done u m₁ =>
      dsimp only
      cases body a m₁ with
      | done signal m₂ => cases signal with
          | _ => rfl
      | _ => rfl
  | _ => rfl

theorem forRounds_law (law : LawOf places functions handlers P) {body : α → Services → Run Signal}
    (hbody : ∀ a, P Signal (body a)) (items : List α) :
    P Signal fun sv => Run.forRounds (fun a => body a sv) items := by
  induction items with
  | nil => exact law.plain (.result _)
  | cons a rest ih =>
      simp only [Run.forRounds_cons]
      exact law.bind (beginRound_law law) fun _ => law.bind (hbody a) fun signal =>
        afterRound_law law ih signal

theorem Run.countRounds_succ (body : Nat → Run Signal) (left i : Nat) :
    Run.countRounds body (left + 1) i =
      Run.beginRound >>= fun _ =>
        body i >>= Run.afterRound (Run.countRounds body left (i + 1)) := by
  funext m
  simp only [Run.countRounds, Bind.bind, Run.andThen]
  cases Run.beginRound m with
  | done u m₁ =>
      dsimp only
      cases body i m₁ with
      | done signal m₂ => cases signal with
          | _ => rfl
      | _ => rfl
  | _ => rfl

theorem countRounds_law (law : LawOf places functions handlers P)
    {body : Nat → Services → Run Signal} (hbody : ∀ i, P Signal (body i)) (left i : Nat) :
    P Signal fun sv => Run.countRounds (fun i => body i sv) left i := by
  induction left generalizing i with
  | zero => exact law.plain (.result _)
  | succ left ih =>
      simp only [Run.countRounds_succ]
      exact law.bind (beginRound_law law) fun _ => law.bind (hbody i) fun signal =>
        afterRound_law law (ih (i + 1)) signal

theorem Run.whileRounds_eq (limit : Nat) (test : Run Value) (body : Run Signal) (left : Nat) :
    Run.whileRounds limit test body left =
      (do Run.beginRound; test : Run Value) >>= fun v =>
        if v.isTruthy then
          match left with
          | 0 => Run.raise (Run.tooManyRounds limit)
          | left + 1 => body >>= Run.afterRound (Run.whileRounds limit test body left)
        else Run.result .next := by
  funext m
  rw [Run.whileRounds]
  cases hm : (do Run.beginRound; test : Run Value) m with
  | fault f m₁ => rw [Run.bind_fault hm]
  | cut why m₁ => rw [Run.bind_cut hm]
  | done v m₁ =>
      rw [Run.bind_done hm]
      dsimp only
      split
      · cases left with
        | zero => rfl
        | succ left =>
            simp only [Bind.bind, Run.andThen]
            cases body m₁ with
            | done signal m₂ => cases signal with
                | _ => rfl
            | _ => rfl
      · rfl

theorem whileRounds_law (law : LawOf places functions handlers P) (limit : Nat)
    {test : Services → Run Value} {body : Services → Run Signal} (htest : P Value test)
    (hbody : P Signal body) (left : Nat) :
    P Signal fun sv => Run.whileRounds limit (test sv) (body sv) left := by
  induction left with
  | zero =>
      simp only [Run.whileRounds_eq]
      refine law.bind (law.bind (beginRound_law law) fun _ => htest) fun v => ?_
      exact ite_law (law.plain (.raise _)) (law.plain (.result _))
  | succ left ih =>
      rw [funext fun sv => Run.whileRounds_eq limit (test sv) (body sv) (left + 1)]
      refine law.bind (law.bind (beginRound_law law) fun _ => htest) fun v => ?_
      refine ite_law ?_ (law.plain (.result _))
      exact law.bind hbody fun signal => afterRound_law law ih signal

theorem Run.statement_eq_bind (loc : Location) (body : Run Signal) :
    Run.statement loc body = Run.view (fun m => m.engine.stopping) >>= fun stopping =>
      if stopping then Run.bar loc
      else Run.located loc
        ((do Run.checkTime; Run.change fun m => m.record (.statement loc)) >>= fun _ => body) := by
  funext m
  simp only [Run.statement, Bind.bind, Run.andThen, Run.view]
  split
  · rfl
  · simp only [Run.located, Run.andThen]
    cases Run.checkTime m with
    | _ => rfl

theorem statement_law (law : LawOf places functions handlers P) {loc : Location}
    (at_ : places loc) {body : Services → Run Signal} (hbody : P Signal body) :
    P Signal fun sv => Run.statement loc (body sv) := by
  simp only [Run.statement_eq_bind]
  refine law.bind (law.plain (.view fun _ _ _ => rfl)) fun stopping => ?_
  refine ite_law (law.bar loc) (law.located at_ ?_)
  exact law.bind (law.plain (.beginning rfl)) fun _ => hbody

theorem thenNext_law (law : LawOf places functions handlers P) {x : Services → Run Unit}
    (hx : P Unit x) : P Signal fun sv => (x sv).thenNext :=
  law.bind hx fun _ => law.plain (.result _)

theorem assign_law (law : LawOf places functions handlers P) (op : AssignOp) (v : Value)
    (target : Target) (h : Expr.PlacedAll places target.operands) :
    P Unit fun sv => assign sv op v target := by
  cases target with
  | var name =>
      have got (m : Machine) (f : Fault)
          (failed : m.engine.scopes.get m.engine.scope name = .error f) : f.bare = true :=
        Scopes.bare_get failed
      refine law.bind (law.plain (.combined op (fun _ _ _ => rfl) got v)) fun v => ?_
      exact law.plain (.assignName _ v)
  | member base key =>
      refine law.bind (eval_law law base h.1) fun b => ?_
      have got (m : Machine) (f : Fault) (failed : m.world.heap.member b key = .error f) :
          f.bare = true := Heap.bare_member failed
      refine law.bind (law.plain (.combined op (fun _ _ _ => rfl) got v)) fun v => ?_
      exact law.plain (.writeSlot (fun _ _ _ => rfl) (fun _ _ => Heap.bare_memberSlot) v)
  | index base position =>
      refine law.bind (eval_law law base h.1) fun b => ?_
      refine law.bind (eval_law law position h.2.1) fun i => ?_
      have got (m : Machine) (f : Fault)
          (failed : (.ok (m.world.heap.index b i) : Except Fault Value) = .error f) :
          f.bare = true := by
        cases failed
      refine law.bind (law.plain (.combined op (fun _ _ _ => rfl) got v)) fun v => ?_
      refine law.bind (law.openAt b i) fun _ => ?_
      exact law.plain (.writeSlot (fun _ _ _ => rfl) (fun _ _ => Heap.bare_indexSlot) v)

mutual

/-- A law holds of every statement that it does not leave out. -/
theorem exec_lawOf (law : LawOf places functions handlers P) (s : Stmt) (placed : s.Placed places)
    (h : s.Installs functions handlers) : P Signal fun sv => exec sv s := by
  match s with
  | .block loc body =>
      exact statement_law law placed.1 (law.inChild [] (execAll_lawOf law body placed.2 h))
  | .set loc target op value =>
      obtain ⟨at_, htarget, hvalue⟩ := placed
      refine statement_law law at_ (law.bind (eval_law law value hvalue) fun v => ?_)
      exact thenNext_law law (assign_law law op v target htarget)
  | .declare loc name value =>
      refine statement_law law placed.1 (law.bind (eval_law law value placed.2) fun v => ?_)
      exact thenNext_law law (law.plain (.declareName name v))
  | .print loc value =>
      refine statement_law law placed.1 (law.bind (evalText_law law value placed.2) fun text => ?_)
      exact thenNext_law law (law.plain (.print text))
  | .cond loc test thenBody none =>
      obtain ⟨at_, htest, hthen⟩ := placed
      refine statement_law law at_ (law.bind (eval_law law test htest) fun v => ?_)
      exact ite_law (law.inChild [] (execAll_lawOf law thenBody hthen h)) (law.plain (.result _))
  | .cond loc test thenBody (some elseBody) =>
      obtain ⟨at_, htest, hthen, helse⟩ := placed
      refine statement_law law at_ (law.bind (eval_law law test htest) fun v => ?_)
      exact ite_law (law.inChild [] (execAll_lawOf law thenBody hthen h.1))
        (law.inChild [] (execAll_lawOf law elseBody helse h.2))
  | .loop loc count body =>
      obtain ⟨at_, hcount, hbody⟩ := placed
      refine statement_law law at_ (law.bind (eval_law law count hcount) fun v => ?_)
      refine law.bind (law.plain (.view fun _ _ _ => rfl)) fun n => ?_
      exact countRounds_law law (fun i => law.inChild _ (execAll_lawOf law body hbody h)) n 0
  | .while loc test body =>
      obtain ⟨at_, htest, hbody⟩ := placed
      refine statement_law law at_ (law.bind (law.plain (.view fun _ _ _ => rfl)) fun limit => ?_)
      exact whileRounds_law law limit (eval_law law test htest)
        (law.inChild [] (execAll_lawOf law body hbody h)) limit
  | .foreach loc var items body =>
      obtain ⟨at_, hitems, hbody⟩ := placed
      refine statement_law law at_ (law.bind (eval_law law items hitems) fun v => ?_)
      refine law.bind (law.plain (.elementsOf v)) fun elements => ?_
      exact forRounds_law law (fun x => law.inChild _ (execAll_lawOf law body hbody h)) elements
  | .break loc => exact statement_law law placed (law.plain (.result _))
  | .continue loc => exact statement_law law placed (law.plain (.result _))
  | .return loc value =>
      exact statement_law law placed.1 (law.bind (evalOr_law law _ value placed.2) fun _ =>
        law.plain (.result _))
  | .define loc name params body =>
      exact statement_law law placed.1 (thenNext_law law (law.define name params h))
  | .expr loc value =>
      exact statement_law law placed.1 (law.bind (eval_law law value placed.2) fun _ =>
        law.plain (.result _))
  | .attempt loc body var handler =>
      obtain ⟨at_, hbody, hhandler⟩ := placed
      refine statement_law law at_ (law.attempt
        (law.inChild [] (execAll_lawOf law body hbody h.1)) fun message => ?_)
      exact law.inChild _ (execAll_lawOf law handler hhandler h.2)
  | .on loc event body =>
      obtain ⟨at_, hevent, hbody⟩ := placed
      refine statement_law law at_ (law.bind (evalText_law law event hevent) fun name => ?_)
      exact thenNext_law law (law.addHandler name body h)
  | .host loc r =>
      exact statement_law law placed.1 (thenNext_law law (request_law law r placed.2))

theorem execAll_lawOf (law : LawOf places functions handlers P) (body : List Stmt)
    (placed : Stmt.PlacedAll places body) (h : Stmt.InstallsAll functions handlers body) :
    P Signal fun sv => execAll sv body := by
  match body with
  | [] => exact law.plain (.result _)
  | s :: rest =>
      refine law.bind (exec_lawOf law s placed.1 h.1) fun signal => ?_
      cases signal with
      | next => exact execAll_lawOf law rest placed.2 h.2
      | _ => exact law.plain (.result _)

end

/-- A law holds of every statement, or of every one that registers no handler. -/
theorem exec_law {registers : Prop} (law : Law registers P) (s : Stmt)
    (h : registers ∨ s.handlerFree = true) : P Signal fun sv => exec sv s :=
  exec_lawOf law s (s.placed_of_forall fun _ => trivial) (s.installs_of_handlerFree h)

theorem execAll_law {registers : Prop} (law : Law registers P) (body : List Stmt)
    (h : registers ∨ Stmt.handlerFreeAll body = true) : P Signal fun sv => execAll sv body :=
  execAll_lawOf law body (Stmt.placedAll_of_forall (fun _ => trivial) body)
    (Stmt.installsAll_of_handlerFree body h)

end Syntax

/-! ### Calls -/

/-- The value of a call whose body has ended. -/
def Signal.returned : Signal → Value
  | .return v => v
  | _ => .undefined

/-- The answer of a host function that has acted, at once or after a while. -/
def Services.replied (sv : Services) (name : String) (reply : HostReply) : Run Value :=
  match reply.delay with
  | none => Run.receive name reply.result
  | some ms => do
    let now ← Run.view fun m => m.world.now
    let r ← sv.suspend [(now + ms, reply.result)]
    Run.receive name r

section Calls

variable {m : Machine} {f : UserFunction}

/-- The call of a host function is counted, the host acts at once, and then its answer comes. -/
theorem Services.callHost_eq (sv : Services) (f : HostFunction) (args : List Value) (m : Machine) :
    let reply := f.answer { args, heap := m.world.heap, now := m.world.now, earlier := f.calls }
    sv.callHost f args m = sv.replied f.name reply
      (reply.acts.foldl Machine.act ⟨m.engine, m.world.countCall f.name⟩) := by
  dsimp only
  simp only [Services.callHost, Services.replied]
  cases HostReply.delay _ with
  | none => rfl
  | some ms => rfl


theorem callUser_eq (sv : Services) (args : List Value)
    (room : m.engine.limits.allowsCall m.engine.callStack.length = true) :
    callUser sv f args m =
      ((Run.inChildOf f.closure (bindParams f.params args []) (execAll sv f.body)).ensuring
        Machine.popCall >>= fun signal => Run.result signal.returned) (m.pushCall f.name) := by
  simp only [callUser, room, if_true, Bind.bind, Run.andThen]
  cases (Run.inChildOf f.closure (bindParams f.params args []) (execAll sv f.body)).ensuring
      Machine.popCall (m.pushCall f.name) with
  | done signal m' => cases signal with
      | _ => rfl
  | _ => rfl

theorem callUser_eq_fault (sv : Services) (args : List Value)
    (full : m.engine.limits.allowsCall m.engine.callStack.length = false) :
    callUser sv f args m =
      .fault (.recursion m.engine.limits.maxRecursionDepth m.engine.activeCalls)
        (m.record (.refused f.name)) := by
  simp only [callUser, full, Bool.false_eq_true, if_false]

end Calls

/-! ### Runs at the top level -/

/-- How a run at the top level ends, given how its statements end. -/
def Outcome.concluded : Outcome Signal → Outcome (Except Fault Value)
  | .done (.return v) m => .done (.ok v) (m.endRun .completed)
  | .done _ m => .done (.ok .undefined) (m.endRun .completed)
  | .fault .cancelled m => .done (.ok .undefined) (m.endRun .stopped)
  | .fault f m => .done (.error f) (m.endRun .errored)
  | .cut why m => .cut why m

theorem Run.execute_eq (allowance : Nat) (program : Program) (m : Machine) :
    Run.execute allowance program m =
      (execAll (servicesWithin allowance) program m.beginRun).concluded := rfl

end HostScript
