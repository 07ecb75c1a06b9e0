import HostScript.Proofs.Evolution.Asides

/-!
# Expressions and requests follow evolution

A computation follows evolution when the machine it ends with has evolved from the
one it began with, and when the machine at which it is cut off is one it
passed. Expressions and requests do so if the services do that they are given, by
recursion on syntax. A request binds at most its own variable in the current scope,
and an expression none.
-/

namespace HostScript

variable {limit : Nat} {names : Set String} {α β : Type}

/-- The end of a computation that began at `m` lies on an evolution. -/
def Outcome.Follows (limit : Nat) (names : Set String) (m : Machine) : Outcome α → Prop
  | .done _ m' => Evolves limit names m m'
  | .fault _ m' => Evolves limit names m m'
  | .cut _ m' => Passes limit m m'

/-- A computation that follows evolution from wherever it begins. -/
def Run.Follows (limit : Nat) (names : Set String) (x : Run α) : Prop :=
  ∀ m, (x m).Follows limit names m

theorem Outcome.Follows.after {m m₁ : Machine} {o : Outcome α}
    (first : Evolves limit names m m₁) (h : o.Follows limit names m₁) :
    o.Follows limit names m := by
  cases o with
  | done a m' => exact first.trans h
  | fault f m' => exact first.trans h
  | cut why m' => exact Passes.after first h

theorem Outcome.Follows.mono {wider : Set String} (sub : names ⊆ wider) {m : Machine}
    {o : Outcome α} (h : o.Follows limit names m) : o.Follows limit wider m := by
  cases o with
  | done a m' => exact Evolves.mono sub h
  | fault f m' => exact Evolves.mono sub h
  | cut why m' => exact h

theorem Outcome.Follows.located (loc : Location) {m : Machine} {x : Run α}
    (h : (x m).Follows limit names m) : (x.located loc m).Follows limit names m := by
  simp only [Run.located]
  cases hm : x m with
  | done a m' => rw [hm] at h; exact h
  | fault e m' => rw [hm] at h; exact h
  | cut why m' => rw [hm] at h; exact h

namespace Run.Follows

theorem mono {wider : Set String} (sub : names ⊆ wider) {x : Run α}
    (h : x.Follows limit names) : x.Follows limit wider :=
  fun m => (h m).mono sub

theorem result (a : α) : (Run.result a).Follows limit names := fun m => .refl m

theorem raise (f : Fault) : (Run.raise f : Run α).Follows limit names := fun m => .refl m

theorem ofExcept (x : Except Fault α) : (Run.ofExcept x).Follows limit names := by
  cases x with
  | ok a => exact result a
  | error f => exact raise f

theorem view (f : Machine → α) : (Run.view f).Follows limit names := fun m => .refl m

theorem check (f : Machine → Except Fault α) : (Run.check f).Follows limit names := by
  intro m
  simp only [Run.check]
  cases f m with
  | ok a => exact .refl m
  | error e => exact .refl m

theorem change {f : Machine → Machine} (h : ∀ m, Evolves limit names m (f m)) :
    (Run.change f).Follows limit names := h

theorem update {f : Machine → α × Machine} (h : ∀ m, Evolves limit names m (f m).2) :
    (Run.update f).Follows limit names := h

theorem andThen {x : Run α} {f : α → Run β} (hx : x.Follows limit names)
    (hf : ∀ a, (f a).Follows limit names) : (x.andThen f).Follows limit names := by
  intro m
  have h := hx m
  simp only [Run.andThen]
  cases hm : x m with
  | done a m' => exact (hf a m').after (by rw [hm] at h; exact h)
  | fault e m' => rw [hm] at h; exact h
  | cut why m' => rw [hm] at h; exact h

theorem bind {x : Run α} {f : α → Run β} (hx : x.Follows limit names)
    (hf : ∀ a, (f a).Follows limit names) : (x >>= f).Follows limit names :=
  andThen hx hf

theorem located {x : Run α} (loc : Location) (hx : x.Follows limit names) :
    (x.located loc).Follows limit names :=
  fun m => (hx m).located loc

theorem thenNext {x : Run Unit} (hx : x.Follows limit names) :
    x.thenNext.Follows limit names :=
  bind hx fun _ => result _

end Run.Follows

/-- What runs inside a frame that is closed however it ends follows evolution outside. -/
theorem Outcome.Follows.ensuring {inner : Set String} {m inside : Machine}
    {close : Machine → Machine} {x : Run α} (opened : Frame limit inner m inside close)
    (h : (x inside).Follows limit inner inside) :
    (x.ensuring close inside).Follows limit names m := by
  simp only [Run.ensuring]
  cases hm : x inside with
  | done a m' => rw [hm] at h; exact .frame opened h
  | fault e m' => rw [hm] at h; exact .frame opened h
  | cut why m' => rw [hm] at h; exact Passes.opened opened h

theorem Run.Follows.inChild {inner : Set String} {x : Run α} (vars : Bindings)
    (hx : x.Follows limit inner) : (x.inChild vars).Follows limit names := by
  intro m
  exact Outcome.Follows.ensuring (.child m vars) (hx _)

/-! ### Evaluation -/

/-- Services that follow evolution; functions are called as the engine knows them. -/
structure Services.Follow (limit : Nat) (sv : Services) : Prop where
  call : ∀ {m : Machine} {name : String} {f : UserFunction} (args : List Value),
    m.engine.function? name = some f → (sv.call f args m).Follows limit ∅ m
  await : ∀ a : Awaited, (sv.await a).Follows limit ∅

namespace Services.Follow

variable {sv : Services}

theorem suspend (hsv : sv.Follow limit) (a : Awaited) : (sv.suspend a).Follows limit names := by
  intro m
  exact Outcome.Follows.ensuring (.suspension m) (hsv.await a _)

theorem receive (name : String) (r : Reply) : (Run.receive name r).Follows limit names := by
  intro m
  obtain ⟨e, w⟩ := m
  cases r with
  | error message => exact .refl _
  | ok v =>
      cases v with
      | value v => exact .refl _
      | newArray items => exact .move (.heap (.newArray w.heap _))

theorem callHost (hsv : sv.Follow limit) (f : HostFunction) (args : List Value) :
    (sv.callHost f args).Follows limit names := by
  intro m
  obtain ⟨e, w⟩ := m
  -- The call is counted and the host acts at once; only then may the script be suspended.
  have counted : Evolves limit names ⟨e, w⟩ ⟨e, w.countCall f.name⟩ :=
    .move (.host (.of_bus_eq rfl rfl rfl rfl))
  have acted := fun acts => counted.trans (asides_acts ⟨e, w.countCall f.name⟩ acts).evolves
  simp only [Services.callHost]
  split
  · exact (receive _ _ _).after (acted _)
  · exact (Run.Follows.andThen (hsv.suspend _) (receive _) _).after (acted _)

theorem callBuiltin (b : Builtin) (args : List Value) :
    (Services.callBuiltin b args).Follows limit names := by
  intro m
  obtain ⟨e, w⟩ := m
  have advances := Heap.Advances.call w.heap b (w.epoch + w.now) args
  simp only [Services.callBuiltin]
  split
  · next called =>
    rw [called] at advances
    exact .move (.heap advances)
  · next failed =>
    rw [failed] at advances
    exact .move (.heap advances)

theorem callByName (hsv : sv.Follow limit) (name : String) (args : List Value) :
    (sv.callByName name args).Follows limit names := by
  intro m
  simp only [Services.callByName]
  split
  · exact hsv.callHost _ args m
  · split
    · exact callBuiltin _ args m
    · split
      · next found => exact (hsv.call args found).mono (Set.empty_subset _)
      · exact .refl m

end Services.Follow

theorem Run.Follows.newArray (items : List Value) :
    (Run.newArray items).Follows limit names :=
  .update fun _ => .move (.heap (.newArray _ _))

theorem Run.Follows.newObject (entries : List (String × Value)) :
    (Run.newObject entries).Follows limit names :=
  .update fun _ => .move (.heap (.newObject _ _))

section Evaluation

variable {sv : Services}

mutual

/-- Evaluation of an expression follows evolution, whatever names may be bound. -/
theorem eval_follows (hsv : sv.Follow limit) (e : Expr) : (eval sv e).Follows limit names := by
  match e with
  | .lit _ v => exact .result _
  | .var loc name => exact .located loc (.check _)
  | .group loc e => exact .located loc (eval_follows hsv e)
  | .template _ parts => exact .view _
  | .unary loc op e => exact .located loc (.bind (eval_follows hsv e) fun _ => .result _)
  | .binary loc op l r =>
      have hl := eval_follows hsv l
      have hr := eval_follows hsv r
      cases op with
      | both =>
          refine .located loc (.bind hl fun v => ?_)
          split
          · exact hr
          · exact .result _
      | either =>
          refine .located loc (.bind hl fun v => ?_)
          split
          · exact .result _
          · exact hr
      | _ => exact .located loc (.bind hl fun _ => .bind hr fun _ => .check _)
  | .array loc items =>
      exact .located loc (.bind (evalAll_follows hsv items) fun _ => .newArray _)
  | .object loc entries =>
      exact .located loc (.bind (evalEntries_follows hsv entries) fun _ => .newObject _)
  | .member loc base key =>
      exact .located loc (.bind (eval_follows hsv base) fun _ => .check _)
  | .index loc base position =>
      refine .located loc (.bind (eval_follows hsv base) fun b => ?_)
      refine .bind (eval_follows hsv position) fun i => ?_
      exact .bind (.ofExcept _) fun _ => .view _
  | .call loc name args =>
      exact .located loc (.bind (evalAll_follows hsv args) fun _ => hsv.callByName name _)

theorem evalAll_follows (hsv : sv.Follow limit) (es : List Expr) :
    (evalAll sv es).Follows limit names := by
  match es with
  | [] => exact .result _
  | e :: rest =>
      refine .bind (eval_follows hsv e) fun _ => ?_
      exact .bind (evalAll_follows hsv rest) fun _ => .result _

theorem evalEntries_follows (hsv : sv.Follow limit) (es : List (String × Expr)) :
    (evalEntries sv es).Follows limit names := by
  match es with
  | [] => exact .result _
  | (k, e) :: rest =>
      refine .bind (eval_follows hsv e) fun _ => ?_
      exact .bind (evalEntries_follows hsv rest) fun _ => .result _

end

theorem evalText_follows (hsv : sv.Follow limit) (e : Expr) :
    (evalText sv e).Follows limit names :=
  .bind (eval_follows hsv e) fun _ => .view _

theorem evalOr_follows (hsv : sv.Follow limit) (otherwise : Value) (e : Option Expr) :
    (evalOr sv otherwise e).Follows limit names := by
  cases e with
  | none => exact .result _
  | some e => exact eval_follows hsv e

end Evaluation

/-! ### Requests -/

/-- The variables that a request binds in the current scope. -/
def HostRequest.binds : HostRequest → Set String
  | .read _ var => {var}
  | .confirm _ var => {var.getD answerName}
  | .prompt _ _ var => {var.getD answerName}
  | _ => ∅

namespace Run.Follows

theorem assignName {name : String} (mem : name ∈ names) (v : Value) :
    (Run.assignName name v).Follows limit names :=
  .change fun _ => .move (.assign v mem)

theorem emit (event : String) (payload : Value) : (Run.emit event payload).Follows limit names :=
  .change fun m => (asides_emit m event payload).evolves

theorem command (name : String) (payload : Value) :
    (Run.command name payload).Follows limit names := by
  intro m
  obtain ⟨e, w⟩ := m
  have noted : Evolves limit names ⟨e, w⟩ ⟨e, w.note (.command name payload w.heap)⟩ :=
    .move (.host (.of_bus_eq rfl rfl rfl rfl))
  simp only [Run.command]
  split
  · exact .refl _
  · split
    · exact noted
    · exact noted

theorem commandWith (name : String) (entries : List (String × Value)) :
    (Run.commandWith name entries).Follows limit names :=
  .bind (.newObject entries) fun _ => .command name _

theorem emitWith (event : HostEvent) (entries : List (String × Value)) :
    (Run.emitWith event entries).Follows limit names :=
  .bind (.newObject entries) fun _ => .emit _ _

theorem onFiles (act : Files.Root → Option String × Files.Root) :
    (Run.onFiles act).Follows limit names := by
  intro m
  obtain ⟨e, w⟩ := m
  have changed (root : Files.Root) :
      Evolves limit names ⟨e, w⟩ ⟨e, { w with files := some root }⟩ :=
    .move (.host (.of_bus_eq rfl rfl rfl rfl))
  simp only [Run.onFiles]
  split
  · exact .refl _
  · split
    · exact changed _
    · exact changed _

theorem alert (message : String) : (Run.alert message).Follows limit names := by
  intro m
  obtain ⟨e, w⟩ := m
  simp only [Run.alert]
  split
  · exact .move (.host (.of_bus_eq rfl rfl rfl rfl))
  · exact emitWith _ _ _

end Run.Follows

/-- Putting a question to the user changes only what dialogs show and have answered. -/
theorem World.alike_ask (w : World) (q : Question) : w.Alike (w.ask q).2 := by
  have hreply : ∀ w' : World, w.Alike w' → w.Alike w'.nextReply.2 := by
    intro w' h
    unfold World.nextReply
    split
    · exact h
    · split
      · exact ⟨h.now, h.heap, h.timeline, h.listeners, h.nextIds, h.delivered⟩
      · exact h
  apply hreply
  split
  · exact .of_bus_eq rfl rfl rfl rfl
  · exact .of_bus_eq rfl rfl rfl rfl

theorem Services.Follow.ask {sv : Services} (hsv : sv.Follow limit) (q : Question) :
    (sv.ask q).Follows limit names := by
  intro m
  simp only [Services.ask]
  split
  · exact .refl m
  · obtain ⟨e, w⟩ := m
    have asked : Evolves limit names ⟨e, w⟩ ⟨e, (w.ask q).2⟩ := .move (.host (w.alike_ask q))
    exact (Run.Follows.andThen (hsv.suspend _) (Services.Follow.receive _) _).after asked

/-- A request follows evolution and binds at most its own variable. -/
theorem request_follows {sv : Services} (hsv : sv.Follow limit) (r : HostRequest) :
    (request sv r).Follows limit r.binds := by
  have text (e : Expr) : (evalText sv e).Follows limit r.binds := evalText_follows hsv e
  have value (e : Expr) : (eval sv e).Follows limit r.binds := eval_follows hsv e
  cases r with
  | emit event payload =>
      exact .bind (text event) fun _ => .bind (evalOr_follows hsv _ payload) fun _ => .emit _ _
  | launch app options =>
      refine .bind (value app) fun a => ?_
      cases options with
      | none => exact .bind (.newObject _) fun _ => .commandWith _ _
      | some e => exact .bind (value e) fun _ => .commandWith _ _
  | close target =>
      cases target with
      | some target => exact .bind (value target) fun _ => .commandWith _ _
      | none =>
          refine .bind (.view _) fun window => ?_
          cases window with
          | some name => exact .commandWith _ _
          | none => exact .result _
  | window action target => exact .bind (value target) fun _ => .commandWith _ _
  | wait duration =>
      refine .bind (value duration) fun v => .bind (.view _) fun now => ?_
      exact .bind (hsv.suspend _) fun _ => .result _
  | write content path =>
      exact .bind (text content) fun _ => .bind (text path) fun _ => .onFiles _
  | read path var =>
      exact .bind (text path) fun _ => .bind (.check _) fun v =>
        .assignName (Set.mem_singleton _) v
  | mkdir path => exact .bind (text path) fun _ => .onFiles _
  | delete path recursive => exact .bind (text path) fun _ => .onFiles _
  | alert message => exact .bind (text message) fun _ => .alert _
  | confirm message var =>
      exact .bind (text message) fun _ => .bind (hsv.ask _) fun v =>
        .assignName (Set.mem_singleton _) v
  | prompt message default var =>
      have asked (q : Question) : (do
          let v ← sv.ask q
          Run.assignName (var.getD answerName) v).Follows limit
            (HostRequest.prompt message default var).binds :=
        .bind (hsv.ask q) fun v => .assignName (Set.mem_singleton _) v
      refine .bind (text message) fun _ => ?_
      cases default with
      | some e => exact .bind (text e) fun _ => asked _
      | none => exact .bind (.result _) fun _ => asked _
  | notify message title =>
      exact .bind (value message) fun _ => .bind (evalOr_follows hsv _ title) fun _ =>
        .emitWith _ _
  | play source => exact .bind (value source) fun _ => .emitWith _ _
  | stop => exact .emit _ _
  | video source => exact .bind (value source) fun _ => .emitWith _ _
  | command name args =>
      refine .bind (text name) fun n => .bind (evalAll_follows hsv args) fun values => ?_
      have sent (payload : Value) : (if n.toList.contains ':' then
          Run.emit (commandEventStart ++ n) payload else Run.command n payload).Follows limit
            (HostRequest.command name args).binds := by
        split
        · exact .emit _ _
        · exact .command _ _
      dsimp only
      split
      · exact .bind (.result _) sent
      · exact .bind (.newArray _) fun _ => .bind (.newObject _) sent

end HostScript
