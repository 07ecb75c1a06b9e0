import HostScript.Proofs.Evolution.Evaluation

/-!
# Statements, frames and operations follow evolution

Statements follow evolution by recursion on syntax, and a statement binds at most its
own target in the current scope. Calls and waiting follow it for every allowance, by
induction on the allowance; with that, whatever an engine does follows evolution.
-/

namespace HostScript

variable {limit : Nat} {names : Set String} {α : Type}

/-! ### Statements -/

theorem timeoutFault?_record (m : Machine) (s : Step) :
    (m.record s).timeoutFault? = m.timeoutFault? := by
  simp [Machine.timeoutFault?, Machine.record, Engine.record_eq]

/-- The time is checked with success exactly when the budget is not used up. -/
theorem eq_record_of_checkTime {m m' : Machine} {u : Unit} (h : Run.checkTime m = .done u m') :
    m' = m.record (.checked m.world.now (m.engine.clock.elapsed m.world.now) true) ∧
      m.timeoutFault? = none := by
  simp only [Run.checkTime] at h
  split at h
  · cases h
  · next inTime =>
    cases h
    exact ⟨rfl, inTime⟩

/-- The variables that a target binds in the current scope. -/
def Target.binds : Target → Set String
  | .var name => {name}
  | .member _ _ => ∅
  | .index _ _ => ∅

/-- The variables that a statement binds in the current scope. -/
def Stmt.binds : Stmt → Set String
  | .set _ target _ _ => target.binds
  | .declare _ name _ => {name}
  | .host _ r => r.binds
  | _ => ∅

namespace Run.Follows

theorem checkTime : Run.checkTime.Follows limit names := by
  intro m
  have checked : Evolves limit names m (m.record (.checked m.world.now
      (m.engine.clock.elapsed m.world.now) m.timeoutFault?.isNone)) := .move (.checked m)
  simp only [Run.checkTime]
  cases hm : m.timeoutFault? with
  | none => rw [hm] at checked; exact checked
  | some f => rw [hm] at checked; exact checked

theorem statement (loc : Location) {body : Run Signal} (hbody : body.Follows limit names) :
    (Run.statement loc body).Follows limit names := by
  intro m
  simp only [Run.statement]
  split
  · next pending => exact .move (.bar loc pending)
  · next going =>
    have running : m.engine.stopping = false := by simpa using going
    apply Outcome.Follows.located
    have checked : (Run.checkTime m).Follows limit names m := checkTime m
    cases hm : Run.checkTime m with
    | fault f m' => rw [hm] at checked; rw [Run.bind_fault hm]; exact checked
    | cut why m' => rw [hm] at checked; rw [Run.bind_cut hm]; exact checked
    | done u m' =>
        rw [hm] at checked
        obtain ⟨rfl, inTime⟩ := eq_record_of_checkTime hm
        rw [Run.bind_done hm]
        refine (hbody _).after (checked.trans (.move (.statement loc ?_ ?_)))
        · simpa [Machine.record, Engine.record_eq] using running
        · rw [timeoutFault?_record, inTime]

theorem beginRound : Run.beginRound.Follows limit names :=
  .bind checkTime fun _ => .change fun m => .move (.round m)

/-- One round of a loop and what comes after it: `break` ends the loop, `return` more. -/
theorem round {m : Machine} {rest : Run Signal} {o : Outcome Signal}
    (ran : o.Follows limit names m) (hrest : rest.Follows limit names) :
    Outcome.Follows limit names m (match o with
      | .done .next m => rest m
      | .done .continue m => rest m
      | .done .break m => .done .next m
      | .done (.return v) m => .done (.return v) m
      | .fault f m => .fault f m
      | .cut why m => .cut why m) := by
  cases o with
  | fault f m' => exact ran
  | cut why m' => exact ran
  | done signal m' =>
      cases signal with
      | next => exact (hrest m').after ran
      | «continue» => exact (hrest m').after ran
      | «break» => exact ran
      | «return» v => exact ran

theorem forRounds {body : α → Run Signal} (hbody : ∀ a, (body a).Follows limit names)
    (items : List α) : (Run.forRounds body items).Follows limit names := by
  induction items with
  | nil => exact fun m => .refl m
  | cons a rest ih =>
      intro m
      have begun : (Run.beginRound m).Follows limit names m := beginRound m
      simp only [Run.forRounds]
      cases hm : Run.beginRound m with
      | fault f m₁ => rw [hm] at begun; exact begun
      | cut why m₁ => rw [hm] at begun; exact begun
      | done u m₁ =>
          rw [hm] at begun
          exact (round (hbody a m₁) ih).after begun

theorem countRounds {body : Nat → Run Signal} (hbody : ∀ i, (body i).Follows limit names)
    (left i : Nat) : (Run.countRounds body left i).Follows limit names := by
  induction left generalizing i with
  | zero => exact fun m => .refl m
  | succ left ih =>
      intro m
      have begun : (Run.beginRound m).Follows limit names m := beginRound m
      simp only [Run.countRounds]
      cases hm : Run.beginRound m with
      | fault f m₁ => rw [hm] at begun; exact begun
      | cut why m₁ => rw [hm] at begun; exact begun
      | done u m₁ =>
          rw [hm] at begun
          exact (round (hbody i m₁) (ih (i + 1))).after begun

theorem whileRounds (bound : Nat) {test : Run Value} {body : Run Signal}
    (htest : test.Follows limit names) (hbody : body.Follows limit names) (left : Nat) :
    (Run.whileRounds bound test body left).Follows limit names := by
  have tested : (do Run.beginRound; test : Run Value).Follows limit names :=
    .bind beginRound fun _ => htest
  induction left with
  | zero =>
      intro m
      have h := tested m
      rw [Run.whileRounds]
      cases hm : (do Run.beginRound; test : Run Value) m with
      | fault f m₁ => rw [hm] at h; exact h
      | cut why m₁ => rw [hm] at h; exact h
      | done v m₁ =>
          rw [hm] at h
          dsimp only
          split
          · exact h
          · exact h
  | succ left ih =>
      intro m
      have h := tested m
      rw [Run.whileRounds]
      cases hm : (do Run.beginRound; test : Run Value) m with
      | fault f m₁ => rw [hm] at h; exact h
      | cut why m₁ => rw [hm] at h; exact h
      | done v m₁ =>
          rw [hm] at h
          dsimp only
          split
          · exact (round (hbody m₁) ih).after h
          · exact h

theorem attempt {x : Run Signal} {otherwise : String → Run Signal}
    (hx : x.Follows limit names) (hother : ∀ message, (otherwise message).Follows limit names) :
    (Run.attempt x otherwise).Follows limit names := by
  intro m
  have h := hx m
  simp only [Run.attempt]
  cases hm : x m with
  | done signal m₁ => rw [hm] at h; exact h
  | cut why m₁ => rw [hm] at h; exact h
  | fault f m₁ =>
      rw [hm] at h
      cases f with
      | cancelled => exact h
      | failure k d => exact (hother _ m₁).after h

theorem openAt (base index : Value) : (Run.openAt base index).Follows limit names := by
  intro m
  obtain opened | ⟨a, -, -, held⟩ := Run.openAt_cases base index m
  · rw [opened]
    exact .refl m
  · rw [held]
    have unmoved : Evolves limit ∅ m m := .refl m
    exact .here unmoved

end Run.Follows

theorem assign_follows {sv : Services} (hsv : sv.Follow limit) (op : AssignOp) (v : Value)
    (target : Target) : (assign sv op v target).Follows limit target.binds := by
  have value (e : Expr) : (eval sv e).Follows limit target.binds := eval_follows hsv e
  have combined (old : Machine → Except Fault Value) :
      (Run.combined op old v).Follows limit target.binds := by
    simp only [Run.combined]
    split
    · exact .result v
    · exact .check _
  have written (slot : Machine → Except Fault Heap.Slot) (v : Value) :
      (Run.writeSlot slot v).Follows limit target.binds := by
    intro m
    simp only [Run.writeSlot]
    split
    · exact .refl m
    · exact .move (.heap (.write _ _ _))
  cases target with
  | var name => exact .bind (combined _) fun v => .assignName (Set.mem_singleton _) v
  | member base key =>
      exact .bind (value base) fun _ => .bind (combined _) fun v => written _ v
  | index base position =>
      refine .bind (value base) fun _ => .bind (value position) fun _ => ?_
      exact .bind (combined _) fun v => .bind (.openAt _ _) fun _ => written _ v

namespace Run.Follows

theorem define (name : String) (params : List String) (body : List Stmt) :
    (Run.define name params body).Follows limit names := by
  intro m
  simp only [Run.define]
  split
  · exact .refl m
  · exact .move (.define _ _ name params body)

theorem addHandler (event : String) (body : List Stmt) :
    (Run.addHandler event body).Follows limit names := by
  intro m
  simp only [Run.addHandler]
  split
  · next room => exact .move (.register event body room)
  · exact .refl m

theorem print (text : String) : (Run.change fun m => m.print text).Follows limit names := by
  refine .change fun m => ?_
  obtain ⟨e, w⟩ := m
  simp only [Machine.print]
  split
  · exact .move (.host (.of_bus_eq rfl rfl rfl rfl))
  · exact .move (.output e w _)

end Run.Follows

mutual

/-- A statement follows evolution and binds at most its own target. -/
theorem exec_follows {sv : Services} (hsv : sv.Follow limit) (s : Stmt) :
    (exec sv s).Follows limit s.binds := by
  match s with
  | .block loc body => exact .statement loc (.inChild [] (execAll_follows hsv body))
  | .set loc target op value =>
      refine .statement loc (.bind (eval_follows hsv value) fun v => ?_)
      exact .thenNext (assign_follows hsv op v target)
  | .declare loc name value =>
      refine .statement loc (.bind (eval_follows hsv value) fun v => .thenNext ?_)
      exact .change fun _ => .move (.declare v (Set.mem_singleton name))
  | .print loc value =>
      exact .statement loc (.bind (evalText_follows hsv value) fun _ => .thenNext (.print _))
  | .cond loc test thenBody none =>
      refine .statement loc (.bind (eval_follows hsv test) fun v => ?_)
      split
      · exact .inChild [] (execAll_follows hsv thenBody)
      · exact .result _
  | .cond loc test thenBody (some elseBody) =>
      refine .statement loc (.bind (eval_follows hsv test) fun v => ?_)
      split
      · exact .inChild [] (execAll_follows hsv thenBody)
      · exact .inChild [] (execAll_follows hsv elseBody)
  | .loop loc count body =>
      refine .statement loc (.bind (eval_follows hsv count) fun v => .bind (.view _) fun n => ?_)
      exact .countRounds (fun _ => .inChild _ (execAll_follows hsv body)) n 0
  | .while loc test body =>
      refine .statement loc (.bind (.view _) fun bound => ?_)
      exact .whileRounds bound (eval_follows hsv test) (.inChild [] (execAll_follows hsv body)) _
  | .foreach loc var items body =>
      refine .statement loc (.bind (eval_follows hsv items) fun v => .bind (.check _) fun _ => ?_)
      exact .forRounds (fun _ => .inChild _ (execAll_follows hsv body)) _
  | .break loc => exact .statement loc (.result _)
  | .continue loc => exact .statement loc (.result _)
  | .return loc value =>
      exact .statement loc (.bind (evalOr_follows hsv _ value) fun _ => .result _)
  | .define loc name params body => exact .statement loc (.thenNext (.define name params body))
  | .expr loc value => exact .statement loc (.bind (eval_follows hsv value) fun _ => .result _)
  | .attempt loc body var handler =>
      refine .statement loc (.attempt (.inChild [] (execAll_follows hsv body)) fun message => ?_)
      exact .inChild _ (execAll_follows hsv handler)
  | .on loc event body =>
      refine .statement loc (.bind (evalText_follows hsv event) fun name => ?_)
      exact .thenNext (.addHandler name body)
  | .host loc r => exact .statement loc (.thenNext (request_follows hsv r))

theorem execAll_follows {sv : Services} (hsv : sv.Follow limit) (body : List Stmt) :
    (execAll sv body).Follows limit Set.univ := by
  match body with
  | [] => exact .result _
  | s :: rest =>
      refine .bind ((exec_follows hsv s).mono (Set.subset_univ _)) fun signal => ?_
      cases signal with
      | next => exact execAll_follows hsv rest
      | _ => exact .result _

end

/-! ### Calls and handlers -/

theorem callUser_follows {sv : Services} (hsv : sv.Follow limit) {m : Machine} {name : String}
    {f : UserFunction} (args : List Value) (found : m.engine.function? name = some f) :
    (callUser sv f args m).Follows limit names m := by
  simp only [callUser]
  split
  · next room =>
    have opened : Frame limit Set.univ m _ _ := .call args found room
    have body := execAll_follows hsv f.body
      ((m.pushCall f.name).enterChild f.closure (bindParams f.params args []))
    have scope : (m.pushCall f.name).engine.scope = m.engine.scope := by
      simp [Machine.pushCall, Engine.record_eq]
    simp only [Run.inChildOf, Run.ensuring, scope]
    cases hb : execAll sv f.body
        ((m.pushCall f.name).enterChild f.closure (bindParams f.params args [])) with
    | cut why m' => rw [hb] at body; exact Passes.opened opened body
    | fault e m' =>
        rw [hb] at body
        have closed : Evolves limit names m _ := Evolves.frame opened body
        exact closed
    | done signal m' =>
        rw [hb] at body
        have closed : Evolves limit names m _ := Evolves.frame opened body
        cases signal with
        | _ => exact closed
  · next full => exact .move (.refuseCall f.name (by simpa using full))

theorem evolves_report (m : Machine) (message : String) :
    Evolves limit names m (m.report message) := by
  obtain ⟨e, w⟩ := m
  have told : Evolves limit names ⟨e, w⟩ ⟨{ e with errors := e.errors.push message }, w⟩ :=
    .move (.errors e w _)
  simp only [Machine.report]
  split
  · exact told.trans (.move (.host (.of_bus_eq rfl rfl rfl rfl)))
  · exact told

/-- A handler invocation for an event that was just taken follows evolution. Only a suspension
takes events while a stop is pending. -/
theorem runHandler_follows {sv : Services} (hsv : sv.Follow limit) {e e' : Engine} {w : World}
    {taker : Taker} {fired : Fired} (room : e.handlerDepth < limit)
    (heeded : e.stopping = true → taker = .suspension)
    (taken : e.dequeue? taker = some (fired, e')) :
    (runHandler sv fired ⟨e', w⟩).Follows limit names ⟨e, w⟩ := by
  have same : e'.stopping = e.stopping := by
    obtain ⟨queue, journal, rfl⟩ := Engine.eq_of_dequeue? taken
    rfl
  simp only [runHandler]
  split
  · next gone => exact .move (.refuse taken (.inl gone))
  · next h found =>
    split
    · next stopping =>
      have taker := heeded (same ▸ stopping)
      exact .move (.refuse taken (.inr ⟨taker, stopping⟩))
    · next going =>
      have running : e'.stopping = false := by simpa using going
      have opened : Frame limit Set.univ ⟨e, w⟩ _ _ := .handler room taken found running
      have body := execAll_follows hsv h.body (Machine.enterHandler ⟨e', w⟩ h fired.payload)
      cases hb : execAll sv h.body (Machine.enterHandler ⟨e', w⟩ h fired.payload) with
      | cut why m' => rw [hb] at body; exact Passes.opened opened body
      | done signal m' => rw [hb] at body; exact Evolves.frame opened body
      | fault f m' =>
          rw [hb] at body
          have left : Evolves limit names ⟨e, w⟩ _ := Evolves.frame opened body
          cases f with
          | cancelled => exact left
          | failure k d => exact left.trans (evolves_report _ _)

/-! ### Waiting -/

theorem nextFired?_eq_some {e : Engine} {w : World} {fired : Fired} {m : Machine}
    (h : Machine.nextFired? ⟨e, w⟩ = some (fired, m)) :
    e.handlerDepth < maxHandlerNesting ∧ ∃ e', e.dequeue? .suspension = some (fired, e') ∧
      m = ⟨e', w⟩ := by
  simp only [Machine.nextFired?] at h
  split at h
  · next room =>
    obtain ⟨⟨fired', e'⟩, taken, heq⟩ := Option.map_eq_some_iff.mp h
    cases heq
    exact ⟨room, e', taken, rfl⟩
  · cases h

/-- A suspension takes no event only if none is queued, unless too many handlers nest. -/
theorem Machine.queue_of_nextFired?_eq_none {m : Machine}
    (room : m.engine.handlerDepth < maxHandlerNesting)
    (h : m.nextFired? = none) : m.engine.queue.toList = [] := by
  obtain ⟨e, w⟩ := m
  simp only [Machine.nextFired?, if_pos room, Option.map_eq_none_iff] at h
  unfold Engine.dequeue? at h
  split at h
  · next empty => exact (Queue.pop?_eq_none_iff _).mp empty
  · cases h

/-- Waiting follows evolution; the handlers that run meanwhile nest within the bound. -/
theorem awaitWithin_follows {sv : Services} (hsv : sv.Follow limit)
    (bound : maxHandlerNesting ≤ limit) (a : Awaited) (rounds : Nat) :
    (awaitWithin sv a rounds).Follows limit names := by
  induction rounds with
  | zero => exact fun m => Passes.here (.refl m : Evolves limit ∅ m m)
  | succ rounds ih =>
      intro m
      obtain ⟨e, w⟩ := m
      simp only [awaitWithin]
      split
      · next fired m₁ hnext =>
        obtain ⟨room, e', taken, rfl⟩ := nextFired?_eq_some hnext
        have ran : (runHandler sv fired ⟨e', w⟩).Follows limit names ⟨e, w⟩ :=
          runHandler_follows hsv (Nat.lt_of_lt_of_le room bound) (fun _ => rfl) taken
        cases hr : runHandler sv fired ⟨e', w⟩ with
        | done b m₂ => rw [hr] at ran; exact (ih m₂).after ran
        | fault f m₂ => rw [hr] at ran; exact ran
        | cut why m₂ => rw [hr] at ran; exact ran
      · have shown : Evolves limit names ⟨e, w⟩ ⟨e, w.showQuestion⟩ :=
          .move (.host w.alike_showQuestion)
        refine Outcome.Follows.after shown ?_
        split
        · exact .refl _
        · next waiting =>
          split
          · next m₂ passed => exact (ih m₂).after (asides_passTime? waiting passed).evolves
          · exact Passes.here (.refl _ : Evolves limit ∅ _ _)

/-- Calls and waiting follow evolution for every allowance. -/
theorem servicesWithin_follow (bound : maxHandlerNesting ≤ limit) (allowance : Nat) :
    (servicesWithin allowance).Follow limit := by
  induction allowance with
  | zero =>
      constructor
      · intro m name f args found
        exact Passes.here (.refl m : Evolves limit ∅ m m)
      · intro a m
        exact Passes.here (.refl m : Evolves limit ∅ m m)
  | succ allowance ih =>
      constructor
      · intro m name f args found
        exact callUser_follows ih args found
      · intro a
        exact awaitWithin_follows ih bound a allowance

/-- Dispatching follows evolution, from wherever one more handler may begin. -/
theorem dispatchWithin_follows {sv : Services} (hsv : sv.Follow limit) (steps left ran : Nat)
    {m : Machine} (room : m.engine.handlerDepth < limit) :
    (Run.dispatchWithin sv steps left ran m).Follows limit names m := by
  induction steps generalizing left ran m with
  | zero => exact Passes.here (.refl m : Evolves limit ∅ m m)
  | succ steps ih =>
      cases left with
      | zero => exact .refl m
      | succ left =>
          obtain ⟨e, w⟩ := m
          simp only [Run.dispatchWithin]
          split
          · exact .refl _
          · next going =>
            split
            · exact .refl _
            · next fired e' taken =>
              have h : (runHandler sv fired ⟨e', w⟩).Follows limit names ⟨e, w⟩ :=
                runHandler_follows hsv room (fun stopping => absurd stopping going) taken
              cases hr : runHandler sv fired ⟨e', w⟩ with
              | fault f m₁ => rw [hr] at h; exact h
              | cut why m₁ => rw [hr] at h; exact h
              | done b m₁ =>
                  rw [hr] at h
                  have room₁ : m₁.engine.handlerDepth < limit := by
                    rw [(Evolves.restored h).handlerDepth]
                    exact room
                  cases b with
                  | true => exact (ih left (ran + 1) room₁).after h
                  | false => exact (ih (left + 1) ran room₁).after h

end HostScript
