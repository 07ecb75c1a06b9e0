import HostScript.Proofs.Laws
import HostScript.Proofs.Starvation

/-!
# The rounds of a loop

How often a loop runs its body is settled when the loop begins: a counted loop has a number of
rounds, a loop over a collection has the elements that are there, and a loop with a test has the
limit of the engine. Nothing that the body does changes it. The loop ends before that only when a
round cannot begin or the body leaves the loop, and then the body does not run again.

## Implementation notes

The rounds that a loop has gone through are a trail `Laps` from machine to machine, in which the
body runs once per lap. The trail knows nothing of the recursion that the loops are: it is the same
for all loops, which differ in how a round begins and what it binds.
-/

namespace HostScript

variable {α : Type}

/-! ### Laps -/

/-- After this signal of its body, a loop goes on to its next round. -/
def Signal.goesOn : Signal → Bool
  | .next => true
  | .continue => true
  | .break => false
  | .return _ => false

/-- The outcome with its fault at a position, unless the fault has one. -/
def Outcome.placed (loc : Location) : Outcome α → Outcome α
  | .fault f m => .fault (f.located loc) m
  | o => o

/-- The machine at the beginning of a round of a loop. -/
def Machine.atRound (m : Machine) : Machine :=
  (m.record (.checked m.world.now (m.engine.clock.elapsed m.world.now) true)).record .round

/-- The body of a loop runs from `m`, in a new scope with bindings that its statements read, and the
scope is the old one again when it has ended. -/
inductive BodyRun (sv : Services) (body : List Stmt) (vars : Bindings) (m : Machine) :
    Outcome Signal → Prop
  | intro {inside : Machine} (entered : inside = m.enterChild m.engine.scope vars)
      (reads : ∀ name v, vars.get? name = some v →
        inside.engine.scopes.lookup inside.engine.scope name = some v) :
      BodyRun sv body vars m
        ((execAll sv body).ensuring (fun m' => m'.withScope m.engine.scope) inside)

/-- The rounds of a loop: how one begins, at which machine its body runs, and what it binds. -/
structure RoundKind (α : Type) where
  begins : α → Machine → Machine → Prop
  binding : α → Bindings

/-- The rounds of a loop that are known beforehand. -/
def RoundKind.known (name : String) : RoundKind Value where
  begins _ m m₁ := m.timeoutFault? = none ∧ m₁ = m.atRound
  binding x := [(name, x)]

/-- The rounds of a loop with a test, which belongs to the round that it begins. -/
def RoundKind.tested (sv : Services) (test : Expr) : RoundKind Unit where
  begins _ m m₁ :=
    m.timeoutFault? = none ∧ ∃ v, eval sv test m.atRound = .done v m₁ ∧ v.isTruthy = true
  binding _ := []

/-- Rounds in order, in each of which the body has run and the loop has gone on. -/
inductive Laps (sv : Services) (body : List Stmt) (kind : RoundKind α) :
    List α → Machine → Machine → Prop
  | nil {m : Machine} : Laps sv body kind [] m m
  | cons {a : α} {rest : List α} {m m₁ m₂ m' : Machine} {signal : Signal}
      (begins : kind.begins a m m₁) (ran : BodyRun sv body (kind.binding a) m₁ (.done signal m₂))
      (goesOn : signal.goesOn = true) (further : Laps sv body kind rest m₂ m') :
      Laps sv body kind (a :: rest) m m'

/-- The body has run in a round, and the loop ends with it. -/
inductive Leaves (sv : Services) (body : List Stmt) (kind : RoundKind α) (a : α) (m : Machine) :
    Outcome Signal → Prop
  | «break» {m₁ m₂ : Machine} (begins : kind.begins a m m₁)
      (ran : BodyRun sv body (kind.binding a) m₁ (.done .break m₂)) :
      Leaves sv body kind a m (.done .next m₂)
  | «return» {m₁ m₂ : Machine} {v : Value} (begins : kind.begins a m m₁)
      (ran : BodyRun sv body (kind.binding a) m₁ (.done (.return v) m₂)) :
      Leaves sv body kind a m (.done (.return v) m₂)
  | fault {m₁ m₂ : Machine} {f : Fault} (begins : kind.begins a m m₁)
      (ran : BodyRun sv body (kind.binding a) m₁ (.fault f m₂)) :
      Leaves sv body kind a m (.fault f m₂)
  | cut {why : Cut} {m₁ m₂ : Machine} (begins : kind.begins a m m₁)
      (ran : BodyRun sv body (kind.binding a) m₁ (.cut why m₂)) :
      Leaves sv body kind a m (.cut why m₂)

/-! ### Loops -/

/-- How a loop ends when these values are left of those that it was to visit. -/
inductive VisitEnds (sv : Services) (body : List Stmt) (name : String) :
    List Value → Machine → Outcome Signal → Prop
  | finished {m : Machine} : VisitEnds sv body name [] m (.done .next m)
  | overdue {x : Value} {left : List Value} {m : Machine} {f : Fault}
      (late : m.timeoutFault? = some f) : VisitEnds sv body name (x :: left) m (.fault f m.overdue)
  | left {x : Value} {left : List Value} {m : Machine} {o : Outcome Signal}
      (leaves : Leaves sv body (.known name) x m o) : VisitEnds sv body name (x :: left) m o

/-- A loop visits values in order, and ends before it has visited all only if a round cannot begin
or the body leaves the loop. -/
def Visits (sv : Services) (body : List Stmt) (name : String) (values : List Value) (m : Machine)
    (o : Outcome Signal) : Prop :=
  ∃ visited left m', values = visited ++ left ∧ Laps sv body (.known name) visited m m' ∧
    VisitEnds sv body name left m' o

/-- How a loop with a test ends when its body has run `ran` times and may run `limit` times. -/
inductive TestEnds (sv : Services) (body : List Stmt) (test : Expr) (limit ran : Nat)
    (m : Machine) : Outcome Signal → Prop
  | overdue {f : Fault} (late : m.timeoutFault? = some f) :
      TestEnds sv body test limit ran m (.fault f m.overdue)
  | testFault {f : Fault} {m₁ : Machine} (inTime : m.timeoutFault? = none)
      (failed : eval sv test m.atRound = .fault f m₁) :
      TestEnds sv body test limit ran m (.fault f m₁)
  | testCut {why : Cut} {m₁ : Machine} (inTime : m.timeoutFault? = none)
      (stuck : eval sv test m.atRound = .cut why m₁) :
      TestEnds sv body test limit ran m (.cut why m₁)
  | finished {v : Value} {m₁ : Machine} (inTime : m.timeoutFault? = none)
      (tested : eval sv test m.atRound = .done v m₁) (falsy : v.isTruthy = false) :
      TestEnds sv body test limit ran m (.done .next m₁)
  | tooMany {m₁ : Machine} (begins : (RoundKind.tested sv test).begins () m m₁)
      (all : ran = limit) : TestEnds sv body test limit ran m (.fault (Run.tooManyRounds limit) m₁)
  | left {o : Outcome Signal} (leaves : Leaves sv body (.tested sv test) () m o)
      (fewer : ran < limit) : TestEnds sv body test limit ran m o

/-- A loop runs its body while a test holds, at most `limit` times. -/
def RunsWhile (sv : Services) (body : List Stmt) (test : Expr) (limit : Nat) (m : Machine)
    (o : Outcome Signal) : Prop :=
  ∃ ran m', ran ≤ limit ∧ Laps sv body (.tested sv test) (List.replicate ran ()) m m' ∧
    TestEnds sv body test limit ran m' o

/-- What becomes of a statement that evaluates a header and then goes through rounds: it may not
begin, its header may fail, or it ends as the rounds do. -/
inductive Entered (loc : Location) (header : Run α) (rounds : α → Machine → Outcome Signal → Prop)
    (m : Machine) : Outcome Signal → Prop
  | barred (stopping : m.engine.stopping = true) :
      Entered loc header rounds m (.fault .cancelled (m.record (.barred loc)))
  | overdue {f : Fault} (running : m.engine.stopping = false) (late : m.timeoutFault? = some f) :
      Entered loc header rounds m (.fault (f.located loc) m.overdue)
  | headerFault {f : Fault} {m₁ : Machine} (running : m.engine.stopping = false)
      (inTime : m.timeoutFault? = none) (failed : header (m.atStatement loc) = .fault f m₁) :
      Entered loc header rounds m (.fault (f.located loc) m₁)
  | headerCut {why : Cut} {m₁ : Machine} (running : m.engine.stopping = false)
      (inTime : m.timeoutFault? = none) (stuck : header (m.atStatement loc) = .cut why m₁) :
      Entered loc header rounds m (.cut why m₁)
  | begun {a : α} {m₁ : Machine} {o : Outcome Signal} (running : m.engine.stopping = false)
      (inTime : m.timeoutFault? = none) (evaluated : header (m.atStatement loc) = .done a m₁)
      (went : rounds a m₁ o) : Entered loc header rounds m (o.placed loc)

/-! ### How a round begins and ends -/

section Rounds

variable {sv : Services} {body : List Stmt} {m m₁ m' : Machine} {name : String}

theorem beginRound_eq_done (inTime : m.timeoutFault? = none) :
    Run.beginRound m = .done () m.atRound := by
  simp only [Run.beginRound, bind, Run.andThen, Run.checkTime, inTime, Run.change, Machine.atRound]

theorem beginRound_eq_fault {f : Fault} (late : m.timeoutFault? = some f) :
    Run.beginRound m = .fault f m.overdue := by
  simp only [Run.beginRound, bind, Run.andThen, Run.checkTime, late, Machine.overdue]

/-- What a new scope binds is read in it. -/
theorem lookup_enterChild {parent : ScopeId} {vars : Bindings} {v : Value}
    (bound : vars.get? name = some v) :
    (m.enterChild parent vars).engine.scopes.lookup (m.enterChild parent vars).engine.scope name =
      some v := by
  obtain ⟨e, w⟩ := m
  have here : (e.scopes.extendWith parent vars).2.getLocal? e.scopes.cells.size name = some v := by
    simpa [Scopes.extendWith, Scopes.getLocal?, Scopes.locals] using bound
  change (e.scopes.extendWith parent vars).2.lookup e.scopes.cells.size name = some v
  simp only [Scopes.lookup, Scopes.owner?, Scopes.ownerWithin, here, Option.isSome_some, if_true,
    Option.bind_some]

theorem bodyRun_inChild (sv : Services) (body : List Stmt) (vars : Bindings) (m : Machine) :
    BodyRun sv body vars m (Run.inChild vars (execAll sv body) m) :=
  .intro rfl fun _ _ bound => lookup_enterChild bound

/-- After the body has run, the loop goes on behind the lap or ends with the round. -/
theorem afterRound_cases {kind : RoundKind α} {a : α} (rest : Run Signal)
    (begins : kind.begins a m m₁) :
    (∃ signal m₂, BodyRun sv body (kind.binding a) m₁ (.done signal m₂) ∧ signal.goesOn = true ∧
        (Run.inChild (kind.binding a) (execAll sv body) >>= Run.afterRound rest) m₁ = rest m₂) ∨
      Leaves sv body kind a m
        ((Run.inChild (kind.binding a) (execAll sv body) >>= Run.afterRound rest) m₁) := by
  have run := bodyRun_inChild sv body (kind.binding a) m₁
  cases ran : Run.inChild (kind.binding a) (execAll sv body) m₁ with
  | fault f m₂ =>
      rw [ran] at run
      rw [Run.bind_fault ran]
      exact .inr (.fault begins run)
  | cut why m₂ =>
      rw [ran] at run
      rw [Run.bind_cut ran]
      exact .inr (.cut begins run)
  | done signal m₂ =>
      rw [ran] at run
      rw [Run.bind_done ran]
      cases signal with
      | next => exact .inl ⟨_, m₂, run, rfl, rfl⟩
      | «continue» => exact .inl ⟨_, m₂, run, rfl, rfl⟩
      | «break» => exact .inr (.break begins run)
      | «return» v => exact .inr (.return begins run)

/-! ### Loops over values -/

/-- By induction on the values that are left. -/
theorem visits_forRounds (sv : Services) (body : List Stmt) (name : String) (values : List Value)
    (m : Machine) :
    Visits sv body name values m
      (Run.forRounds (fun x => .inChild [(name, x)] (execAll sv body)) values m) := by
  induction values generalizing m with
  | nil => exact ⟨[], [], m, rfl, .nil, .finished⟩
  | cons x rest ih =>
      rw [Run.forRounds_cons]
      cases late : m.timeoutFault? with
      | some f =>
          rw [Run.bind_fault (beginRound_eq_fault late)]
          exact ⟨[], x :: rest, m, rfl, .nil, .overdue late⟩
      | none =>
          rw [Run.bind_done (beginRound_eq_done late)]
          have begins : (RoundKind.known name).begins x m m.atRound := ⟨late, rfl⟩
          obtain ⟨signal, m₂, ran, goesOn, same⟩ | leaves := afterRound_cases
            (Run.forRounds (fun x => .inChild [(name, x)] (execAll sv body)) rest) begins
          · obtain ⟨visited, left, m', split, laps, ends⟩ := ih m₂
            rw [← same] at ends
            exact ⟨x :: visited, left, m', congrArg (x :: ·) split,
              .cons begins ran goesOn laps, ends⟩
          · exact ⟨[], x :: rest, m, rfl, .nil, .left leaves⟩

theorem forRounds_map {β : Type} (f : α → β) (body : β → Run Signal) (items : List α) :
    Run.forRounds body (items.map f) = Run.forRounds (fun a => body (f a)) items := by
  induction items with
  | nil => rfl
  | cons a rest ih => rw [List.map_cons, Run.forRounds_cons, Run.forRounds_cons, ih]

/-- Counted rounds are rounds over the numbers. -/
theorem countRounds_eq_forRounds (body : Nat → Run Signal) (left i : Nat) :
    Run.countRounds body left i = Run.forRounds body (List.range' i left) := by
  induction left generalizing i with
  | zero => rfl
  | succ left ih => rw [Run.countRounds_succ, List.range'_succ, Run.forRounds_cons, ih]

/-- The values of the counter of a loop with `n` rounds. -/
def counterValues (n : Nat) : List Value :=
  (List.range n).map fun i => .number (Number.ofNat i)

theorem visits_countRounds (sv : Services) (body : List Stmt) (n : Nat) (m : Machine) :
    Visits sv body "i" (counterValues n) m
      (Run.countRounds (fun i => .inChild [("i", .number (Number.ofNat i))] (execAll sv body))
        n 0 m) := by
  rw [countRounds_eq_forRounds, ← List.range_eq_range']
  have visits := visits_forRounds sv body "i" (counterValues n) m
  rw [counterValues, forRounds_map] at visits
  exact visits

/-! ### Loops with a test -/

/-- A round of a loop with a test: the loop ends before the body runs, or the test holds. -/
theorem whileRounds_cases (sv : Services) (body : List Stmt) (test : Expr) (limit left : Nat)
    (m : Machine) :
    (∀ ran, TestEnds sv body test limit ran m
        (Run.whileRounds limit (eval sv test) (.inChild [] (execAll sv body)) left m)) ∨
      ∃ m₁, (RoundKind.tested sv test).begins () m m₁ ∧
        (left = 0 → Run.whileRounds limit (eval sv test) (.inChild [] (execAll sv body)) left m =
          .fault (Run.tooManyRounds limit) m₁) ∧
        ∀ fewer, left = fewer + 1 →
          Run.whileRounds limit (eval sv test) (.inChild [] (execAll sv body)) left m =
            (Run.inChild [] (execAll sv body) >>= Run.afterRound
              (Run.whileRounds limit (eval sv test) (.inChild [] (execAll sv body)) fewer)) m₁ := by
  rw [Run.whileRounds_eq]
  cases late : m.timeoutFault? with
  | some f =>
      left
      intro ran
      rw [Run.bind_fault (Run.bind_fault (beginRound_eq_fault late))]
      exact .overdue late
  | none =>
      have tested := Run.bind_done (f := fun _ => eval sv test) (beginRound_eq_done late)
      cases held : eval sv test m.atRound with
      | fault f m₁ =>
          left
          intro ran
          rw [Run.bind_fault (tested.trans held)]
          exact .testFault late held
      | cut why m₁ =>
          left
          intro ran
          rw [Run.bind_cut (tested.trans held)]
          exact .testCut late held
      | done v m₁ =>
          rw [Run.bind_done (tested.trans held)]
          cases truthy : v.isTruthy with
          | false =>
              left
              intro ran
              exact .finished late held truthy
          | true =>
              right
              refine ⟨m₁, ⟨late, v, held, truthy⟩, ?_, ?_⟩
              · rintro rfl
                rfl
              · rintro fewer rfl
                rfl

/-- By induction on the number of rounds that are left, when the body has run `ran` times. -/
theorem laps_whileRounds (sv : Services) (body : List Stmt) (test : Expr) (limit left ran : Nat)
    (all : ran + left = limit) (m : Machine) :
    ∃ laps m', ran + laps ≤ limit ∧
      Laps sv body (.tested sv test) (List.replicate laps ()) m m' ∧
      TestEnds sv body test limit (ran + laps) m'
        (Run.whileRounds limit (eval sv test) (.inChild [] (execAll sv body)) left m) := by
  have within : ran + 0 ≤ limit := by omega
  induction left generalizing ran m with
  | zero =>
      refine ⟨0, m, within, .nil, ?_⟩
      obtain ends | ⟨m₁, begins, last, -⟩ := whileRounds_cases sv body test limit 0 m
      · exact ends _
      · rw [last rfl]
        exact .tooMany begins all
  | succ left ih =>
      obtain ends | ⟨m₁, begins, -, further⟩ := whileRounds_cases sv body test limit (left + 1) m
      · exact ⟨0, m, within, .nil, ends _⟩
      · rw [further left rfl]
        obtain ⟨signal, m₂, run, goesOn, same⟩ | leaves := afterRound_cases
          (Run.whileRounds limit (eval sv test) (.inChild [] (execAll sv body)) left) begins
        · obtain ⟨laps, m', le, trail, ends⟩ := ih (ran + 1) (by omega) m₂ (by omega)
          have count : ran + 1 + laps = ran + (laps + 1) := by omega
          rw [count] at le ends
          rw [← same] at ends
          exact ⟨laps + 1, m', le, .cons begins run goesOn trail, ends⟩
        · exact ⟨0, m, within, .nil, .left leaves (by omega)⟩

theorem runsWhile_whileRounds (sv : Services) (body : List Stmt) (test : Expr) (limit : Nat)
    (m : Machine) :
    RunsWhile sv body test limit m
      (Run.whileRounds limit (eval sv test) (.inChild [] (execAll sv body)) limit m) := by
  obtain ⟨laps, m', le, trail, ends⟩ :=
    laps_whileRounds sv body test limit limit 0 (Nat.zero_add limit) m
  rw [Nat.zero_add] at le ends
  exact ⟨laps, m', le, trail, ends⟩

/-! ### Loops as statements -/

theorem entered_statement {header : Run α} {rounds : α → Run Signal} {loc : Location}
    {went : α → Machine → Outcome Signal → Prop} (goes : ∀ a m, went a m (rounds a m))
    (m : Machine) :
    Entered loc header went m (Run.statement loc (header >>= rounds) m) := by
  cases stopping : m.engine.stopping with
  | true =>
      rw [statement_eq_barred _ stopping]
      exact .barred stopping
  | false =>
      cases late : m.timeoutFault? with
      | some f =>
          rw [statement_eq_overdue _ stopping late]
          exact .overdue stopping late
      | none =>
          rw [statement_eq _ stopping late]
          simp only [Run.located]
          cases evaluated : header (m.atStatement loc) with
          | fault f m₁ =>
              rw [Run.bind_fault evaluated]
              exact .headerFault stopping late evaluated
          | cut why m₁ =>
              rw [Run.bind_cut evaluated]
              exact .headerCut stopping late evaluated
          | done a m₁ =>
              rw [Run.bind_done evaluated]
              have begun : Entered loc header went m ((rounds a m₁).placed loc) :=
                .begun stopping late evaluated (goes a m₁)
              exact begun

/-- What a loop over a value visits: the elements that it has at this machine. Some values have no
elements. -/
def VisitsElements (sv : Services) (body : List Stmt) (var : String) (v : Value) (m : Machine)
    (o : Outcome Signal) : Prop :=
  (∃ elements, m.world.heap.elements? v = some elements ∧
      Visits sv body var elements.toList m o) ∨
    m.world.heap.elements? v = none ∧
      o = .fault (.runtime s!"cannot iterate over {v.typeName}") m

theorem visitsElements_forRounds (sv : Services) (body : List Stmt) (var : String) (v : Value)
    (m : Machine) :
    VisitsElements sv body var v m ((Run.elementsOf v >>=
      Run.forRounds fun x => .inChild [(var, x)] (execAll sv body)) m) := by
  cases found : m.world.heap.elements? v with
  | none =>
      have failed : Run.elementsOf v m =
          .fault (.runtime s!"cannot iterate over {v.typeName}") m := by
        simp only [Run.elementsOf, Run.check, found]
      exact .inr ⟨found, Run.bind_fault failed⟩
  | some elements =>
      have read : Run.elementsOf v m = .done elements.toList m := by
        simp only [Run.elementsOf, Run.check, found]
      rw [Run.bind_done read]
      exact .inl ⟨elements, found, visits_forRounds sv body var elements.toList m⟩

/-- A loop runs its body once for each of the rounds that it has when its header has been evaluated,
in order, and fewer times only if a round cannot begin or the body leaves the loop. -/
theorem loop_rounds_counted (sv : Services) (loc : Location) (body : List Stmt) (m : Machine) :
    (∀ count, Entered loc (eval sv count)
        (fun v m₁ => Visits sv body "i"
          (counterValues (m₁.engine.limits.clampIterations v.toNumber)) m₁)
        m (exec sv (.loop loc count body) m)) ∧
      (∀ var items, Entered loc (eval sv items) (VisitsElements sv body var)
        m (exec sv (.foreach loc var items body) m)) ∧
      ∀ test, Entered loc (Run.view fun m => m.engine.limits.maxLoopIterations)
        (RunsWhile sv body test) m (exec sv (.while loc test body) m) := by
  refine ⟨fun count => ?_, fun var items => ?_, fun test => ?_⟩
  · apply entered_statement
    intro v m₁
    exact visits_countRounds sv body (m₁.engine.limits.clampIterations v.toNumber) m₁
  · apply entered_statement
    intro v m₁
    exact visitsElements_forRounds sv body var v m₁
  · apply entered_statement
    intro limit m₁
    exact runsWhile_whileRounds sv body test limit m₁

end Rounds

end HostScript
