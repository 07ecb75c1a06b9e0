import HostScript.Proofs.Lexing.Respacing
import HostScript.Source.Tree

/-!
# Texts at another place

A text that stands further down in a source has the same tokens there, at other positions: lines and
bytes are counted from further on, columns are the same. `relocate` moves the positions of tokens
and of programs.

Main statement: `Scans.moved`, what the scanner reads off a text it reads off the text at another
place, moved.
-/

namespace HostScript

/-! ### Positions and tokens -/

/-- The position that many lines further down and that many bytes further on. -/
def Location.moved (lines bytes : Nat) (l : Location) : Location :=
  ⟨l.line + lines, l.column, l.offset + bytes⟩

/-- The position of a place of a text when the text stands behind another one, on lines of its
own. -/
def Location.behind (text : String) : Location → Location :=
  moved ((text ++ "\n").toList.count '\n') (text ++ "\n").utf8ByteSize

/-- The token at another position. -/
def Token.relocate (f : Location → Location) (t : Token) : Token := { t with loc := f t.loc }

section Moving

variable {lines bytes : Nat}

theorem Location.moved_after (l : Location) (c : Char) :
    (l.moved lines bytes).after c = (l.after c).moved lines bytes := by
  unfold Location.after
  split
  · simp only [Location.moved, Nat.add_right_comm]
  · simp only [Location.moved, Nat.add_right_comm]

theorem Location.moved_afterAll (l : Location) (cs : List Char) :
    (l.moved lines bytes).afterAll cs = (l.afterAll cs).moved lines bytes := by
  induction cs generalizing l with
  | nil => rfl
  | cons c rest ih => rw [Location.afterAll_cons, Location.afterAll_cons, moved_after, ih]

/-- Behind a newline the positions of a text are those of its beginning, moved. -/
theorem Location.afterAll_newline (text : String) :
    Location.start.afterAll (text ++ "\n").toList = Location.start.behind text := by
  obtain ⟨line, column, offset⟩ := Location.marks_start.afterAll (text ++ "\n").toList
  rw [List.nil_append] at line column offset
  have first : ((text ++ "\n").toList.reverse.takeWhile (· != '\n')).length = 0 := by
    simp [String.toList_append]
  rw [first] at column
  rw [String.ofList_toList] at offset
  generalize Location.start.afterAll (text ++ "\n").toList = l at line column offset ⊢
  obtain ⟨lineOf, columnOf, offsetOf⟩ := l
  simp only at line column offset
  simp [Location.behind, Location.moved, Location.start, line, column, offset]

theorem Source.Scans.moved {loc : Location} {cs : List Char} {tokens : List Token}
    (scans : Source.Scans loc cs tokens) (lines bytes : Nat) :
    Source.Scans (loc.moved lines bytes) cs
      (tokens.map (Token.relocate (Location.moved lines bytes))) := by
  induction scans with
  | last trivia =>
      rw [List.map_singleton, Token.relocate, ← Location.moved_afterAll]
      exact .last trivia
  | next trivia begins read others ih =>
      rw [List.map_cons, Token.relocate, ← Location.moved_afterAll]
      rw [← Location.moved_afterAll] at ih
      exact .next trivia begins read ih

end Moving

/-! ### Programs -/

mutual

/-- The expression at other positions. -/
def Expr.relocate (f : Location → Location) : Expr → Expr
  | .lit loc value => .lit (f loc) value
  | .var loc name => .var (f loc) name
  | .template loc parts => .template (f loc) parts
  | .binary loc op left right => .binary (f loc) op (left.relocate f) (right.relocate f)
  | .unary loc op operand => .unary (f loc) op (operand.relocate f)
  | .member loc base key => .member (f loc) (base.relocate f) key
  | .index loc base position => .index (f loc) (base.relocate f) (position.relocate f)
  | .group loc inner => .group (f loc) (inner.relocate f)
  | .call loc name args => .call (f loc) name (Expr.relocateAll f args)
  | .array loc items => .array (f loc) (Expr.relocateAll f items)
  | .object loc entries => .object (f loc) (Expr.relocateEntries f entries)

/-- The expressions at other positions. -/
def Expr.relocateAll (f : Location → Location) : List Expr → List Expr
  | [] => []
  | e :: rest => e.relocate f :: Expr.relocateAll f rest

/-- The entries with their values at other positions. -/
def Expr.relocateEntries (f : Location → Location) : List (String × Expr) → List (String × Expr)
  | [] => []
  | (key, e) :: rest => (key, e.relocate f) :: Expr.relocateEntries f rest

end

/-- The target at other positions. -/
def Target.relocate (f : Location → Location) : Target → Target
  | .var name => .var name
  | .member base key => .member (base.relocate f) key
  | .index base position => .index (base.relocate f) (position.relocate f)

/-- The request at other positions. -/
def HostRequest.relocate (f : Location → Location) : HostRequest → HostRequest
  | .emit event payload => .emit (event.relocate f) (payload.map (Expr.relocate f))
  | .launch app options => .launch (app.relocate f) (options.map (Expr.relocate f))
  | .close target => .close (target.map (Expr.relocate f))
  | .wait duration => .wait (duration.relocate f)
  | .window action target => .window action (target.relocate f)
  | .write content path => .write (content.relocate f) (path.relocate f)
  | .read path var => .read (path.relocate f) var
  | .mkdir path => .mkdir (path.relocate f)
  | .delete path recursive => .delete (path.relocate f) recursive
  | .alert message => .alert (message.relocate f)
  | .confirm message var => .confirm (message.relocate f) var
  | .prompt message default var =>
    .prompt (message.relocate f) (default.map (Expr.relocate f)) var
  | .notify message title => .notify (message.relocate f) (title.map (Expr.relocate f))
  | .play source => .play (source.relocate f)
  | .stop => .stop
  | .video source => .video (source.relocate f)
  | .command name args => .command (name.relocate f) (args.map (Expr.relocate f))

mutual

/-- The statement at other positions. -/
def Stmt.relocate (f : Location → Location) : Stmt → Stmt
  | .block loc body => .block (f loc) (Stmt.relocateAll f body)
  | .set loc target op value => .set (f loc) (target.relocate f) op (value.relocate f)
  | .declare loc name value => .declare (f loc) name (value.relocate f)
  | .print loc value => .print (f loc) (value.relocate f)
  | .cond loc test thenBody none =>
    .cond (f loc) (test.relocate f) (Stmt.relocateAll f thenBody) none
  | .cond loc test thenBody (some elseBody) =>
    .cond (f loc) (test.relocate f) (Stmt.relocateAll f thenBody)
      (some (Stmt.relocateAll f elseBody))
  | .loop loc count body => .loop (f loc) (count.relocate f) (Stmt.relocateAll f body)
  | .while loc test body => .while (f loc) (test.relocate f) (Stmt.relocateAll f body)
  | .foreach loc var items body =>
    .foreach (f loc) var (items.relocate f) (Stmt.relocateAll f body)
  | .break loc => .break (f loc)
  | .continue loc => .continue (f loc)
  | .return loc value => .return (f loc) (value.map (Expr.relocate f))
  | .define loc name params body => .define (f loc) name params (Stmt.relocateAll f body)
  | .expr loc value => .expr (f loc) (value.relocate f)
  | .attempt loc body var handler =>
    .attempt (f loc) (Stmt.relocateAll f body) var (Stmt.relocateAll f handler)
  | .on loc event body => .on (f loc) (event.relocate f) (Stmt.relocateAll f body)
  | .host loc request => .host (f loc) (request.relocate f)

/-- The statements at other positions. -/
def Stmt.relocateAll (f : Location → Location) : List Stmt → List Stmt
  | [] => []
  | s :: rest => s.relocate f :: Stmt.relocateAll f rest

end

section Programs

variable {f : Location → Location}

theorem Expr.loc_relocate (e : Expr) : (e.relocate f).loc = f e.loc := by
  cases e <;> simp only [Expr.relocate, Expr.loc]

theorem Expr.relocateAll_eq_map (es : List Expr) :
    Expr.relocateAll f es = es.map (Expr.relocate f) := by
  induction es with
  | nil => rfl
  | cons e rest ih => simp [Expr.relocateAll, ih]

theorem Expr.relocateEntries_eq_map (entries : List (String × Expr)) :
    Expr.relocateEntries f entries = entries.map fun entry => (entry.1, entry.2.relocate f) := by
  induction entries with
  | nil => rfl
  | cons entry rest ih => simp [Expr.relocateEntries, ih]

theorem Stmt.relocateAll_eq_map (body : List Stmt) :
    Stmt.relocateAll f body = body.map (Stmt.relocate f) := by
  induction body with
  | nil => rfl
  | cons s rest ih => simp [Stmt.relocateAll, ih]

theorem Target.relocate_toExpr (target : Target) (loc : Location) :
    (target.toExpr loc).relocate f = (target.relocate f).toExpr (f loc) := by
  cases target <;> simp only [Target.toExpr, Target.relocate, Expr.relocate]

end Programs

/-! ### Nothing is moved -/

theorem Token.relocate_id : Token.relocate id = id := rfl

mutual

theorem Expr.relocate_id (e : Expr) : e.relocate id = e := by
  match e with
  | .lit _ _ | .var _ _ | .template _ _ => rfl
  | .binary loc op left right => rw [Expr.relocate, left.relocate_id, right.relocate_id, id]
  | .unary loc op operand => rw [Expr.relocate, operand.relocate_id, id]
  | .member loc base key => rw [Expr.relocate, base.relocate_id, id]
  | .index loc base position => rw [Expr.relocate, base.relocate_id, position.relocate_id, id]
  | .group loc inner => rw [Expr.relocate, inner.relocate_id, id]
  | .call loc name args => rw [Expr.relocate, Expr.relocateAll_id args, id]
  | .array loc items => rw [Expr.relocate, Expr.relocateAll_id items, id]
  | .object loc entries => rw [Expr.relocate, Expr.relocateEntries_id entries, id]

theorem Expr.relocateAll_id (es : List Expr) : Expr.relocateAll id es = es := by
  match es with
  | [] => rfl
  | e :: rest => rw [Expr.relocateAll, e.relocate_id, Expr.relocateAll_id rest]

theorem Expr.relocateEntries_id (entries : List (String × Expr)) :
    Expr.relocateEntries id entries = entries := by
  match entries with
  | [] => rfl
  | (key, e) :: rest => rw [Expr.relocateEntries, e.relocate_id, Expr.relocateEntries_id rest]

end

theorem Expr.relocate_id_eq : Expr.relocate id = id := funext Expr.relocate_id

theorem Target.relocate_id (target : Target) : target.relocate id = target := by
  cases target <;> simp only [Target.relocate, Expr.relocate_id]

theorem HostRequest.relocate_id (request : HostRequest) : request.relocate id = request := by
  cases request <;>
    simp only [HostRequest.relocate, Expr.relocate_id_eq, id, Option.map_id, List.map_id]

mutual

theorem Stmt.relocate_id (s : Stmt) : s.relocate id = s := by
  match s with
  | .break _ | .continue _ => rfl
  | .declare loc name e => rw [Stmt.relocate, e.relocate_id, id]
  | .print loc e | .expr loc e => rw [Stmt.relocate, e.relocate_id, id]
  | .return loc value => rw [Stmt.relocate, Expr.relocate_id_eq, Option.map_id, id, id]
  | .set loc target op value => rw [Stmt.relocate, target.relocate_id, value.relocate_id, id]
  | .host loc request => rw [Stmt.relocate, request.relocate_id, id]
  | .block loc body | .define loc _ _ body => rw [Stmt.relocate, Stmt.relocateAll_id body, id]
  | .loop loc e body | .while loc e body | .foreach loc _ e body | .on loc e body
  | .cond loc e body none => rw [Stmt.relocate, e.relocate_id, Stmt.relocateAll_id body, id]
  | .cond loc e body (some other) =>
      rw [Stmt.relocate, e.relocate_id, Stmt.relocateAll_id body, Stmt.relocateAll_id other, id]
  | .attempt loc body var handler =>
      rw [Stmt.relocate, Stmt.relocateAll_id body, Stmt.relocateAll_id handler, id]

theorem Stmt.relocateAll_id (body : List Stmt) : Stmt.relocateAll id body = body := by
  match body with
  | [] => rfl
  | s :: rest => rw [Stmt.relocateAll, s.relocate_id, Stmt.relocateAll_id rest]

end

end HostScript
