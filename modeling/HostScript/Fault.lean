import HostScript.Source.Location

/-! # Faults

A fault ends the evaluation that raised it. It is either a failure, with a
category, a message, a position and perhaps a hint, or the cancellation that
follows a stop request. A failure raised where no position is at hand takes
the position of the innermost construct that it leaves; later constructs do
not change it. -/

namespace HostScript

/-- What sort of failure a fault reports. -/
inductive Category where
  /-- The source text is not a program. -/
  | malformed
  /-- An operation could not be carried out. -/
  | runtime
  /-- The time budget of a frame is used up. -/
  | timeout
  /-- A call would nest too deeply; the calls that are active, outermost first. -/
  | recursion (active : List String)
  /-- A name has no binding. -/
  | reference (name : String)
  deriving DecidableEq, Repr

/-- The text of a failure and the place where it was raised. -/
structure Detail where
  message : String
  loc : Location := .unknown
  hint : Option String := none
  deriving DecidableEq, Repr

/-- Why an evaluation ended without a result. -/
inductive Fault where
  | failure (category : Category) (detail : Detail)
  /-- A stop was requested. -/
  | cancelled
  deriving DecidableEq, Repr

namespace Fault

/-- The text at `loc` is not a program. -/
def malformed (message : String) (loc : Location) : Fault :=
  .failure .malformed { message, loc }

/-- An operation failed at a place not yet known. -/
def runtime (message : String) : Fault :=
  .failure .runtime { message }

/-- The budget of `limit` milliseconds is exceeded after `elapsed` of them. -/
def timeout (limit elapsed : Nat) : Fault :=
  .failure .timeout
    { message := s!"execution exceeded {limit} ms (ran for {elapsed} ms)"
      hint := some "break long-running work into smaller scripts or raise `timeout_ms`" }

/-- One more call would exceed `limit` active calls. -/
def recursion (limit : Nat) (active : List String) : Fault :=
  let innermost := active.getLast?.getD ""
  .failure (.recursion active)
    { message := s!"maximum recursion depth of {limit} exceeded calling '{innermost}'"
      hint := some "add a base case that stops the recursion" }

/-- The name `name` has no binding. -/
def reference (name : String) : Fault :=
  .failure (.reference name)
    { message := s!"variable '{name}' is not defined"
      hint := some s!"declare it first with `set ${name} = ...`" }

/-- Replace the hint of a failure. -/
def withHint (hint : String) : Fault → Fault
  | .failure k d => .failure k { d with hint := some hint }
  | .cancelled => .cancelled

/-- Give a failure the position `loc`, unless it has one. -/
def located (loc : Location) : Fault → Fault
  | .failure k d => if d.loc.isKnown then .failure k d else .failure k { d with loc }
  | .cancelled => .cancelled

/-- The bare message, which is also what a `catch` block binds. -/
def message : Fault → String
  | .failure _ d => d.message
  | .cancelled => "execution stopped"

/-- The position, when it is known. -/
def location? : Fault → Option Location
  | .failure _ d => if d.loc.isKnown then some d.loc else none
  | .cancelled => none

/-- The hint, if there is one. -/
def hint? : Fault → Option String
  | .failure _ d => d.hint
  | .cancelled => none

/-- The calls that were active when the recursion limit was met. -/
def activeCalls : Fault → List String
  | .failure (.recursion active) _ => active
  | _ => []

/-- The name of a category in messages. -/
def categoryName : Category → String
  | .malformed => "SyntaxError"
  | .runtime => "RuntimeError"
  | .timeout => "TimeoutError"
  | .recursion _ => "RecursionError"
  | .reference _ => "ReferenceError"

/-- One line that reports the fault. -/
def describe : Fault → String
  | .failure k d => categoryName k ++ ": " ++ d.message ++ d.loc.describe
  | .cancelled => "execution stopped"

/-- The code under which diagnostics list a fault. -/
def code? : Fault → Option String
  | .failure .malformed _ => some "deskscript::syntax"
  | .failure .runtime _ => some "deskscript::runtime"
  | .failure .timeout _ => some "deskscript::timeout"
  | .failure (.recursion _) _ => some "deskscript::recursion"
  | .failure (.reference _) _ => some "deskscript::reference"
  | .cancelled => none

/-- The text shown at the marked place of a diagnostic. -/
def labelText : Category → String
  | .malformed => "here"
  | .runtime => "raised here"
  | .timeout => "budget exhausted here"
  | .recursion _ => "call made here"
  | .reference _ => "not declared"

/-- The marked places of a diagnostic: text, byte offset and length in bytes. -/
def labels : Fault → List (String × Nat × Nat)
  | .failure k d => if d.loc.isKnown then [(labelText k, d.loc.offset, 1)] else []
  | .cancelled => []

@[simp] theorem located_cancelled (loc : Location) : located loc .cancelled = .cancelled := rfl

/-- Only the position of a fault changes. -/
@[simp] theorem message_located (loc : Location) (f : Fault) :
    (located loc f).message = f.message := by
  cases f with
  | cancelled => rfl
  | failure k d => simp only [located]; split <;> rfl

end Fault

end HostScript
