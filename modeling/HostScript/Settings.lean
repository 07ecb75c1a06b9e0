import HostScript.Engine.Limits
import HostScript.Number.Reading
import HostScript.Text.Alphabetic
import HostScript.Text.Quoted
import HostScript.Text.Search

/-! # Settings

A settings file sets one limit per line, as `name = value`. Blank lines and
lines that start with `#` or `;` say nothing. A line that is wrong is reported
and changes nothing; a later line wins over an earlier one. -/

namespace HostScript

/-- A line of a settings file that is wrong. -/
structure SettingError where
  line : Nat
  message : String
  deriving DecidableEq, Repr

/-- One line that reports the error. -/
def SettingError.describe (e : SettingError) : String := s!"line {e.line}: {e.message}"

/-- The limits that can be set. -/
inductive Setting where
  | maxLoopIterations | maxRecursionDepth | maxEventHandlers | timeout | dialogTimeout
  deriving DecidableEq, Repr

namespace Setting

/-- The name of a setting. -/
def name : Setting → String
  | .maxLoopIterations => "max_loop_iterations"
  | .maxRecursionDepth => "max_recursion_depth"
  | .maxEventHandlers => "max_event_handlers"
  | .timeout => "timeout_ms"
  | .dialogTimeout => "dialog_timeout_ms"

/-- Every setting. -/
def all : List Setting :=
  [.maxLoopIterations, .maxRecursionDepth, .maxEventHandlers, .timeout, .dialogTimeout]

/-- The setting with a name. -/
def ofName? (s : String) : Option Setting := all.find? fun k => k.name == s

/-- The value of a setting. -/
def get (k : Setting) (l : Limits) : Nat :=
  match k with
  | .maxLoopIterations => l.maxLoopIterations
  | .maxRecursionDepth => l.maxRecursionDepth
  | .maxEventHandlers => l.maxEventHandlers
  | .timeout => l.timeout
  | .dialogTimeout => l.dialogTimeout

/-- Change a setting. -/
def set (k : Setting) (n : Nat) (l : Limits) : Limits :=
  match k with
  | .maxLoopIterations => { l with maxLoopIterations := n }
  | .maxRecursionDepth => { l with maxRecursionDepth := n }
  | .maxEventHandlers => { l with maxEventHandlers := n }
  | .timeout => { l with timeout := n }
  | .dialogTimeout => { l with dialogTimeout := n }

@[simp] theorem get_set_self (k : Setting) (n : Nat) (l : Limits) : k.get (k.set n l) = n := by
  cases k <;> rfl

theorem get_set_of_ne {k k' : Setting} (n : Nat) (l : Limits) (h : k' ≠ k) :
    k'.get (k.set n l) = k'.get l := by
  cases k <;> cases k' <;> first | rfl | exact absurd rfl h

end Setting

namespace Settings

/-- Apply one setting, given by name and value. -/
def apply (l : Limits) (key value : String) : Except String Limits :=
  match Setting.ofName? key with
  | none => .error s!"unknown setting '{key}'"
  | some k =>
    match Number.wordOf? value with
    | some n => .ok (k.set n l)
    | none => .error s!"{key}: expected a whole number, found {Text.quoted value}"

/-- What one line, without the blanks at its ends, does to the limits. -/
def applyLine (l : Limits) (line : List Char) : Except String Limits :=
  if line.isEmpty || line.head? == some '#' || line.head? == some ';' then .ok l
  else match line.dropWhile (· != '=') with
    | [] => .error s!"expected `name = value`, found {Text.quoted (String.ofList line)}"
    | _ :: value =>
      apply l (Text.trim (String.ofList (line.takeWhile (· != '='))))
        (Text.trim (String.ofList value))

/-- Apply lines one after the other; `n` is the number of the next line. -/
def applyLines (l : Limits) (n : Nat) : List (List Char) → Limits × List SettingError
  | [] => (l, [])
  | line :: rest =>
    match applyLine l (Text.trimBlanks line) with
    | .ok l => applyLines l (n + 1) rest
    | .error message =>
      let (l, errors) := applyLines l (n + 1) rest
      (l, ⟨n, message⟩ :: errors)

/-- The limits of a settings text and the lines of it that are wrong. -/
def read (s : String) : Limits × List SettingError :=
  applyLines {} 1 (Text.lines s.toList)

end Settings

end HostScript
