import HostScript.Fault
import HostScript.Number.Binary

/-! # Limits and the run clock

Limits bound what a script may use. The run clock measures the time that a
frame is charged for: the time since it started, less the time it was
suspended. Times are whole milliseconds on the clock of the host. -/

namespace HostScript

/-- What a script may use. -/
structure Limits where
  maxLoopIterations : Nat := 10000
  maxRecursionDepth : Nat := 100
  maxEventHandlers : Nat := 50
  /-- The time budget of a frame in milliseconds. -/
  timeout : Nat := 30000
  /-- How long a dialog waits for its answer, in milliseconds. -/
  dialogTimeout : Nat := 30000
  deriving DecidableEq, Repr

/-- A clock that is stopped, or that was started at some time. -/
structure RunClock where
  startedAt : Option Nat := none
  deriving DecidableEq, Repr

namespace RunClock

/-- A clock started now. -/
def started (now : Nat) : RunClock := ⟨some now⟩

/-- A clock that is stopped. -/
def stopped : RunClock := ⟨none⟩

/-- The clock was started. -/
def isRunning (c : RunClock) : Bool := c.startedAt.isSome

/-- The time charged so far; nothing when the clock is stopped. -/
def elapsed (c : RunClock) (now : Nat) : Nat :=
  match c.startedAt with
  | some start => now - start
  | none => 0

/-- Do not charge a duration: the start moves forward by it. -/
def exclude (c : RunClock) (duration : Nat) : RunClock :=
  ⟨c.startedAt.map (· + duration)⟩

end RunClock

namespace Limits

/-- The fault of a frame that has used up its budget. -/
def timeoutFault? (l : Limits) (c : RunClock) (now : Nat) : Option Fault :=
  let elapsed := c.elapsed now
  if elapsed > l.timeout then some (.timeout l.timeout elapsed) else none

/-- The number of rounds of a loop with a given count: not less than zero, whole, and not
more than the limit. -/
def clampIterations (l : Limits) (x : Float) : Nat :=
  if x.isNaN || x ≤ 0.0 then 0
  else
    let whole := Number.floor x
    if Number.ofNat l.maxLoopIterations ≤ whole then l.maxLoopIterations
    else Number.clampNat Number.maxWord whole

/-- A call may be made when `depth` calls are active. -/
def allowsCall (l : Limits) (depth : Nat) : Bool := depth < l.maxRecursionDepth

/-- A handler may be added when there are `count` handlers. -/
def allowsHandler (l : Limits) (count : Nat) : Bool := count < l.maxEventHandlers

end Limits

end HostScript
