import HostScript.Engine.Host
import HostScript.Value.Rendering

/-! # Common host functions

Functions that hosts offer to scripts for probing and for time: they echo, fail,
count, read and spend time, stop the engine, post events, and answer late. -/

namespace HostScript.HostFunction

/-- A number of milliseconds in an argument: whole and not negative. -/
def millis (v : Value) : Nat := Number.clampNat Number.maxWord v.toNumber

/-- The argument at a position, if it is there. -/
def argument (c : HostCall) (i : Nat) : Value := c.args.getD i .undefined

/-- The text of an argument; empty when it is missing. -/
def argumentText (c : HostCall) (i : Nat) : String := ((c.args[i]?).map c.heap.display).getD ""

/-- Give back the arguments as an array. -/
def echo (c : HostCall) : HostReply := { result := .ok (.newArray c.args) }

/-- Fail with the text of the first argument. -/
def fail (c : HostCall) : HostReply := { result := .error (argumentText c 0) }

/-- Request a stop. -/
def halt (_ : HostCall) : HostReply := { acts := [.stop], result := .ok (.value .undefined) }

/-- Let time pass. -/
def spin (c : HostCall) : HostReply :=
  { acts := [.spend (millis (argument c 0))], result := .ok (.value .null) }

/-- The time since the session began. -/
def clock (c : HostCall) : HostReply := { result := .ok (.value (.number (Number.ofNat c.now))) }

/-- Emit an event on the bus. -/
def post (c : HostCall) : HostReply :=
  { acts := [.emit (argumentText c 0) (argument c 1)], result := .ok (.value .undefined) }

/-- The number of this call. -/
def counter (c : HostCall) : HostReply :=
  { result := .ok (.value (.number (Number.ofNat (c.earlier + 1)))) }

/-- Give back the second argument after a number of milliseconds. -/
def delay (c : HostCall) : HostReply :=
  { delay := some (millis (argument c 0)), result := .ok (.value (argument c 1)) }

/-- Fail with the text of the second argument after a number of milliseconds. -/
def delayFail (c : HostCall) : HostReply :=
  { delay := some (millis (argument c 0)), result := .error (argumentText c 1) }

/-- The common host functions by the names of their kinds. -/
def kinds : List (String × (HostCall → HostReply)) :=
  [("echo", echo), ("fail", fail), ("halt", halt), ("spin", spin), ("clock", clock),
    ("post", post), ("counter", counter), ("delay", delay), ("delay_fail", delayFail)]

/-- A common host function under a name. -/
def ofKind? (name kind : String) : Option HostFunction :=
  (kinds.lookup kind).map fun answer => { name, answer }

end HostScript.HostFunction
