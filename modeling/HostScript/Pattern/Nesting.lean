import HostScript.Pattern.Tree

/-! # How deep a pattern is nested

Groups, repetitions, sequences, choices and classes lie inside one another. A
pattern that is nested deeper than `maxNesting` is refused, and the first part
that lies too deep is reported. -/

namespace HostScript.Pattern

/-- The number of parts that may lie inside one another. -/
def maxNesting : Nat := 250

mutual

/-- The first part of a member of a class that lies deeper than `room` allows. -/
def ClassItem.tooDeep? (room : Nat) : ClassItem → Option Span
  | .bracketed _ body span => if room = 0 then some span else ClassBody.tooDeep? (room - 1) body
  | _ => none

/-- The first part of the inside of a class that lies deeper than `room` allows. Several
members side by side form a part of their own. -/
def ClassBody.tooDeep? (room : Nat) : ClassBody → Option Span
  | .items _ [] => none
  | .items _ [m] => ClassItem.tooDeep? room m
  | .items start (m :: m' :: rest) =>
    if room = 0 then some (ClassBody.items start (m :: m' :: rest)).span
    else (ClassItem.tooDeep? (room - 1) m).orElse fun _ =>
      (ClassItem.tooDeep? (room - 1) m').orElse fun _ => ClassBody.anyTooDeep? (room - 1) rest
  | .combine op left right =>
    if room = 0 then some (ClassBody.combine op left right).span
    else (ClassBody.tooDeep? (room - 1) left).orElse fun _ => ClassBody.tooDeep? (room - 1) right

/-- The first part of some members that lies deeper than `room` allows. -/
def ClassBody.anyTooDeep? (room : Nat) : List ClassItem → Option Span
  | [] => none
  | m :: rest => (ClassItem.tooDeep? room m).orElse fun _ => ClassBody.anyTooDeep? room rest

end

mutual

/-- The first part of a pattern that lies deeper than `room` allows. -/
def Tree.tooDeep? (room : Nat) : Tree → Option Span
  | .empty _ | .flags _ _ | .char _ | .dot _ | .anchor _ _ | .letter _ _ _ | .property _ _ => none
  | .bracketed _ body span => if room = 0 then some span else body.tooDeep? (room - 1)
  | .repetition _ _ _ sub span | .capture _ sub span | .group _ sub span =>
    if room = 0 then some span else Tree.tooDeep? (room - 1) sub
  | .concat subs span | .alternation subs span =>
    if room = 0 then some span else Tree.anyTooDeep? (room - 1) subs

/-- The first part of some patterns that lies deeper than `room` allows. -/
def Tree.anyTooDeep? (room : Nat) : List Tree → Option Span
  | [] => none
  | t :: rest => (Tree.tooDeep? room t).orElse fun _ => Tree.anyTooDeep? room rest

end

end HostScript.Pattern
