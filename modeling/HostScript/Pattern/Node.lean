import HostScript.Pattern.Property

/-! # Patterns with their flags resolved

A node says what a pattern matches and no longer depends on flags: sets of
characters, conditions on places, repetitions with their preference, captures,
sequences and choices. -/

namespace HostScript.Pattern

open HostScript.Text

/-- Conditions on a place between two characters. -/
inductive Look where
  | start | stop
  | lineStart | lineEnd
  /-- Starts and ends of lines that end in a carriage return, a line feed, or both. -/
  | lineStartReturn | lineEndReturn
  | boundary (unicode : Bool)
  | notBoundary (unicode : Bool)
  | wordStart (unicode : Bool)
  | wordEnd (unicode : Bool)
  | wordStartHalf (unicode : Bool)
  | wordEndHalf (unicode : Bool)
  deriving DecidableEq, Repr

/-- What a pattern matches. -/
inductive Node where
  | empty
  | set (s : CharSet)
  | look (k : Look)
  | repetition (least : Nat) (most : Option Nat) (greedy : Bool) (sub : Node)
  | capture (index : Nat) (sub : Node)
  | concat (subs : List Node)
  | choice (subs : List Node)

mutual

/-- The node reads nothing, whatever it asks of its place. -/
def Node.readsNothing : Node → Bool
  | .empty => true
  | .set _ => false
  | .look _ => true
  | .repetition _ _ _ sub => sub.readsNothing
  | .capture _ sub => sub.readsNothing
  | .concat subs => Node.allReadNothing subs
  | .choice subs => Node.allReadNothing subs

/-- All nodes read nothing. -/
def Node.allReadNothing : List Node → Bool
  | [] => true
  | n :: rest => n.readsNothing && Node.allReadNothing rest

end

/-- A repetition. What reads nothing is tried at most once; what may not be tried is left out,
and what is tried once is no repetition. -/
def Node.repeated (least : Nat) (most : Option Nat) (greedy : Bool) (sub : Node) : Node :=
  let (least, most) :=
    if sub.readsNothing then (min least 1, some (min (most.getD 1) 1)) else (least, most)
  match least, most with
  | 0, some 0 => .empty
  | 1, some 1 => sub
  | least, most => .repetition least most greedy sub

/-- The flags in force. -/
structure Flags where
  ignoreCase : Bool := false
  multiLine : Bool := false
  dotAll : Bool := false
  swapGreed : Bool := false
  unicode : Bool := true
  carriageReturn : Bool := false

/-- The flags after a change. -/
def Flags.change (f : Flags) (c : FlagChange) : Flags :=
  { ignoreCase := (c.value? .ignoreCase).getD f.ignoreCase
    multiLine := (c.value? .multiLine).getD f.multiLine
    dotAll := (c.value? .dotAll).getD f.dotAll
    swapGreed := (c.value? .swapGreed).getD f.swapGreed
    unicode := (c.value? .unicode).getD f.unicode
    carriageReturn := (c.value? .carriageReturn).getD f.carriageReturn }

/-- The set, closed under change of case if case is ignored. Without the flag for all
characters only ASCII letters change their case. -/
def Flags.fold (f : Flags) (s : CharSet) : CharSet :=
  if f.ignoreCase then (if f.unicode then .anyCase s else .anyAsciiCase s) else s

/-- A character beyond ASCII that is written the way a byte is written. Without the flag for
all characters it would stand for a byte that is no text. -/
def Literal.isLoneByte (f : Flags) (l : Literal) : Bool :=
  !f.unicode && l.isByte && 127 < l.char.toNat

/-- The set of a character under flags. -/
def Literal.set (f : Flags) (l : Literal) : Except PatternError CharSet :=
  if l.isLoneByte f then .error ⟨.notText, l.span⟩
  else .ok (f.fold (.single l.char))

/-- A character as a member of a class under flags. -/
def Literal.member (f : Flags) (l : Literal) : Except PatternError Char :=
  if l.isLoneByte f then .error ⟨.notText, l.span⟩
  else if !f.unicode && 127 < l.char.toNat then .error ⟨.beyondAscii, l.span⟩
  else .ok l.char

/-- The set of a property query under flags. -/
def propertySet (f : Flags) (q : PropertyQuery) (span : Span) : Except PatternError CharSet :=
  if !f.unicode then .error ⟨.beyondAscii, span⟩
  else match q.set with
    | .ok s => .ok ((f.fold s).negatedIf q.negated)
    | .error p => .error ⟨p, span⟩

/-- The set or its complement; the complement needs the flag for all characters. -/
def complementIf (f : Flags) (negated : Bool) (s : CharSet) (span : Span) :
    Except PatternError CharSet :=
  if negated && !f.unicode then .error ⟨.notText, span⟩
  else .ok (s.negatedIf negated)

/-- The set of a letter class under flags. -/
def letterSet (f : Flags) (k : LetterClass) (negated : Bool) (span : Span) :
    Except PatternError CharSet :=
  complementIf f negated (k.set f.unicode) span

/-- Two sets combined. -/
def ClassOp.apply : ClassOp → CharSet → CharSet → CharSet
  | .intersection, s, t => .inter s t
  | .difference, s, t => s.difference t
  | .symmetricDifference, s, t => s.symmetricDifference t

mutual

/-- The set of a member of a class. -/
def ClassItem.set (f : Flags) : ClassItem → Except PatternError CharSet
  | .char c => do return .single (← c.member f)
  | .range a b => do return .range (← a.member f) (← b.member f)
  | .named r negated span => complementIf f negated (f.fold (.ranges r)) span
  | .letter k negated span => letterSet f k negated span
  | .property q span => propertySet f q span
  | .bracketed negated body span => do
    let s ← ClassBody.set f body
    complementIf f negated (f.fold s) span

/-- The set of the inside of a class. -/
def ClassBody.set (f : Flags) : ClassBody → Except PatternError CharSet
  | .items _ members => ClassBody.setOfMembers f members
  | .combine op left right => do
    let s ← ClassBody.set f left
    let t ← ClassBody.set f right
    return op.apply (f.fold s) (f.fold t)

/-- The union of the sets of members. -/
def ClassBody.setOfMembers (f : Flags) : List ClassItem → Except PatternError CharSet
  | [] => .ok .empty
  | m :: rest => do
    let s ← ClassItem.set f m
    let t ← ClassBody.setOfMembers f rest
    return .union s t

end

/-- Every character that a dot stands for. -/
def dotSet (f : Flags) : CharSet :=
  if f.dotAll then .full
  else if f.carriageReturn then .compl (.ranges #[(10, 10), (13, 13)])
  else .compl (.single '\n')

/-- The condition of an anchor under flags. -/
def Anchor.look (f : Flags) : Anchor → Look
  | .caret =>
    if f.multiLine then (if f.carriageReturn then .lineStartReturn else .lineStart) else .start
  | .dollar =>
    if f.multiLine then (if f.carriageReturn then .lineEndReturn else .lineEnd) else .stop
  | .textStart => .start
  | .textEnd => .stop
  | .boundary => .boundary f.unicode
  | .notBoundary => .notBoundary f.unicode
  | .wordStart => .wordStart f.unicode
  | .wordEnd => .wordEnd f.unicode
  | .wordStartHalf => .wordStartHalf f.unicode
  | .wordEndHalf => .wordEndHalf f.unicode

mutual

/-- The node of a tree under flags, and the flags behind it. -/
def Tree.resolve (f : Flags) : Tree → Except PatternError (Node × Flags)
  | .empty _ => .ok (.empty, f)
  | .flags change _ => .ok (.empty, f.change change)
  | .char c => do return (.set (← c.set f), f)
  | .dot span => if f.unicode then .ok (.set (dotSet f), f) else .error ⟨.notText, span⟩
  | .anchor a _ => .ok (.look (a.look f), f)
  | .letter k negated span => do return (.set (← letterSet f k negated span), f)
  | .property q span => do return (.set (← propertySet f q span), f)
  | .bracketed negated body span => do
    let s ← ClassBody.set f body
    return (.set (← complementIf f negated (f.fold s) span), f)
  | .repetition least most greedy sub _ => do
    let (n, f') ← Tree.resolve f sub
    return (.repeated least most (greedy != f.swapGreed) n, f')
  | .capture index sub _ => do
    let (n, _) ← Tree.resolve f sub
    return (.capture index n, f)
  | .group change sub _ => do
    let (n, _) ← Tree.resolve (f.change change) sub
    return (n, f)
  | .concat subs _ => do
    let (ns, f') ← Tree.resolveAll f subs
    return (.concat ns, f')
  | .alternation subs _ => do
    let (ns, f') ← Tree.resolveAll f subs
    return (.choice ns, f')

/-- The nodes of trees one after the other, and the flags behind them. -/
def Tree.resolveAll (f : Flags) : List Tree → Except PatternError (List Node × Flags)
  | [] => .ok ([], f)
  | t :: rest => do
    let (n, f') ← Tree.resolve f t
    let (ns, f'') ← Tree.resolveAll f' rest
    return (n :: ns, f'')

end

mutual

/-- The node can match the empty text. -/
def Node.mayBeEmpty : Node → Bool
  | .empty => true
  | .set _ => false
  | .look _ => true
  | .repetition least _ _ sub => least == 0 || sub.mayBeEmpty
  | .capture _ sub => sub.mayBeEmpty
  | .concat subs => Node.allMayBeEmpty subs
  | .choice subs => Node.anyMayBeEmpty subs

/-- All nodes can match the empty text. -/
def Node.allMayBeEmpty : List Node → Bool
  | [] => true
  | n :: rest => n.mayBeEmpty && Node.allMayBeEmpty rest

/-- Some node can match the empty text. -/
def Node.anyMayBeEmpty : List Node → Bool
  | [] => false
  | n :: rest => n.mayBeEmpty || Node.anyMayBeEmpty rest

end

end HostScript.Pattern
