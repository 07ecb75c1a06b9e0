import HostScript.Pattern.Node

/-! # Matching

A node is turned into a program of small instructions. The program is run over
a text by a list of threads, most preferred first; each thread remembers where
its captures start and end. At one place no instruction is entered twice, since
the first thread to enter it is the preferred one, so a search takes time
proportional to the length of the text times the length of the program. -/

namespace HostScript.Pattern

open HostScript.Text

/-- Instructions; each names the instructions that may follow. -/
inductive Instruction where
  | accept
  | char (s : CharSet) (next : Nat)
  | look (k : Look) (next : Nat)
  | save (slot next : Nat)
  /-- Continue at the first, or else at the second. -/
  | split (first second : Nat)
  | jump (next : Nat)

/-- The instructions built so far, by address. -/
abbrev Code := Array Instruction

/-- Add an instruction and return its address. -/
def emit (i : Instruction) : StateM Code Nat := fun code => (code.size, code.push i)

/-- Replace an instruction. -/
def patch (at_ : Nat) (i : Instruction) : StateM Code Unit := fun code =>
  ((), code.setIfInBounds at_ i)

/-- A choice between two continuations in the order that greed asks for. -/
def splitOf (greedy : Bool) (more done : Nat) : Instruction :=
  if greedy then .split more done else .split done more

/-- Apply a construction `n` times, each in front of the last one. -/
def repeatBuild (build : Nat → StateM Code Nat) : Nat → Nat → StateM Code Nat
  | 0, next => pure next
  | n + 1, next => do
    let entry ← build next
    repeatBuild build n entry

/-- Optional copies: each copy may be left out together with those behind it. -/
def optionalBuild (greedy : Bool) (build : Nat → StateM Code Nat) (done : Nat) :
    Nat → Nat → StateM Code Nat
  | 0, next => pure next
  | n + 1, next => do
    let entry ← build next
    let choice ← emit (splitOf greedy entry done)
    optionalBuild greedy build done n choice

/-- One or more copies; the address of the first instruction is returned. -/
def plusBuild (greedy : Bool) (build : Nat → StateM Code Nat) (next : Nat) :
    StateM Code Nat := do
  let again ← emit (.jump next)
  let entry ← build again
  patch again (splitOf greedy entry next)
  return entry

/-- Any number of copies. A copy that can be empty is tried before it is left out, so that
the preferred thread comes first. -/
def starBuild (greedy mayBeEmpty : Bool) (build : Nat → StateM Code Nat) (next : Nat) :
    StateM Code Nat := do
  if mayBeEmpty then
    let entry ← plusBuild greedy build next
    emit (splitOf greedy entry next)
  else
    let again ← emit (.jump next)
    let entry ← build again
    patch again (splitOf greedy entry next)
    return again

mutual

/-- Add the instructions of a node in front of `next`; the address of the first one is
returned. -/
def Node.build : Node → (next : Nat) → StateM Code Nat
  | .empty, next => pure next
  | .set s, next => emit (.char s next)
  | .look k, next => emit (.look k next)
  | .repetition least most greedy sub, next => do
    match most with
    | some most => do
      let entry ← optionalBuild greedy sub.build next (most - least) next
      repeatBuild sub.build least entry
    | none =>
      match least with
      | 0 => starBuild greedy sub.mayBeEmpty sub.build next
      | least + 1 => do
        let entry ← plusBuild greedy sub.build next
        repeatBuild sub.build least entry
  | .capture index sub, next => do
    let last ← emit (.save (2 * index + 1) next)
    let entry ← sub.build last
    emit (.save (2 * index) entry)
  | .concat subs, next => Node.buildSequence subs next
  | .choice subs, next => Node.buildChoice subs next

/-- Add the instructions of a sequence in front of `next`. -/
def Node.buildSequence : List Node → (next : Nat) → StateM Code Nat
  | [], next => pure next
  | n :: rest, next => do
    let entry ← Node.buildSequence rest next
    n.build entry

/-- Add the instructions of a choice in front of `next`. -/
def Node.buildChoice : List Node → (next : Nat) → StateM Code Nat
  | [], next => pure next
  | [n], next => n.build next
  | n :: rest, next => do
    let others ← Node.buildChoice rest next
    let entry ← n.build next
    emit (.split entry others)

end

/-- A pattern ready to be matched. -/
structure Matcher where
  code : Code
  entry : Nat
  groups : Nat
  names : List (String × Nat)

/-- The matcher of a node: it marks the whole match as group zero. -/
def Matcher.ofNode (n : Node) (groups : Nat) (names : List (String × Nat)) : Matcher :=
  let (entry, code) := (do
    let last ← emit .accept
    (Node.capture 0 n).build last : StateM Code Nat).run #[]
  { code, entry, groups, names }

/-! ### Places -/

/-- The character before the place `i` is a word character. -/
def wordBefore (unicode : Bool) (text : Array Char) (i : Nat) : Bool :=
  match i with
  | 0 => false
  | j + 1 => match text[j]? with
    | some c => if unicode then isWordChar c else c.toNat < 128 && isWordChar c
    | none => false

/-- The character behind the place `i` is a word character. -/
def wordAfter (unicode : Bool) (text : Array Char) (i : Nat) : Bool :=
  match text[i]? with
  | some c => if unicode then isWordChar c else c.toNat < 128 && isWordChar c
  | none => false

/-- The character before the place `i`. -/
def charBefore (text : Array Char) : Nat → Option Char
  | 0 => none
  | j + 1 => text[j]?

/-- The condition holds at the place `i`. -/
def Look.holds (text : Array Char) (i : Nat) : Look → Bool
  | .start => i == 0
  | .stop => i == text.size
  | .lineStart => i == 0 || charBefore text i == some '\n'
  | .lineEnd => i == text.size || text[i]? == some '\n'
  | .lineStartReturn =>
    i == 0 || charBefore text i == some '\n' ||
      (charBefore text i == some '\r' && text[i]? != some '\n')
  | .lineEndReturn =>
    i == text.size || text[i]? == some '\r' ||
      (text[i]? == some '\n' && charBefore text i != some '\r')
  | .boundary u => wordBefore u text i != wordAfter u text i
  | .notBoundary u => wordBefore u text i == wordAfter u text i
  | .wordStart u => !(wordBefore u text i) && wordAfter u text i
  | .wordEnd u => wordBefore u text i && !(wordAfter u text i)
  | .wordStartHalf u => !(wordBefore u text i)
  | .wordEndHalf u => !(wordAfter u text i)

/-! ### Threads -/

/-- Where each capture starts and ends, as far as it is known. -/
abbrev Slots := Array (Option Nat)

/-- A thread waits at an instruction that reads a character or accepts. -/
structure Thread where
  address : Nat
  slots : Slots

/-- The threads at a place, most preferred first, and the addresses that were entered. -/
structure Threads where
  entered : Array Bool
  waiting : Array Thread

/-- Enter the addresses on the stack in turn and follow every instruction that reads
nothing. -/
def follow (code : Code) (text : Array Char) (i : Nat) :
    Nat → List (Nat × Slots) → Threads → Threads
  | 0, _, ts => ts
  | _, [], ts => ts
  | n + 1, (a, slots) :: stack, ts =>
    if ts.entered.getD a true then follow code text i n stack ts
    else
      let ts := { ts with entered := ts.entered.setIfInBounds a true }
      match code[a]? with
      | some (.jump next) => follow code text i n ((next, slots) :: stack) ts
      | some (.split first second) =>
        follow code text i n ((first, slots) :: (second, slots) :: stack) ts
      | some (.save slot next) =>
        follow code text i n ((next, slots.setIfInBounds slot (some i)) :: stack) ts
      | some (.look k next) =>
        if k.holds text i then follow code text i n ((next, slots) :: stack) ts
        else follow code text i n stack ts
      | some _ => follow code text i n stack { ts with waiting := ts.waiting.push ⟨a, slots⟩ }
      | none => follow code text i n stack ts

/-- Start a thread at an address, less preferred than the threads before it. -/
def addThread (code : Code) (text : Array Char) (i : Nat) (a : Nat) (slots : Slots)
    (ts : Threads) : Threads :=
  follow code text i (2 * code.size + 2) [(a, slots)] ts

/-- No threads. -/
def Threads.none (code : Code) : Threads :=
  { entered := Array.replicate code.size false, waiting := #[] }

/-- Move the threads over the character at `i`. A thread that accepts ends the threads
behind it; its captures are returned. -/
def advanceThreads (code : Code) (text : Array Char) (i : Nat) :
    List Thread → Threads → Threads × Option Slots
  | [], ts => (ts, none)
  | t :: rest, ts =>
    match code[t.address]? with
    | some .accept => (ts, some t.slots)
    | some (.char s next) =>
      if text[i]?.any s.contains then
        advanceThreads code text i rest (addThread code text (i + 1) next t.slots ts)
      else advanceThreads code text i rest ts
    | _ => advanceThreads code text i rest ts

/-- Search from the place `i` on: `ts` are the threads at `i`, `found` the captures of the
most preferred match so far. As long as there is none, a thread starts at every place. -/
def searchFrom (p : Matcher) (text : Array Char) :
    Nat → (i : Nat) → Threads → Option Slots → Option Slots
  | 0, _, _, found => found
  | n + 1, i, ts, found =>
    let ts := match found with
      | none => addThread p.code text i p.entry (Array.replicate (2 * p.groups + 2) none) ts
      | some _ => ts
    if ts.waiting.isEmpty && found.isSome then found
    else
      let (after, accepted) := advanceThreads p.code text i ts.waiting.toList (.none p.code)
      searchFrom p text n (i + 1) after (accepted.orElse fun _ => found)

/-- The captures of the first match that starts at `i` or later, most preferred first. -/
def Matcher.find? (p : Matcher) (text : Array Char) (i : Nat) : Option Slots :=
  if i ≤ text.size then searchFrom p text (text.size - i + 1) i (.none p.code) none else none

/-- Start and end of a group in the captures of a match. -/
def groupBounds? (slots : Slots) (index : Nat) : Option (Nat × Nat) :=
  match slots.getD (2 * index) none, slots.getD (2 * index + 1) none with
  | some a, some b => some (a, b)
  | _, _ => none

end HostScript.Pattern
