import HostScript.Pattern.Intervals
import HostScript.Pattern.Node

/-! # How large the automaton of a pattern is

A pattern is measured by the two automata over the bytes of a text that decide
it, one that reads forward and one that reads backward. A pattern is refused if
one of them takes more than `maxAutomatonBytes`. Repetitions are written out,
so that counts multiply the size.

Beyond ASCII a set of characters takes several states, one after the other for
the bytes of a character. The forward automaton shares equal ends of these byte
sequences, the backward automaton equal beginnings.

## Implementation notes

A short pattern always fits, and its sets are not measured. -/

namespace HostScript.Pattern

open HostScript.Text

/-! ### Bytes of characters -/

/-- A sequence of byte ranges: every choice of one byte from each range is a character. -/
abbrev ByteRanges := List (Nat × Nat)

/-- The byte ranges of the numbers from `low` to `high`, written with `k` bytes of six bits
behind a first byte, which is counted from `base`. -/
def blocks (base : Nat) : (k : Nat) → (low high : Nat) → List ByteRanges
  | 0, low, high => [[(base + low, base + high)]]
  | k + 1, low, high =>
    let unit := Nat.pow 64 (k + 1)
    let a := low / unit
    let b := high / unit
    if a = b then (blocks 0x80 k (low % unit) (high % unit)).map ((base + a, base + a) :: ·)
    else
      let opening := if low % unit = 0 then [] else
        (blocks 0x80 k (low % unit) (unit - 1)).map ((base + a, base + a) :: ·)
      let closing := if high % unit = unit - 1 then [] else
        (blocks 0x80 k 0 (high % unit)).map ((base + b, base + b) :: ·)
      let a' := if opening.isEmpty then a else a + 1
      let b' := if closing.isEmpty then b else b - 1
      let middle := if a' ≤ b' then
        [(base + a', base + b') :: List.replicate (k + 1) (0x80, 0xBF)] else []
      opening ++ middle ++ closing

/-- The byte ranges of the characters from `low` to `high`. -/
def byteRanges (low high : Nat) : List ByteRanges :=
  [(0, 0x7F, 0, 0), (0x80, 0x7FF, 1, 0xC0), (0x800, 0xD7FF, 2, 0xE0), (0xE000, 0xFFFF, 2, 0xE0),
    (0x10000, 0x10FFFF, 3, 0xF0)].flatMap fun (a, b, k, base) =>
      if max low a ≤ min high b then blocks base k (max low a) (min high b) else []

/-- The number of bytes of a character. -/
def byteLength (n : Nat) : Nat :=
  if n < 0x80 then 1 else if n < 0x800 then 2 else if n < 0x10000 then 3 else 4

/-! ### Measures -/

/-- The bytes that every state takes. -/
def stateBytes : Nat := 32

/-- The bytes that a state takes for each byte range that leads on. -/
def rangeBytes : Nat := 8

/-- The bytes that a state takes for each alternative. -/
def alternativeBytes : Nat := 4

/-- The number of leading ranges that two sequences share. -/
def sharedStart : ByteRanges → ByteRanges → Nat
  | a :: s, b :: t => if a = b then sharedStart s t + 1 else 0
  | _, _ => 0

/-- The number of states for sorted sequences that share equal beginnings with the sequence
before them, which is `last` for the first one. -/
def statesFrom (last : ByteRanges) : List ByteRanges → Nat
  | [] => 0
  | s :: rest => s.length - sharedStart last s + statesFrom s rest

/-- Neighbouring sequences with the same first range, by that range. -/
def groupByHead : List ByteRanges → List ((Nat × Nat) × List ByteRanges)
  | [] => []
  | [] :: rest => groupByHead rest
  | (h :: t) :: rest =>
    match groupByHead rest with
    | (h', ts) :: more => if h = h' then (h, t :: ts) :: more else (h, [t]) :: (h', ts) :: more
    | [] => [(h, [t])]

/-- A description of the state that reads some sequences, and of all states behind it. A
description starts with the number of ranges that lead on, and the last state is `[0]`. -/
def describe : (depth : Nat) → List ByteRanges → List Nat × List (List Nat)
  | 0, _ => ([0], [])
  | depth + 1, seqs =>
    match groupByHead seqs with
    | [] => ([0], [])
    | groups =>
      let behind := groups.map fun (h, ts) => (h, describe depth ts)
      let own := groups.length :: behind.flatMap fun (h, d) => h.1 :: h.2 :: d.1
      (own, own :: behind.flatMap fun (_, d) => d.2)

/-- The bytes of the two automata. -/
structure Size where
  forward : Nat
  backward : Nat
  deriving DecidableEq, Repr

namespace Size

/-- The same number of bytes in both directions. -/
def both (n : Nat) : Size := ⟨n, n⟩

instance : Add Size := ⟨fun a b => ⟨a.forward + b.forward, a.backward + b.backward⟩⟩

/-- A number of copies. -/
def times (n : Nat) (a : Size) : Size := ⟨n * a.forward, n * a.backward⟩

/-- The size of nothing that is read. -/
def ofEmpty : Size := both stateBytes

/-- The size of a choice of `n` ways to go on. -/
def ofChoice (n : Nat) : Size := both (stateBytes + alternativeBytes * n)

/-- The size of a set that is given by its intervals. -/
def ofIntervals (r : Intervals) : Size :=
  let ascii := r.all fun p => p.2 < 128
  match r with
  | [(a, b)] => if a = b then both (stateBytes * byteLength a) else ofRanges ascii
  | _ => ofRanges ascii
where
  /-- The size of a set that is no single character. -/
  ofRanges (ascii : Bool) : Size :=
    if ascii then both (2 * stateBytes + rangeBytes * r.length)
    else
      let seqs := r.flatMap fun p => byteRanges p.1 p.2
      let states := (describe 5 seqs).2.eraseDups
      { forward := states.foldl (fun n d => n + stateBytes + rangeBytes * d.headD 0) stateBytes
        backward := stateBytes * (statesFrom [] seqs + 2) + alternativeBytes * seqs.length }

/-- The bytes of the states that choose between words, of which some have bytes left, in the
order of preference. A word that ends here divides those before it from those behind it; words
that are not divided share their first byte. -/
def wordStates : (depth : Nat) → (words : List (List Nat)) → Nat
  | 0, _ => 0
  | depth + 1, words =>
    let runs := (words.splitBy fun a b => a.isEmpty == b.isEmpty).filter
      fun run => run.all fun word => !word.isEmpty
    let ends := words.countP List.isEmpty
    runs.foldl (fun total run =>
        let heads := (run.filterMap List.head?).eraseDups
        heads.foldl (fun total head =>
            let behind := (run.filter fun word => word.head? == some head).map List.tail
            if behind.all List.isEmpty then total else total + wordStates depth behind)
          (total + stateBytes + if heads.length = 1 then 0 else rangeBytes * heads.length))
      (stateBytes + alternativeBytes * (runs.length + ends))

/-- The size of a choice between words. -/
def ofWords (words : List (List Nat)) : Size :=
  let depth := words.foldl (fun n word => max n word.length) 1
  ⟨stateBytes + wordStates depth words, stateBytes + wordStates depth (words.map List.reverse)⟩

/-- The size of a repetition. -/
def repeated (least : Nat) (most : Option Nat) (mayBeEmpty : Bool) (sub : Size) : Size :=
  match least, most with
  | 0, some 1 => ofChoice 2 + sub + ofEmpty
  | 0, none => if mayBeEmpty then sub + ofChoice 2 + ofChoice 2 + ofEmpty else ofChoice 2 + sub
  | n + 1, none => times (n + 1) sub + ofChoice 2
  | least, some most =>
    if least = most then times least sub
    else
      (if least = 0 then ofEmpty else times least sub) + ofEmpty +
        times (most - least) (ofChoice 2 + sub)

end Size

/-! ### Patterns -/

mutual

/-- The node stands for nothing at all and takes no room in a sequence. -/
def Node.isVoid : Node → Bool
  | .empty => true
  | .concat subs => Node.allVoid subs
  | _ => false

/-- All nodes stand for nothing at all. -/
def Node.allVoid : List Node → Bool
  | [] => true
  | n :: rest => n.isVoid && Node.allVoid rest

end

/-- The union of the sets, if all nodes are sets. -/
def unionOfSets? : List Node → Option CharSet
  | [] => some .empty
  | .set s :: rest => (unionOfSets? rest).map (.union s)
  | _ => none

mutual

/-- The bytes of a node that stands for one word. -/
def Node.word? : Node → Option (List Nat)
  | .set s =>
    match s.intervals with
    | [(a, b)] => if a = b then some ((byteRanges a b).flatMap fun r => r.map Prod.fst) else none
    | _ => none
  | .concat subs => Node.wordOfAll? subs
  | _ => none

/-- The bytes of nodes that stand for one word together. -/
def Node.wordOfAll? : List Node → Option (List Nat)
  | [] => some []
  | n :: rest => do
    let word ← if n.isVoid then some [] else n.word?
    return word ++ (← Node.wordOfAll? rest)

end

/-- The words of alternatives that all stand for a word of at least one byte. -/
def wordsOf? (subs : List Node) : Option (List (List Nat)) :=
  subs.mapM fun n => n.word?.filter fun word => !word.isEmpty

mutual

/-- The size of a node. -/
def Node.size : Node → Size
  | .empty => .ofEmpty
  | .set s => .ofIntervals s.intervals
  | .look _ => .ofEmpty
  | .repetition least most _ sub => .repeated least most sub.mayBeEmpty sub.size
  | .capture _ sub => sub.size + ⟨2 * stateBytes, 0⟩
  | .concat subs => if Node.allVoid subs then .ofEmpty else Node.sizeOfAll subs
  | .choice subs =>
    match unionOfSets? subs with
    | some s => .ofIntervals s.intervals
    | none =>
      match wordsOf? subs with
      | some words => .ofWords words
      | none => Size.ofChoice subs.length + .ofEmpty + Node.sizeOfChoices subs

/-- The size of a sequence. -/
def Node.sizeOfAll : List Node → Size
  | [] => .both 0
  | n :: rest => (if n.isVoid then .both 0 else n.size) + Node.sizeOfAll rest

/-- The sizes of alternatives together. -/
def Node.sizeOfChoices : List Node → Size
  | [] => .both 0
  | n :: rest => n.size + Node.sizeOfChoices rest

end

mutual

/-- The number of sets and conditions of a node with its repetitions written out. -/
def Node.length : Node → Nat
  | .empty => 1
  | .set _ => 1
  | .look _ => 1
  | .repetition least most _ sub => (sub.length + 1) * max 1 (max least (most.getD 0))
  | .capture _ sub => sub.length + 1
  | .concat subs => Node.lengths subs
  | .choice subs => Node.lengths subs

/-- The lengths of nodes together. -/
def Node.lengths : List Node → Nat
  | [] => 1
  | n :: rest => n.length + Node.lengths rest

end

/-- The number of bytes that an automaton may take. -/
def maxAutomatonBytes : Nat := 10485760

/-- A pattern of this length fits whatever its sets are. -/
def shortLength : Nat := 40

/-- The automata of a whole pattern fit: the pattern, the marks of its match and the way to its
start. -/
def Node.fits (n : Node) : Bool :=
  n.length ≤ shortLength ||
    let total := n.size + ⟨2 * stateBytes, 0⟩ + .both (stateBytes + 112)
    total.forward ≤ maxAutomatonBytes && total.backward ≤ maxAutomatonBytes

end HostScript.Pattern
