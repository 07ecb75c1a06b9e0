import HostScript.Pattern.CharSet

/-! # Sets of characters as sorted intervals

Every set of characters that a pattern can describe is a finite union of
intervals of code points. The intervals are kept sorted and apart from one
another, so that each set has one such form.

## Implementation notes

Code points that are no characters may lie in an interval; they count for
nothing. -/

namespace HostScript.Pattern

open HostScript.Text

/-- Closed intervals of code points. -/
abbrev Intervals := List (Nat × Nat)

/-- The interval from `a` to `b` and the intervals behind it, which start at `a` or later, with
those joined that overlap or touch. -/
def joinFrom (a b : Nat) : Intervals → Intervals
  | [] => [(a, b)]
  | (c, d) :: rest =>
    if c ≤ b + 1 then joinFrom a (max b d) rest else (a, b) :: joinFrom c d rest

/-- The intervals sorted and joined. -/
def joined (r : Intervals) : Intervals :=
  match r.mergeSort fun p q => p.1 ≤ q.1 with
  | [] => []
  | (a, b) :: rest => joinFrom a b rest

/-- What lies between sorted intervals, from `low` on. -/
def gapsFrom (low : Nat) : Intervals → Intervals
  | [] => if low ≤ 0x10FFFF then [(low, 0x10FFFF)] else []
  | (a, b) :: rest =>
    if low < a then (low, a - 1) :: gapsFrom (b + 1) rest else gapsFrom (b + 1) rest

/-- The code point lies in one of the intervals. -/
def Intervals.covers (r : Intervals) (n : Nat) : Bool := r.any fun p => p.1 ≤ n && n ≤ p.2

/-- The code points that a run moves, each with its image. -/
def runMoves (r : CaseRun) : List (Nat × Nat) :=
  (List.range ((r.last - r.first) / r.step + 1)).filterMap fun i =>
    let n := r.first + i * r.step
    (r.image? n).map fun f => (n, f)

/-- The intervals and the characters that differ from a member only by case, where `moves` are
the characters that are not the representative of their case class. -/
def closeUnder (moves : List (Nat × Nat)) (r : Intervals) : Intervals :=
  let touched := moves.filter fun m => r.covers m.1 || r.covers m.2
  let reached := joined (touched.map fun m => (m.2, m.2))
  joined (r ++ (moves.filter fun m => Intervals.covers reached m.2).flatMap fun m =>
    [(m.1, m.1), (m.2, m.2)])

/-- The capital ASCII letters with their small letters. -/
def asciiMoves : List (Nat × Nat) := (List.range 26).map fun i => (65 + i, 97 + i)

/-- The intervals of a set. -/
def CharSet.intervals : CharSet → Intervals
  | .ranges r => joined r.toList
  | .union s t => joined (s.intervals ++ t.intervals)
  | .inter s t => gapsFrom 0 (joined (gapsFrom 0 s.intervals ++ gapsFrom 0 t.intervals))
  | .compl s => gapsFrom 0 s.intervals
  | .anyCase s => closeUnder (foldRuns.toList.flatMap runMoves) s.intervals
  | .anyAsciiCase s => closeUnder asciiMoves s.intervals

end HostScript.Pattern
