import HostScript.Proofs.Files.Trees
import HostScript.Proofs.Splitting
import Mathlib

/-!
# Files stay below their root

A script names a file by components between slashes. Whatever it asks for, and however it spells the
path, the operation is carried out at the root or below it: nothing outside changes, and of what is
outside only the way to the root is seen. Paths that differ only in components that say nothing are
the same to every operation, and no spelling of the root deletes it.

## Implementation notes

Every operation first passes a gate, which sees the place but not the tree: a path that leads out,
the root that is to be deleted, and a host that does not tell directories are answered there. What
passes is an operation on the tree at a place below the root, so the laws of trees do the rest.

A root may stand in a tree where it, or a directory above it, is missing. A new directory then comes
with those, and they are all that ever changes outside. A root that is there stays there, and then
nothing outside changes at all.
-/

namespace HostScript.Files

/-! ### The components of a path -/

/-- The path is spelled by the components with slashes between them, and no slash is in any. -/
structure Components (path : String) (cs : List String) : Prop where
  some_ : cs ≠ []
  whole : ∀ c ∈ cs, '/' ∉ c.toList
  spelled : path = String.intercalate "/" cs

/-- A path has components in one way only. -/
theorem components_iff {path : String} {cs : List String} :
    Components path cs ↔ cs = parts path := by
  have slash : "/".toList = ['/'] := rfl
  constructor
  · rintro ⟨some_, whole, rfl⟩
    have split : Text.splitOn ['/'] (Text.joinWith ['/'] (cs.map String.toList)) =
        cs.map String.toList := by
      apply Text.splitOn_joinWith
      · simpa using some_
      · simpa using whole
    rw [parts, String.toList_intercalate, slash, ← Text.joinWith_eq_intercalate, split]
    simp [Function.comp_def]
  · rintro rfl
    constructor
    · simpa [parts] using Text.splitOn_mark_ne_nil '/' path.toList
    · intro c mem
      obtain ⟨p, piece, rfl⟩ := List.mem_map.mp mem
      rw [String.toList_ofList]
      exact Text.not_mem_of_mem_splitOn piece
    · have texts : (parts path).map String.toList = Text.splitOn ['/'] path.toList := by
        simp [parts, Function.comp_def]
      rw [← String.toList_inj, String.toList_intercalate, texts, slash,
        ← Text.joinWith_eq_intercalate, Text.joinWith_splitOn]

/-! ### Why an operation fails -/

/-- Why an operation was not carried out. -/
inductive Trouble where
  /-- The path leads out of the root. -/
  | escapes
  /-- The root would be deleted. -/
  | root
  | failure (e : Failure)
  deriving DecidableEq

/-- The text of a trouble with a path. -/
def Trouble.message (path : String) : Trouble → String
  | .escapes => escapeMessage path
  | .root => rootMessage
  | .failure e => failureMessage path e

theorem toList_escapeMessage (path : String) : (escapeMessage path).toList =
    "path escapes the file system root: ".toList ++ path.toList := String.toList_append

theorem toList_failureMessage (path : String) (e : Failure) :
    (failureMessage path e).toList = path.toList ++ ": ".toList ++ e.message.toList := by
  have text : failureMessage path e = path ++ ": " ++ e.message := rfl
  rw [text, String.toList_append, String.toList_append]

theorem escapeMessage_ne_rootMessage (path : String) : escapeMessage path ≠ rootMessage := by
  intro same
  have first := congrArg (fun s => s.toList.head?) same
  rw [toList_escapeMessage, List.head?_append_of_ne_nil _ (by decide)] at first
  revert first
  decide

/-- The text of a failure ends with the text of its cause. -/
theorem failureMessage_ne_rootMessage (path : String) (e : Failure) :
    failureMessage path e ≠ rootMessage := by
  intro same
  have last := congrArg (fun s => s.toList.getLast?) same
  have some_ : e.message.toList ≠ [] := by cases e <;> decide
  rw [toList_failureMessage, List.getLast?_append_of_ne_nil _ some_] at last
  revert last
  cases e <;> decide

namespace Root

variable {r r' : Root} {path path' : String} {act : Act} {p q : Path}

/-! ### Operations on files, asked for by a path -/

/-- The answer to a change, and the files after it: the old ones if the change failed. -/
def settled (r : Root) : Except String Root → Except String Response × Root
  | .ok r' => (.ok .done, r')
  | .error message => (.error message, r)

/-- Carry out an operation at a path. -/
def serve (r : Root) (path : String) : Act → Except String Response × Root
  | .read => ((r.read path).map .text, r)
  | .write content => r.settled (r.write path content)
  | .makeDirectory => ((r.makeDirectory path).1.elim (.ok .done) .error, (r.makeDirectory path).2)
  | .deleteFile => r.settled (r.deleteFile path)
  | .deleteDirectory recursive => r.settled (r.deleteDirectory path recursive)
  | .isDirectory => (.ok (.told (r.isDirectory path)), r)

/-- Carry out operations one after the other. -/
def serveAll (r : Root) : List (String × Act) → List (Except String Response) × Root
  | [] => ([], r)
  | (path, act) :: rest =>
    let (answer, r) := r.serve path act
    let (answers, r) := r.serveAll rest
    (answer :: answers, r)

/-- What is answered to an operation at a place without looking at the tree. -/
def gate (r : Root) : Act → Option Path → Option (Except Trouble Response)
  | .isDirectory, none => some (.ok (.told false))
  | _, none => some (.error .escapes)
  | .isDirectory, some _ => if r.tellsDirectories then none else some (.ok (.told false))
  | .deleteDirectory _, some p => if p = r.base then some (.error .root) else none
  | _, some _ => none

theorem prefix_of_resolve? (place : r.resolve? path = some p) : r.base <+: p := by
  obtain ⟨names, -, rfl⟩ := Option.map_eq_some_iff.mp place
  exact List.prefix_append _ _

theorem exists_place (passed : r.gate act (r.resolve? path) = none) :
    ∃ p, r.resolve? path = some p := by
  cases place : r.resolve? path with
  | some p => exact ⟨p, rfl⟩
  | none =>
      rw [place] at passed
      cases act with
      | _ => cases passed

theorem ne_base_of_gate {recursive : Bool}
    (passed : r.gate (.deleteDirectory recursive) (some p) = none) : p ≠ r.base := by
  rintro rfl
  simp [gate] at passed

theorem at?_of_place {α : Type} (place : r.resolve? path = some p)
    (act : Path → Except Failure α) :
    r.at? path act = (act p).mapError (failureMessage path) := by
  simp only [at?, place]
  cases act p with
  | ok a => rfl
  | error e => rfl

theorem settled_change_of_place (place : r.resolve? path = some p)
    (act : Path → Except Failure Tree) :
    r.settled (r.change path act) = ((r.tree.settled (act p)).1.mapError (failureMessage path),
      { r with tree := (r.tree.settled (act p)).2 }) := by
  rw [change, at?_of_place place]
  cases act p with
  | ok t => rfl
  | error e => rfl

theorem settled_change_of_none (place : r.resolve? path = none)
    (act : Path → Except Failure Tree) :
    r.settled (r.change path act) = (.error (escapeMessage path), r) := by
  simp only [change, at?, place, settled]

/-- An operation that does not pass the gate leaves everything as it is. -/
theorem serve_of_gate {answer : Except Trouble Response}
    (stopped : r.gate act (r.resolve? path) = some answer) :
    r.serve path act = (answer.mapError (·.message path), r) := by
  cases place : r.resolve? path with
  | none =>
      rw [place] at stopped
      cases act with
      | read =>
          cases stopped
          simp only [serve, read, at?, place]
          rfl
      | makeDirectory =>
          cases stopped
          simp only [serve, makeDirectory, place]
          rfl
      | isDirectory =>
          cases stopped
          simp only [serve, isDirectory, place, Bool.and_false]
          rfl
      | deleteDirectory recursive =>
          cases stopped
          have other : ¬ r.resolve? path = some r.base := by simp [place]
          simp only [serve, deleteDirectory, if_neg other]
          exact settled_change_of_none place _
      | write content =>
          cases stopped
          exact settled_change_of_none place _
      | deleteFile =>
          cases stopped
          exact settled_change_of_none place _
  | some p =>
      rw [place] at stopped
      cases act with
      | isDirectory =>
          simp only [gate] at stopped
          split at stopped
          · cases stopped
          · next silent =>
            cases stopped
            simp only [serve, isDirectory, Bool.eq_false_iff.mpr silent, Bool.false_and]
            rfl
      | deleteDirectory recursive =>
          simp only [gate] at stopped
          split at stopped
          · next top =>
            cases stopped
            simp only [serve, deleteDirectory, place, top, if_true]
            rfl
          · cases stopped
      | _ => cases stopped

/-- An operation that passes the gate is carried out on the tree. -/
theorem serve_of_place (passed : r.gate act (r.resolve? path) = none)
    (place : r.resolve? path = some p) :
    r.serve path act = ((r.tree.perform p act).1.mapError (failureMessage path),
      { r with tree := (r.tree.perform p act).2 }) := by
  rw [place] at passed
  cases act with
  | read =>
      simp only [serve, read, at?_of_place place, Tree.perform]
      cases r.tree.read p with
      | ok s => rfl
      | error e => rfl
  | makeDirectory =>
      simp only [serve, makeDirectory, place, Tree.perform]
      cases (r.tree.makeDirectory p).1 with
      | none => rfl
      | some e => rfl
  | isDirectory =>
      simp only [gate, ite_eq_left_iff, reduceCtorEq, imp_false, not_not] at passed
      have told : r.isDirectory path = r.tree.isDirectory p := by
        simp only [isDirectory, place, passed, Bool.true_and]
      simp only [serve, told, Tree.perform]
      rfl
  | deleteDirectory recursive =>
      have other : ¬ r.resolve? path = some r.base := by
        rw [place, Option.some_inj]
        exact ne_base_of_gate passed
      simp only [serve, deleteDirectory, if_neg other]
      exact settled_change_of_place place _
  | write content => exact settled_change_of_place place _
  | deleteFile => exact settled_change_of_place place _

theorem gate_none (r : Root) (act : Act) : r.gate act none =
    some (if act = .isDirectory then .ok (.told false) else .error .escapes) := by
  cases act with
  | _ => rfl

/-- A path that leads out is refused. -/
theorem serve_of_none (place : r.resolve? path = none) (act : Act) :
    r.serve path act =
      (if act = .isDirectory then .ok (.told false) else .error (escapeMessage path), r) := by
  rw [serve_of_gate (place ▸ r.gate_none act)]
  split
  · rfl
  · rfl

/-- An operation leaves the files as they are, or acts at the place of its path, which is the root
or lies below it. -/
theorem serve_at_place (place : r.resolve? path = some p) (act : Act) : r.base <+: p ∧
    ((r.serve path act).2 = r ∨
      (r.serve path act).2 = { r with tree := (r.tree.perform p act).2 }) := by
  refine ⟨prefix_of_resolve? place, ?_⟩
  cases passed : r.gate act (r.resolve? path) with
  | some answer =>
      rw [serve_of_gate passed]
      exact .inl rfl
  | none =>
      rw [serve_of_place passed place]
      exact .inr rfl

/-! ### Nothing outside changes -/

@[simp] theorem base_serve (r : Root) (path : String) (act : Act) :
    (r.serve path act).2.base = r.base := by
  cases passed : r.gate act (r.resolve? path) with
  | some answer => rw [serve_of_gate passed]
  | none =>
      obtain ⟨p, place⟩ := exists_place passed
      rw [serve_of_place passed place]

/-- A directory above the root was missing and has been made. -/
def MadeAbove (r r' : Root) (q : Path) : Prop :=
  q <+: r.base ∧ r.tree.get? q = none ∧ r'.tree.get? q = some .directory

/-- An operation changes nothing outside the root, except that a new directory comes with the
missing ones above the root. -/
theorem get?_serve (r : Root) (path : String) (act : Act) (outside : ¬ r.base <+: q) :
    (r.serve path act).2.tree.get? q = r.tree.get? q ∨
      act = .makeDirectory ∧ r.MadeAbove (r.serve path act).2 q := by
  cases passed : r.gate act (r.resolve? path) with
  | some answer =>
      rw [serve_of_gate passed]
      exact .inl rfl
  | none =>
      obtain ⟨p, place⟩ := exists_place passed
      have below := prefix_of_resolve? place
      rw [serve_of_place passed place]
      obtain same | ⟨making, onWay, missing, made⟩ :=
        r.tree.get?_perform act fun inside => outside (below.trans inside)
      · exact .inl same
      · -- Of two places on one way, one lies above the other.
        have above := (List.prefix_or_prefix_of_prefix onWay below).resolve_right outside
        exact .inr ⟨making, above, missing, made⟩

/-- Operations change nothing outside the root, except that new directories come with the missing
ones above the root. -/
theorem get?_serveAll (r : Root) (requests : List (String × Act)) (outside : ¬ r.base <+: q) :
    (r.serveAll requests).2.tree.get? q = r.tree.get? q ∨
      (∃ path, (path, Act.makeDirectory) ∈ requests) ∧ r.MadeAbove (r.serveAll requests).2 q := by
  induction requests generalizing r with
  | nil => exact .inl rfl
  | cons request rest ih =>
      obtain ⟨path, act⟩ := request
      have first := r.get?_serve path act outside
      have further := ih (r.serve path act).2 (by rwa [base_serve])
      obtain same | ⟨rfl, above, missing, made⟩ := first
      · obtain same' | ⟨⟨made_, asked⟩, above, missing, made⟩ := further
        · exact .inl (same'.trans same)
        · rw [base_serve] at above
          exact .inr ⟨⟨made_, List.mem_cons_of_mem _ asked⟩, above, same ▸ missing, made⟩
      · obtain same' | ⟨-, -, missing', -⟩ := further
        · exact .inr ⟨⟨path, List.mem_cons_self⟩, above, missing, same'.trans made⟩
        · rw [made] at missing'
          cases missing'

/-! ### The root stays where it is -/

/-- The root is a directory, and so is everything above it. -/
def Rooted (r : Root) : Prop := ∀ q, q <+: r.base → r.tree.get? q = some .directory

/-- A root that is there was not made. -/
theorem Rooted.not_madeAbove (rooted : r.Rooted) : ¬ r.MadeAbove r' q := by
  rintro ⟨above, missing, -⟩
  rw [rooted q above] at missing
  cases missing

/-- No operation that passes the gate takes the root away. -/
theorem Rooted.get?_perform (rooted : r.Rooted) (passed : r.gate act (some p) = none)
    (below : r.base <+: p) (above : q <+: r.base) :
    (r.tree.perform p act).2.get? q = some .directory := by
  have before := rooted q above
  by_cases inside : p <+: q
  · -- The place is the root itself, so it is no file, and the gate keeps it from being deleted.
    have top : p = r.base := (inside.trans above).eq_of_length_le below.length_le
    obtain rfl : q = p := by
      rw [top] at inside ⊢
      exact (inside.eq_of_length_le above.length_le).symm
    cases act with
    | read => exact before
    | isDirectory => exact before
    | makeDirectory =>
        obtain same | ⟨-, missing, -⟩ := r.tree.get?_makeDirectory q q
        · exact same.trans before
        · rw [before] at missing
          cases missing
    | write content =>
        rw [← before]
        apply Tree.get?_settled
        intro t written
        obtain ⟨-, x, found, other⟩ := Tree.eq_put_of_write written
        exact absurd ((Tree.eq_get?_of_look found).trans before) other
    | deleteFile =>
        rw [← before]
        apply Tree.get?_settled
        intro t deleted
        obtain ⟨-, content, found⟩ := Tree.eq_remove_of_deleteFile deleted
        cases (Tree.eq_get?_of_look found).trans before
    | deleteDirectory recursive => exact absurd top (ne_base_of_gate passed)
  · obtain same | ⟨-, -, missing, -⟩ := r.tree.get?_perform act inside
    · exact same.trans before
    · rw [before] at missing
      cases missing

theorem Rooted.serve (rooted : r.Rooted) (path : String) (act : Act) :
    (r.serve path act).2.Rooted := by
  cases passed : r.gate act (r.resolve? path) with
  | some answer =>
      rw [serve_of_gate passed]
      exact rooted
  | none =>
      obtain ⟨p, place⟩ := exists_place passed
      rw [serve_of_place passed place]
      rw [place] at passed
      intro q above
      exact rooted.get?_perform passed (prefix_of_resolve? place) above

/-- The root is there after all operations if it was there before them. -/
theorem Rooted.serveAll (rooted : r.Rooted) (requests : List (String × Act)) :
    (r.serveAll requests).2.Rooted := by
  induction requests generalizing r with
  | nil => exact rooted
  | cons request rest ih => exact ih (rooted.serve request.1 request.2)

/-! ### What is seen -/

/-- Places below the root or on the way to it. -/
def Near (r : Root) (q : Path) : Prop := r.base <+: q ∨ q <+: r.base

/-- Both hosts have the same files below the same root, and the same way to it. -/
structure SameNear (r r' : Root) : Prop where
  base : r'.base = r.base
  tellsDirectories : r'.tellsDirectories = r.tellsDirectories
  nodes : Tree.SameAt r.Near r.tree r'.tree

/-- What an operation answers depends on the files below the root and on the way to it only. -/
theorem SameNear.serve (same : r.SameNear r') (path : String) (act : Act) :
    (r'.serve path act).1 = (r.serve path act).1 ∧
      (r.serve path act).2.SameNear (r'.serve path act).2 := by
  have resolved : r'.resolve? path = r.resolve? path := by rw [resolve?, same.base, resolve?]
  have gates (place : Option Path) : r'.gate act place = r.gate act place := by
    cases act <;> cases place <;> simp [gate, same.base, same.tellsDirectories]
  have gates' : r'.gate act (r'.resolve? path) = r.gate act (r.resolve? path) := by
    rw [gates, resolved]
  cases passed : r.gate act (r.resolve? path) with
  | some answer =>
      rw [serve_of_gate passed, serve_of_gate (gates'.trans passed)]
      exact ⟨rfl, same⟩
  | none =>
      obtain ⟨p, place⟩ := exists_place passed
      rw [serve_of_place passed place, serve_of_place (gates'.trans passed) (resolved.trans place)]
      have below := prefix_of_resolve? place
      obtain ⟨answers, nodes⟩ := same.nodes.perform
        (fun q onWay => List.prefix_or_prefix_of_prefix below onWay)
        (fun q inside => .inl (below.trans inside)) act
      refine ⟨by rw [answers], ?_⟩
      exact ⟨same.base, same.tellsDirectories, nodes⟩

theorem SameNear.serveAll (same : r.SameNear r') (requests : List (String × Act)) :
    (r'.serveAll requests).1 = (r.serveAll requests).1 := by
  induction requests generalizing r r' with
  | nil => rfl
  | cons request rest ih =>
      obtain ⟨path, act⟩ := request
      obtain ⟨answer, same'⟩ := same.serve path act
      simp only [Root.serveAll, answer, ih same']

/-! ### Spellings -/

theorem mapError_mapError {ε ε' ε'' α : Type} (f : ε → ε') (g : ε' → ε'') (x : Except ε α) :
    (x.mapError f).mapError g = x.mapError (g ∘ f) := by
  cases x with
  | ok a => rfl
  | error e => rfl

/-- An operation does the same for every spelling of a place; only the text of a trouble shows the
spelling. -/
theorem serve_respelled (same : r.resolve? path' = r.resolve? path) (act : Act) :
    (r.serve path' act).2 = (r.serve path act).2 ∧
      ∃ answer : Except Trouble Response,
        (r.serve path act).1 = answer.mapError (·.message path) ∧
        (r.serve path' act).1 = answer.mapError (·.message path') := by
  cases passed : r.gate act (r.resolve? path) with
  | some answer =>
      have passed' : r.gate act (r.resolve? path') = some answer := by rw [same, passed]
      rw [serve_of_gate passed, serve_of_gate passed']
      exact ⟨rfl, answer, rfl, rfl⟩
  | none =>
      have passed' : r.gate act (r.resolve? path') = none := by rw [same, passed]
      obtain ⟨p, place⟩ := exists_place passed
      rw [serve_of_place passed place, serve_of_place passed' (same.trans place)]
      refine ⟨rfl, (r.tree.perform p act).1.mapError .failure, ?_, ?_⟩
      · rw [mapError_mapError]
        rfl
      · rw [mapError_mapError]
        rfl

theorem exists_of_change_eq_ok {change : Path → Except Failure Tree}
    (changed : r.change path change = .ok r') :
    ∃ p t, r.resolve? path = some p ∧ change p = .ok t ∧ r' = { r with tree := t } := by
  cases place : r.resolve? path with
  | none =>
      simp only [Root.change, at?, place] at changed
      cases changed
  | some p =>
      rw [Root.change, at?_of_place place] at changed
      cases done : change p with
      | error e =>
          rw [done] at changed
          cases changed
      | ok t =>
          rw [done] at changed
          exact ⟨p, t, rfl, done, (Except.ok.inj changed).symm⟩

/-- What was written under one spelling is read under another. -/
theorem read_of_write {content : String} (same : r.resolve? path' = r.resolve? path)
    (written : r.write path content = .ok r') : r'.read path' = .ok content := by
  obtain ⟨p, t, place, done, rfl⟩ := exists_of_change_eq_ok written
  have place' : resolve? { r with tree := t } path' = some p := same.trans place
  rw [Root.read, at?_of_place place', Tree.read_of_write done]
  rfl

/-- The root, and only the root, is refused to be deleted for what it is. -/
theorem deleteDirectory_eq_rootMessage_iff {recursive : Bool} :
    r.deleteDirectory path recursive = .error rootMessage ↔ r.resolve? path = some r.base := by
  constructor
  · intro refused
    by_contra other
    rw [deleteDirectory, if_neg other] at refused
    cases place : r.resolve? path with
    | none =>
        simp only [change, at?, place] at refused
        exact escapeMessage_ne_rootMessage path (Except.error.inj refused)
    | some p =>
        rw [change, at?_of_place place] at refused
        cases done : r.tree.deleteDirectory p recursive with
        | ok t =>
            rw [done] at refused
            cases refused
        | error e =>
            rw [done] at refused
            exact failureMessage_ne_rootMessage path e (Except.error.inj refused)
  · intro top
    exact if_pos top

end Root

/-! ### Confinement -/

/-- The place of a path is the root, followed by those of its components that say something, unless
one of them is a double dot; then it has none. -/
theorem Root.exists_components (r : Root) (path : String) :
    ∃ components, (∀ cs, Components path cs ↔ cs = components) ∧
      (r.resolve? path = none ↔ ".." ∈ components) ∧
      (".." ∉ components → r.resolve? path =
        some (r.base ++ components.filter fun c => c ≠ "" ∧ c ≠ ".")) := by
  refine ⟨parts path, fun cs => components_iff, ?_, ?_⟩
  · rw [Root.resolve?, Option.map_eq_none_iff, resolve?_eq_none_iff]
  · intro upward
    have named : (parts path).filter isName = (parts path).filter fun c => c ≠ "" ∧ c ≠ "." := by
      apply List.filter_congr
      intro c _
      rw [Bool.eq_iff_iff]
      simp [isName]
    have place : Files.resolve? path = some ((parts path).filter isName) := by
      simp [Files.resolve?, upward]
    rw [Root.resolve?, place, named]
    rfl

/-- Every operation on files is confined to the root: a path that leads out is refused; nothing
outside changes, except that a new directory comes with the missing ones above the root; of what is
outside only the way to the root is seen; spellings of one place are alike; and the root is not
deleted. -/
theorem files_confined (r : Root) :
    (∀ path, ∃ components, (∀ cs, Components path cs ↔ cs = components) ∧
      (r.resolve? path = none ↔ ".." ∈ components) ∧
      (".." ∉ components → r.resolve? path =
        some (r.base ++ components.filter fun c => c ≠ "" ∧ c ≠ "."))) ∧
    (∀ path act, r.resolve? path = none → r.serve path act =
      (if act = .isDirectory then .ok (.told false) else .error (escapeMessage path), r)) ∧
    (∀ path p, r.resolve? path = some p → ∀ act, r.base <+: p ∧
      ((r.serve path act).2 = r ∨
        (r.serve path act).2 = { r with tree := (r.tree.perform p act).2 })) ∧
    (∀ requests q, ¬ r.base <+: q →
      (r.serveAll requests).2.tree.get? q = r.tree.get? q ∨
        (∃ path, (path, Act.makeDirectory) ∈ requests) ∧
          r.MadeAbove (r.serveAll requests).2 q) ∧
    (∀ requests r', r.SameNear r' → (r'.serveAll requests).1 = (r.serveAll requests).1) ∧
    (r.Rooted → ∀ requests, (r.serveAll requests).2.Rooted ∧
      ∀ q, ¬ r.base <+: q → (r.serveAll requests).2.tree.get? q = r.tree.get? q) ∧
    (∀ path path', r.resolve? path' = r.resolve? path →
      (∀ act, (r.serve path' act).2 = (r.serve path act).2 ∧
        ∃ answer : Except Trouble Response,
          (r.serve path act).1 = answer.mapError (·.message path) ∧
          (r.serve path' act).1 = answer.mapError (·.message path')) ∧
      ∀ content r', r.write path content = .ok r' → r'.read path' = .ok content) ∧
    ∀ path recursive, r.deleteDirectory path recursive = .error rootMessage ↔
      r.resolve? path = some r.base := by
  refine ⟨r.exists_components, ?_, ?_, ?_, ?_, ?_, ?_, ?_⟩
  · intro path act out
    exact Root.serve_of_none out act
  · intro path p place act
    exact Root.serve_at_place place act
  · intro requests q outside
    exact r.get?_serveAll requests outside
  · intro requests r' same
    exact same.serveAll requests
  · intro rooted requests
    refine ⟨rooted.serveAll requests, ?_⟩
    intro q outside
    exact (r.get?_serveAll requests outside).resolve_right fun made => rooted.not_madeAbove made.2
  · intro path path' same
    constructor
    · intro act
      exact Root.serve_respelled same act
    · intro content r' written
      exact Root.read_of_write same written
  · intro path recursive
    exact Root.deleteDirectory_eq_rootMessage_iff

/-- A root with a file below it and another one beside it. -/
def guarded : Root where
  base := ["srv", "files"]
  tree := ⟨[(["srv"], .directory), (["srv", "files"], .directory),
    (["srv", "files", "a"], .directory), (["srv", "secret"], .file "hidden".toUTF8)]⟩

theorem guarded_rooted : guarded.Rooted := by
  intro q above
  have prefixes : q = [] ∨ q = ["srv"] ∨ q = ["srv", "files"] := by
    simpa [guarded] using (List.mem_inits q _).mpr above
  obtain rfl | rfl | rfl := prefixes
  · rfl
  · rfl
  · rfl

theorem guarded_confined :
    (guarded.resolve? "/.//a/b/." = some ["srv", "files", "a", "b"] ∧
      guarded.resolve? "a/b" = some ["srv", "files", "a", "b"]) ∧
    (∀ content r', guarded.write "/.//a/b/." content = .ok r' → r'.read "a/b" = .ok content) ∧
    guarded.serve "a/../../secret" .read =
      (.error (escapeMessage "a/../../secret"), guarded) ∧
    (∀ requests, (guarded.serveAll requests).2.tree.get? ["srv", "secret"] =
      guarded.tree.get? ["srv", "secret"]) ∧
    guarded.deleteDirectory ".//." true = .error rootMessage := by
  obtain ⟨-, out, -, -, -, inside, spellings, root⟩ := files_confined guarded
  have place : guarded.resolve? "/.//a/b/." = some ["srv", "files", "a", "b"] := by decide +kernel
  have place' : guarded.resolve? "a/b" = some ["srv", "files", "a", "b"] := by decide +kernel
  refine ⟨⟨place, place'⟩, ?_, ?_, ?_, ?_⟩
  · exact (spellings _ _ (place'.trans place.symm)).2
  · exact out _ .read (by decide +kernel)
  · intro requests
    exact (inside guarded_rooted requests).2 _ (by decide)
  · exact (root _ true).mpr (by decide +kernel)

/-- A root in a tree where nothing is, not even the directory above it. -/
def uprooted : Root where
  base := ["x", "y"]

/-- A new directory below it comes with the directory above it, which is neither the root nor below
the root. -/
theorem uprooted_makes_above :
    uprooted.resolve? "a" = some ["x", "y", "a"] ∧ ¬ uprooted.base <+: ["x"] ∧
      uprooted.tree.get? ["x"] = none ∧
      (uprooted.serve "a" .makeDirectory).1 = .ok .done ∧
      (uprooted.serve "a" .makeDirectory).2.tree.get? ["x"] = some .directory := by
  have place : uprooted.resolve? "a" = some ["x", "y", "a"] := by decide +kernel
  have made : uprooted.tree.makeDirectory ["x", "y", "a"] = (none,
      ⟨[(["x", "y", "a"], .directory), (["x", "y"], .directory), (["x"], .directory)]⟩) := by cbv
  refine ⟨place, by decide, rfl, ?_, ?_⟩
  · simp only [Root.serve, Root.makeDirectory, place, made]
    rfl
  · simp only [Root.serve, Root.makeDirectory, place, made]
    rfl

end HostScript.Files
