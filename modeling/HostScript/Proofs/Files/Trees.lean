import HostScript.Files.Root
import Mathlib.Data.List.Infix

/-!
# Operations at a place of a tree

What an operation on files changes, and what it depends on, said by the node at each place. It
changes its own place and what lies below it, except that a new directory comes with the missing
ones above it. What it answers depends on the nodes on the way to its place and, when a directory is
deleted, on what lies below.

## Implementation notes

Nodes are kept in a list, of which only the first entry of a place counts. All lemmas look at a tree
through `get?`, so two trees are alike when they have the same nodes, however they are listed.
-/

namespace HostScript.Files

namespace Tree

variable {t t' : Tree} {p q dir : Path} {names : List String} {n : Node}

/-! ### Nodes -/

theorem lookup_filter (keeps : Path → Bool) (nodes : List (Path × Node)) (q : Path) :
    (nodes.filter fun e => keeps e.1).lookup q = if keeps q then nodes.lookup q else none := by
  induction nodes with
  | nil => simp
  | cons e rest ih =>
      obtain ⟨place, node⟩ := e
      by_cases here : q = place
      · subst here
        by_cases kept : keeps q = true
        · simp [kept]
        · simp [kept, ih]
      · have other : (q == place) = false := by simpa using here
        by_cases kept : keeps place = true
        · simp [List.lookup_cons, kept, other, ih]
        · simp [List.lookup_cons, kept, other, ih]

theorem get?_put_self (below : p ≠ []) : (t.put p n).get? p = some n := by
  simp [get?, put, below]

theorem get?_put_of_ne (ne : q ≠ p) : (t.put p n).get? q = t.get? q := by
  have other : (q == p) = false := by simpa using ne
  by_cases top : q = []
  · simp [get?, top]
  · simp only [get?, put, List.isEmpty_iff, if_neg top, List.lookup_cons, other]
    rw [lookup_filter fun place => place != p]
    simp [ne]

theorem get?_remove_outside (outside : ¬ p <+: q) : (t.remove p).get? q = t.get? q := by
  by_cases top : q = []
  · simp [get?, top]
  · simp only [get?, remove, List.isEmpty_iff, if_neg top]
    rw [lookup_filter fun place => !p.isPrefixOf place]
    simp [outside]

theorem get?_remove_below (below : q ≠ []) (inside : p <+: q) : (t.remove p).get? q = none := by
  simp only [get?, remove, List.isEmpty_iff, if_neg below]
  rw [lookup_filter fun place => !p.isPrefixOf place]
  simp [List.isPrefixOf_iff_prefix.mpr inside]

theorem hasChildren_iff :
    t.hasChildren p = true ↔ ∃ q, p <+: q ∧ q ≠ p ∧ (t.get? q).isSome = true := by
  have below {q : Path} (inside : p <+: q) (ne : q ≠ p) : q ≠ [] := by
    rintro rfl
    exact ne (List.prefix_nil.mp inside).symm
  constructor
  · intro found
    obtain ⟨e, mem, inside⟩ := List.any_eq_true.mp found
    simp only [Bool.and_eq_true, List.isPrefixOf_iff_prefix, bne_iff_ne] at inside
    refine ⟨e.1, inside.1, inside.2, ?_⟩
    rw [get?, if_neg (by simpa using below inside.1 inside.2), List.lookup_isSome_iff]
    exact ⟨e, mem, by simp⟩
  · rintro ⟨q, inside, ne, some_⟩
    rw [get?, if_neg (by simpa using below inside ne), List.lookup_isSome_iff] at some_
    obtain ⟨e, mem, same⟩ := some_
    obtain rfl : q = e.1 := by simpa using same
    apply List.any_eq_true.mpr
    exact ⟨e, mem, by simp [inside, ne]⟩

/-! ### The way to a place -/

/-- What is found at the end of the way is the node there. -/
theorem eq_get?_of_lookFrom {x : Option Node} (found : t.lookFrom dir names = .ok x) :
    x = t.get? (dir ++ names) := by
  induction names generalizing dir with
  | nil =>
      rw [List.append_nil]
      exact (Except.ok.inj found).symm
  | cons name rest ih =>
      rw [List.append_cons]
      simp only [lookFrom] at found
      split at found
      · cases found
      · split at found
        · next last =>
          rw [List.isEmpty_iff.mp last, List.append_nil]
          exact (Except.ok.inj found).symm
        · split at found
          · cases found
          · cases found
          · exact ih found

theorem eq_get?_of_look {x : Option Node} (found : t.look p = .ok x) : x = t.get? p := by
  simp only [look] at found
  split at found
  · cases found
  · exact eq_get?_of_lookFrom found

/-- The way to a place passes the places above it and no others. -/
theorem lookFrom_congr (same : ∀ q, q <+: dir ++ names → t'.get? q = t.get? q) :
    t'.lookFrom dir names = t.lookFrom dir names := by
  induction names generalizing dir with
  | nil =>
      simp only [lookFrom]
      rw [same dir (List.prefix_append _ _)]
  | cons name rest ih =>
      rw [List.append_cons] at same
      have here := same (dir ++ [name]) (List.prefix_append _ _)
      simp only [lookFrom, here, ih same]

theorem look_congr (same : ∀ q, q <+: p → t'.get? q = t.get? q) : t'.look p = t.look p := by
  have way : t'.lookFrom [] p = t.lookFrom [] p := lookFrom_congr same
  simp only [look, way]

/-- A node that is put where a way ends is found there. -/
theorem lookFrom_put {x : Option Node} (some_ : names ≠ [])
    (found : t.lookFrom dir names = .ok x) :
    (t.put (dir ++ names) n).lookFrom dir names = .ok (some n) := by
  induction names generalizing dir with
  | nil => exact absurd rfl some_
  | cons name rest ih =>
      rw [List.append_cons]
      simp only [lookFrom] at found ⊢
      split at found
      · cases found
      · next short =>
        rw [if_neg short]
        by_cases last : rest = []
        · simp [last, get?_put_self]
        · have above : dir ++ [name] ≠ dir ++ [name] ++ rest := by simpa using Ne.symm last
          rw [if_neg (by simpa using last)] at found ⊢
          rw [get?_put_of_ne above]
          split at found
          · cases found
          · cases found
          · next node => exact ih last found

/-! ### Making directories -/

/-- The directories that are made were missing, and lie on the way. -/
theorem get?_makeFrom (t : Tree) (dir : Path) (names : List String) (q : Path) :
    (t.makeFrom dir names).2.get? q = t.get? q ∨
      q <+: dir ++ names ∧ t.get? q = none ∧
        (t.makeFrom dir names).2.get? q = some .directory := by
  induction names generalizing t dir with
  | nil => exact .inl rfl
  | cons name rest ih =>
      rw [List.append_cons]
      simp only [makeFrom]
      split
      · exact .inl rfl
      · split
        · next missing =>
          have made : ((t.put (dir ++ [name]) .directory).get? (dir ++ [name])) =
              some .directory := get?_put_self (by simp)
          obtain same | ⟨onWay, none_, after⟩ :=
            ih (t.put (dir ++ [name]) .directory) (dir ++ [name])
          · by_cases here : q = dir ++ [name]
            · subst here
              exact .inr ⟨List.prefix_append _ _, missing, same.trans made⟩
            · exact .inl (same.trans (get?_put_of_ne here))
          · have elsewhere : q ≠ dir ++ [name] := by
              rintro rfl
              rw [made] at none_
              cases none_
            rw [get?_put_of_ne elsewhere] at none_
            exact .inr ⟨onWay, none_, after⟩
        · exact ih t (dir ++ [name])
        · exact .inl rfl

end Tree

/-! ### Operations -/

/-- What can be asked at a place. -/
inductive Act where
  | read
  | write (content : String)
  | makeDirectory
  | deleteFile
  | deleteDirectory (recursive : Bool)
  | isDirectory
  deriving DecidableEq

/-- What is answered. -/
inductive Response where
  | text (s : String)
  | told (yes : Bool)
  | done
  deriving DecidableEq

namespace Tree

/-- The answer to a change, and the tree after it: the old one if the change failed. -/
def settled (t : Tree) : Except Failure Tree → Except Failure Response × Tree
  | .ok t' => (.ok .done, t')
  | .error e => (.error e, t)

/-- Carry out an operation at a place. -/
def perform (t : Tree) (p : Path) : Act → Except Failure Response × Tree
  | .read => ((t.read p).map .text, t)
  | .write content => t.settled (t.write p content)
  | .makeDirectory => ((t.makeDirectory p).1.elim (.ok .done) .error, (t.makeDirectory p).2)
  | .deleteFile => t.settled (t.deleteFile p)
  | .deleteDirectory recursive => t.settled (t.deleteDirectory p recursive)
  | .isDirectory => (.ok (.told (t.isDirectory p)), t)

variable {t t' : Tree} {p q : Path} {content : String} {recursive : Bool}

/-! What a change that succeeds makes of the tree. -/

theorem eq_put_of_write (written : t.write p content = .ok t') :
    t' = t.put p (.file content.toUTF8) ∧ ∃ x, t.look p = .ok x ∧ x ≠ some .directory := by
  simp only [write] at written
  split at written
  · cases written
  · cases written
  · next x other found => exact ⟨(Except.ok.inj written).symm, x, found, other⟩

theorem eq_remove_of_deleteFile (deleted : t.deleteFile p = .ok t') :
    t' = t.remove p ∧ ∃ content, t.look p = .ok (some (.file content)) := by
  simp only [deleteFile] at deleted
  split at deleted
  · cases deleted
  · cases deleted
  · cases deleted
  · next content found => exact ⟨(Except.ok.inj deleted).symm, content, found⟩

theorem eq_remove_of_deleteDirectory (deleted : t.deleteDirectory p recursive = .ok t') :
    t' = t.remove p := by
  simp only [deleteDirectory] at deleted
  split at deleted
  · cases deleted
  · cases deleted
  · cases deleted
  · split at deleted
    · cases deleted
    · exact (Except.ok.inj deleted).symm

theorem get?_makeDirectory (t : Tree) (p q : Path) :
    (t.makeDirectory p).2.get? q = t.get? q ∨
      q <+: p ∧ t.get? q = none ∧ (t.makeDirectory p).2.get? q = some .directory := by
  simp only [makeDirectory]
  split
  · exact .inl rfl
  · exact t.get?_makeFrom [] p q

/-- A change that removes or puts a node leaves other places alone. -/
theorem get?_settled {change : Except Failure Tree}
    (kept : ∀ t', change = .ok t' → t'.get? q = t.get? q) :
    (t.settled change).2.get? q = t.get? q := by
  cases change with
  | error e => rfl
  | ok t' => exact kept t' rfl

/-- An operation changes its place and what lies below it, except for missing directories on the
way to a new one. -/
theorem get?_perform (t : Tree) (act : Act) (outside : ¬ p <+: q) :
    (t.perform p act).2.get? q = t.get? q ∨
      act = .makeDirectory ∧ q <+: p ∧ t.get? q = none ∧
        (t.perform p act).2.get? q = some .directory := by
  have ne : q ≠ p := by
    rintro rfl
    exact outside List.prefix_rfl
  cases act with
  | read => exact .inl rfl
  | isDirectory => exact .inl rfl
  | write content =>
      apply Or.inl
      apply get?_settled
      intro t' written
      rw [(eq_put_of_write written).1, get?_put_of_ne ne]
  | makeDirectory => exact (t.get?_makeDirectory p q).imp_right fun made => ⟨rfl, made⟩
  | deleteFile =>
      apply Or.inl
      apply get?_settled
      intro t' deleted
      rw [(eq_remove_of_deleteFile deleted).1, get?_remove_outside outside]
  | deleteDirectory recursive =>
      apply Or.inl
      apply get?_settled
      intro t' deleted
      rw [eq_remove_of_deleteDirectory deleted, get?_remove_outside outside]

/-! ### Trees that agree -/

section Agreement

variable {S : Path → Prop}

/-- Both trees have the same nodes at the places. -/
def SameAt (S : Path → Prop) (t t' : Tree) : Prop := ∀ q, S q → t'.get? q = t.get? q

theorem SameAt.put (same : SameAt S t t') (p : Path) (n : Node) :
    SameAt S (t.put p n) (t'.put p n) := by
  intro q near
  by_cases here : q = p
  · subst here
    by_cases top : q = []
    · simp [get?, top]
    · rw [get?_put_self top, get?_put_self top]
  · rw [get?_put_of_ne here, get?_put_of_ne here, same q near]

theorem SameAt.remove (same : SameAt S t t') (p : Path) : SameAt S (t.remove p) (t'.remove p) := by
  intro q near
  by_cases inside : p <+: q
  · by_cases top : q = []
    · simp [get?, top]
    · rw [get?_remove_below top inside, get?_remove_below top inside]
  · rw [get?_remove_outside inside, get?_remove_outside inside, same q near]

/-- Directories are made alike in trees that agree on the way. -/
theorem SameAt.makeFrom {dir : Path} {names : List String} (same : SameAt S t t')
    (onWay : ∀ q, q <+: dir ++ names → S q) :
    (t'.makeFrom dir names).1 = (t.makeFrom dir names).1 ∧
      SameAt S (t.makeFrom dir names).2 (t'.makeFrom dir names).2 := by
  induction names generalizing t t' dir with
  | nil => exact ⟨rfl, same⟩
  | cons name rest ih =>
      rw [List.append_cons] at onWay
      have here := same (dir ++ [name]) (onWay _ (List.prefix_append _ _))
      simp only [Tree.makeFrom, here]
      split
      · exact ⟨rfl, same⟩
      · split
        · exact ih (same.put _ _) onWay
        · exact ih same onWay
        · exact ⟨rfl, same⟩

/-- Changes that fail for the same reason, or end with trees that agree. -/
inductive Matching (S : Path → Prop) : Except Failure Tree → Except Failure Tree → Prop
  | failed (e : Failure) : Matching S (.error e) (.error e)
  | changed {t t' : Tree} (same : SameAt S t t') : Matching S (.ok t) (.ok t')

theorem Matching.settled {change change' : Except Failure Tree} (same : SameAt S t t')
    (matching : Matching S change change') :
    (t'.settled change').1 = (t.settled change).1 ∧
      SameAt S (t.settled change).2 (t'.settled change').2 := by
  cases matching with
  | failed e => exact ⟨rfl, same⟩
  | changed same' => exact ⟨rfl, same'⟩

/-- An operation looks at the way to its place and at what lies below it, and at nothing else. -/
theorem SameAt.perform (same : SameAt S t t') (onWay : ∀ q, q <+: p → S q)
    (below : ∀ q, p <+: q → S q) (act : Act) :
    (t'.perform p act).1 = (t.perform p act).1 ∧
      SameAt S (t.perform p act).2 (t'.perform p act).2 := by
  have looked : t'.look p = t.look p := look_congr fun q above => same q (onWay q above)
  cases act with
  | read =>
      refine ⟨?_, same⟩
      simp only [Tree.perform, Tree.read, looked]
  | isDirectory =>
      refine ⟨?_, same⟩
      simp only [Tree.perform, Tree.isDirectory, looked]
  | write content =>
      apply Matching.settled same
      simp only [Tree.write, looked]
      split
      · exact .failed _
      · exact .failed _
      · exact .changed (same.put p _)
  | makeDirectory =>
      have made : (t'.makeDirectory p).1 = (t.makeDirectory p).1 ∧
          SameAt S (t.makeDirectory p).2 (t'.makeDirectory p).2 := by
        simp only [Tree.makeDirectory]
        split
        · exact ⟨rfl, same⟩
        · exact same.makeFrom onWay
      refine ⟨?_, made.2⟩
      simp only [Tree.perform, made.1]
  | deleteFile =>
      apply Matching.settled same
      simp only [Tree.deleteFile, looked]
      split
      · exact .failed _
      · exact .failed _
      · exact .failed _
      · exact .changed (same.remove p)
  | deleteDirectory recursive =>
      apply Matching.settled same
      have children : t'.hasChildren p = t.hasChildren p := by
        rw [Bool.eq_iff_iff, hasChildren_iff, hasChildren_iff]
        apply exists_congr
        intro q
        apply and_congr_right
        intro inside
        rw [same q (below q inside)]
      simp only [Tree.deleteDirectory, looked, children]
      split
      · exact .failed _
      · exact .failed _
      · exact .failed _
      · split
        · exact .failed _
        · exact .changed (same.remove p)

end Agreement

/-- What was written to a file is read from it. -/
theorem read_of_write (written : t.write p content = .ok t') : t'.read p = .ok content := by
  obtain ⟨rfl, x, found, other⟩ := eq_put_of_write written
  have below : p ≠ [] := by
    rintro rfl
    exact other (eq_get?_of_look found)
  have looked : (t.put p (.file content.toUTF8)).look p = .ok (some (.file content.toUTF8)) := by
    simp only [look] at found ⊢
    split at found
    · cases found
    · next named =>
      rw [if_neg named]
      exact lookFrom_put below found
  have text : String.fromUTF8? content.toUTF8 = some content := dif_pos content.isValidUTF8
  simp only [read, looked, text]

end Tree

end HostScript.Files
