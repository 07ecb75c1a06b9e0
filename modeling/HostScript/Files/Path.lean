import HostScript.Text.Search

/-! # Paths

Scripts name files by paths below one root, whether or not the path starts with
a slash. Empty parts and single dots say nothing; a path with a double dot is
refused. Main statement: `resolve?_eq_none_iff`, a path is refused exactly when
one of its parts is a double dot. -/

namespace HostScript.Files

/-- The names that lead from the root to a file or directory. -/
abbrev Path := List String

/-- The parts of a path between slashes. -/
def parts (path : String) : List String :=
  (Text.splitOn ['/'] path.toList).map String.ofList

/-- The part names something. -/
def isName (part : String) : Bool := part != "" && part != "."

/-- The place that a path stands for, below the root. -/
def resolve? (path : String) : Option Path :=
  if (parts path).contains ".." then none else some ((parts path).filter isName)

theorem resolve?_eq_none_iff (path : String) : resolve? path = none ↔ ".." ∈ parts path := by
  simp [resolve?]

end HostScript.Files
