import HostScript.Files.Tree

/-! # Files below one root

The file operations of scripts. The root is a directory of a tree, and paths
are resolved below it; a failure names the path as the script wrote it. The
root itself cannot be deleted. -/

namespace HostScript.Files

/-- The text of a path that leads out of the root. -/
def escapeMessage (path : String) : String :=
  s!"path escapes the file system root: {path}"

/-- The text of a failed operation. -/
def failureMessage (path : String) (e : Failure) : String := s!"{path}: {e.message}"

/-- The text of the refusal to delete the root. -/
def rootMessage : String := "refusing to delete the file system root"

/-- Files below a root, as a host offers them to scripts. -/
structure Root where
  tree : Tree := {}
  /-- The place of the root in the tree. -/
  base : Path := []
  /-- Whether the host can tell directories from files. -/
  tellsDirectories : Bool := true

namespace Root

/-- The place in the tree that a path stands for. -/
def resolve? (r : Root) (path : String) : Option Path :=
  (Files.resolve? path).map (r.base ++ ·)

/-- Resolve a path and carry out an operation at its place. -/
def at? {α : Type} (r : Root) (path : String) (act : Path → Except Failure α) :
    Except String α :=
  match r.resolve? path with
  | none => .error (escapeMessage path)
  | some p =>
    match act p with
    | .ok a => .ok a
    | .error e => .error (failureMessage path e)

/-- The text of a file. -/
def read (r : Root) (path : String) : Except String String :=
  r.at? path r.tree.read

/-- Carry out an operation that changes the tree. -/
def change (r : Root) (path : String) (act : Path → Except Failure Tree) : Except String Root :=
  match r.at? path act with
  | .ok tree => .ok { r with tree }
  | .error e => .error e

/-- Write a file. -/
def write (r : Root) (path content : String) : Except String Root :=
  r.change path fun p => r.tree.write p content

/-- Delete a file. -/
def deleteFile (r : Root) (path : String) : Except String Root :=
  r.change path r.tree.deleteFile

/-- Make a directory and those above it. Directories made before a failure stay. -/
def makeDirectory (r : Root) (path : String) : Option String × Root :=
  match r.resolve? path with
  | none => (some (escapeMessage path), r)
  | some p =>
    let (failure, tree) := r.tree.makeDirectory p
    (failure.map (failureMessage path), { r with tree })

/-- Delete a directory below the root. -/
def deleteDirectory (r : Root) (path : String) (recursive : Bool) : Except String Root :=
  if r.resolve? path = some r.base then .error rootMessage
  else r.change path fun p => r.tree.deleteDirectory p recursive

/-- The path leads to a directory. -/
def isDirectory (r : Root) (path : String) : Bool :=
  r.tellsDirectories && match r.resolve? path with
    | some p => r.tree.isDirectory p
    | none => false

/-- Delete a directory or a file, whichever the path leads to. -/
def delete (r : Root) (path : String) (recursive : Bool) : Except String Root :=
  if r.isDirectory path then r.deleteDirectory path recursive else r.deleteFile path

end Root

end HostScript.Files
