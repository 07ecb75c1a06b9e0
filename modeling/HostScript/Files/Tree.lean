import HostScript.Files.Path
import HostScript.Text.Utf8

/-! # File trees

The files and directories below a root. Operations fail as the operating system
makes them fail: names are looked up from the left, and the first name that
cannot be passed decides the failure. -/

namespace HostScript.Files

/-- Why an operation on files failed. -/
inductive Failure where
  | notFound | exists | notDirectory | isDirectory | nameTooLong | notEmpty
  /-- The content of a file is no text. -/
  | notText
  /-- A name has a character that no name can have. -/
  | badName
  deriving DecidableEq, Repr

/-- The text of a failure. -/
def Failure.message : Failure → String
  | .notFound => "No such file or directory (os error 2)"
  | .exists => "File exists (os error 17)"
  | .notDirectory => "Not a directory (os error 20)"
  | .isDirectory => "Is a directory (os error 21)"
  | .nameTooLong => "File name too long (os error 36)"
  | .notEmpty => "Directory not empty (os error 39)"
  | .notText => "stream did not contain valid UTF-8"
  | .badName => "file name contained an unexpected NUL byte"

/-- What a path can lead to. -/
inductive Node where
  | file (content : ByteArray)
  | directory

/-- The files and directories below a root; the parent of each is a directory. -/
structure Tree where
  nodes : List (Path × Node) := []

/-- The bytes of the longest name. -/
def maxNameBytes : Nat := 255

/-- Names cannot be longer than a fixed number of bytes. -/
def nameTooLong (name : String) : Bool := name.utf8ByteSize > maxNameBytes

namespace Tree

/-- The node at a place; the root is a directory. -/
def get? (t : Tree) (p : Path) : Option Node :=
  if p.isEmpty then some .directory else t.nodes.lookup p

/-- Put a node at a place. -/
def put (t : Tree) (p : Path) (n : Node) : Tree :=
  ⟨(p, n) :: t.nodes.filter fun e => e.1 != p⟩

/-- Remove a place and everything below it. -/
def remove (t : Tree) (p : Path) : Tree :=
  ⟨t.nodes.filter fun e => !p.isPrefixOf e.1⟩

/-- Something lies below a place. -/
def hasChildren (t : Tree) (p : Path) : Bool :=
  t.nodes.any fun e => p.isPrefixOf e.1 && e.1 != p

/-- Look up names from the directory `dir`. The last name may be missing, all others must
be directories. -/
def lookFrom (t : Tree) (dir : Path) : List String → Except Failure (Option Node)
  | [] => .ok (t.get? dir)
  | name :: rest =>
    if nameTooLong name then .error .nameTooLong
    else
      let here := dir ++ [name]
      if rest.isEmpty then .ok (t.get? here)
      else match t.get? here with
        | none => .error .notFound
        | some (.file _) => .error .notDirectory
        | some .directory => t.lookFrom here rest

/-- Look up a place; its last name may be missing. -/
def look (t : Tree) (p : Path) : Except Failure (Option Node) :=
  if p.any fun name => name.contains '\x00' then .error .badName else t.lookFrom [] p

/-- The content of a file as text. -/
def read (t : Tree) (p : Path) : Except Failure String :=
  match t.look p with
  | .error e => .error e
  | .ok none => .error .notFound
  | .ok (some .directory) => .error .isDirectory
  | .ok (some (.file content)) =>
    match String.fromUTF8? content with
    | some s => .ok s
    | none => .error .notText

/-- Walk from the directory `dir` along the parts of a path, as the operating system does.
Nothing is known outside the tree. -/
def walkFrom (t : Tree) (dir : Path) : List String → Except Failure Path
  | [] => .ok dir
  | part :: rest =>
    if !isName part then t.walkFrom dir rest
    else if part = ".." then
      if dir.isEmpty then .error .notFound else t.walkFrom dir.dropLast rest
    else if nameTooLong part then .error .nameTooLong
    else
      let here := dir ++ [part]
      if rest.isEmpty then .ok here
      else match t.get? here with
        | none => .error .notFound
        | some (.file _) => .error .notDirectory
        | some .directory => t.walkFrom here rest

/-- The text of a file that is named as on a command line. -/
def readNamed (t : Tree) (path : String) : Except Failure String :=
  if path.toList.head?.all (· = '/') then .error .notFound
  else do
    let p ← t.walkFrom [] (parts path)
    t.read p

/-- Write a file, which may exist. -/
def write (t : Tree) (p : Path) (content : String) : Except Failure Tree :=
  match t.look p with
  | .error e => .error e
  | .ok (some .directory) => .error .isDirectory
  | .ok _ => .ok (t.put p (.file content.toUTF8))

/-- Make the directories on the way from `dir`; what was made before a failure stays. -/
def makeFrom (t : Tree) (dir : Path) : List String → Option Failure × Tree
  | [] => (none, t)
  | name :: rest =>
    if nameTooLong name then (some .nameTooLong, t)
    else
      let here := dir ++ [name]
      match t.get? here with
      | none => (t.put here .directory).makeFrom here rest
      | some .directory => t.makeFrom here rest
      | some (.file _) => (some (if rest.isEmpty then .exists else .notDirectory), t)

/-- Make a directory and those above it. -/
def makeDirectory (t : Tree) (p : Path) : Option Failure × Tree :=
  if p.any fun name => name.contains '\x00' then (some .badName, t) else t.makeFrom [] p

/-- Delete a file. -/
def deleteFile (t : Tree) (p : Path) : Except Failure Tree :=
  match t.look p with
  | .error e => .error e
  | .ok none => .error .notFound
  | .ok (some .directory) => .error .isDirectory
  | .ok (some (.file _)) => .ok (t.remove p)

/-- Delete a directory, with all that it holds if `recursive`. -/
def deleteDirectory (t : Tree) (p : Path) (recursive : Bool) : Except Failure Tree :=
  match t.look p with
  | .error e => .error e
  | .ok none => .error .notFound
  | .ok (some (.file _)) => .error .notDirectory
  | .ok (some .directory) =>
    if !recursive && t.hasChildren p then .error .notEmpty else .ok (t.remove p)

/-- A place is a directory. -/
def isDirectory (t : Tree) (p : Path) : Bool :=
  match t.look p with
  | .ok (some .directory) => true
  | _ => false

/-- The path of a place as text. -/
def pathText (p : Path) : String := String.intercalate "/" p

/-- The files and directories in order of their paths; a directory has no text. -/
def listing (t : Tree) : List (String × Option String) :=
  let entries := t.nodes.map fun e =>
    (pathText e.1, match e.2 with
      | .file content => some (Text.ofBytesReplacing content)
      | .directory => none)
  entries.mergeSort fun a b => decide (a.1 ≤ b.1)

/-- Put a file into a tree together with the directories above it. -/
def withFile (t : Tree) (p : Path) (content : ByteArray) : Tree :=
  (t.makeFrom [] p.dropLast).2.put p (.file content)

/-- Put a directory into a tree together with those above it. -/
def withDirectory (t : Tree) (p : Path) : Tree := (t.makeFrom [] p).2

end Tree

end HostScript.Files
