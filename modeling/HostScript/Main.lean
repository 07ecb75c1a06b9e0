import HostScript.Console.Program
import Std.Time.DateTime.Timestamp

/-! # The command line

Reads what the console program is given, runs it, and carries out its report:
texts are written at their times, and files that differ afterwards are written
to the working directory. -/

namespace HostScript.Console

/-- More levels and steps than a script can take. -/
def allowance : Nat := 0xFFFFFFFFFFFFFFFFFFFFFFFF

/-- The name of the usual settings file below the directory for settings. -/
def settingsName : String := programName ++ "/" ++ programName ++ ".conf"

/-- The path of the usual settings file, if there is a place for it. -/
def settingsPath? : IO (Option String) := do
  match ← IO.getEnv "XDG_CONFIG_HOME" with
  | some dir => return some (dir ++ "/" ++ settingsName)
  | none => return (← IO.getEnv "HOME").map fun home => home ++ "/.config/" ++ settingsName

/-- The usual settings file, if it exists. -/
def readSettings : IO (Option (String × ByteArray)) := do
  match ← settingsPath? with
  | none => return none
  | some path =>
    try return some (path, ← IO.FS.readBinFile path)
    catch _ => return none

/-- The files in the working directory. -/
def readFiles : IO Files.Tree := do
  let root ← IO.currentDir
  let skipped := root.components.length
  let mut tree : Files.Tree := {}
  for path in ← root.walkDir do
    let place := path.components.drop skipped
    if ← path.isDir then tree := tree.withDirectory place
    else
      try tree := tree.withFile place (← IO.FS.readBinFile path)
      catch _ => continue
  return tree

/-- Write to the working directory what changed in its files. -/
def writeFiles (before after : Files.Tree) : IO Unit := do
  let gone := (before.nodes.filter fun e => (after.get? e.1).isNone).mergeSort
    fun a b => decide (b.1.length ≤ a.1.length)
  for (place, node) in gone do
    match node with
    | .file _ => IO.FS.removeFile (Files.Tree.pathText place)
    | .directory => IO.FS.removeDir (Files.Tree.pathText place)
  let kept := after.nodes.mergeSort fun a b => decide (a.1.length ≤ b.1.length)
  for (place, node) in kept do
    match node, before.get? place with
    | .file content, some (.file old) =>
      if content != old then IO.FS.writeBinFile (Files.Tree.pathText place) content
    | .file content, _ => IO.FS.writeBinFile (Files.Tree.pathText place) content
    | .directory, some .directory => pure ()
    | .directory, _ => IO.FS.createDirAll (Files.Tree.pathText place)

/-- The program reads its standard input. -/
def readsInput (args : List String) : Bool :=
  match Arguments.read args with
  | .ok a => a.interactive || a.source == .stdin
  | .error _ => false

/-- Write texts at their times; `now` is the time of the text before. -/
def writeAll (now : Nat) : List (Nat × Channel × String) → IO Unit
  | [] => pure ()
  | (time, channel, text) :: rest => do
    if now < time then IO.sleep (UInt32.ofNat (time - now))
    match channel with
    | .output => do
      IO.print text
      (← IO.getStdout).flush
    | .error => IO.eprint text
    writeAll (max now time) rest

end HostScript.Console

/-- Run the console program. -/
def main (args : List String) : IO UInt32 := do
  let input ← if HostScript.Console.readsInput args then (← IO.getStdin).readBinToEnd
    else pure ByteArray.empty
  let files ← HostScript.Console.readFiles
  let settings ← HostScript.Console.readSettings
  let epoch := (← Std.Time.Timestamp.now).toMillisecondsSinceUnixEpoch.val.toNat
  match HostScript.Console.run HostScript.Console.allowance epoch
      { arguments := args, input, files, settings } with
  | none => return 1
  | some report =>
    HostScript.Console.writeAll 0 report.written
    HostScript.Console.writeFiles files report.files
    return UInt32.ofNat report.exitCode
