import HostScript.Arguments
import HostScript.Engine.Operations
import HostScript.Settings

/-! # The console program

The program that runs a script from the command line, as a function of what it
is given: arguments, standard input, the files in the working directory and the
usual settings file. Its report holds what it wrote, when and where, the files
afterwards and the exit code. What the runtime writes when the program breaks
down is not part of it. -/

namespace HostScript.Console

/-- What the program is given. -/
structure Setup where
  arguments : List String
  input : ByteArray := .empty
  /-- The files in the working directory. -/
  files : Files.Tree := {}
  /-- The usual settings file, if it exists: its path and its content. -/
  settings : Option (String × ByteArray) := none

/-- Where a text was written. -/
inductive Channel where
  | output | error
  deriving DecidableEq, Repr

/-- What the program did. -/
structure Report where
  exitCode : Nat
  /-- The texts that were written, with their times, in order. -/
  written : List (Nat × Channel × String)
  files : Files.Tree

namespace Report

/-- The text that was written to a channel. -/
def text (r : Report) (c : Channel) : String :=
  String.join ((r.written.filter fun e => e.2.1 = c).map fun e => e.2.2)

end Report

/-- The name of the program in messages. -/
def programName : String := "deskscript"

/-- The version, which scripts see as `$version`. -/
def version : String := "0.1.0"

/-- The explanation of the command line. -/
def usage : String :=
  String.intercalate "\n" [
    "Usage: deskscript [-f[<file>]] [-e<source>] [-t<ms>] [-w<ms>] [-i] [-d] [<script>]",
    "  -f<file>   load <file> as the config; a bare -f also takes the next argument,",
    "             so put the script first or write -f<file>; -f alone skips the config",
    "  -e<source> run <source> instead of a script file",
    "  -t<ms>     execution timeout",
    "  -w<ms>     keep handling events for <ms> after the script ends",
    "  -i         answer confirm/prompt on the terminal",
    "  -d         debug logging"]

/-- A message of the program. -/
def message (text : String) : String := programName ++ ": " ++ text ++ "\n"

/-- The text of bytes, or the failure that they are none. -/
def textOf (content : ByteArray) : Except Files.Failure String :=
  match String.fromUTF8? content with
  | some s => .ok s
  | none => .error .notText

/-- The limits of a settings file, and what is written about it. -/
def limitsOf (path : String) : Except Files.Failure String → Limits × List String
  | .error e => ({}, [message s!"warning: {path}: {e.message}"])
  | .ok text =>
    let (limits, errors) := Settings.read text
    (limits, errors.map fun e => s!" WARN {path}: config {e.describe}\n")

/-- The limits to run with, and what is written about the settings. -/
def loadLimits (setup : Setup) : SettingsFile → Limits × List String
  | .skip => ({}, [])
  | .file path => limitsOf path (setup.files.readNamed path)
  | .search =>
    match setup.settings with
    | none => ({}, [])
    | some (path, content) => limitsOf path (textOf content)

/-- The source text of the script. -/
def loadSource (setup : Setup) : ScriptSource → Except Files.Failure String
  | .inline source => .ok source
  | .file path => setup.files.readNamed path
  | .stdin => textOf setup.input

/-- The first line of an input, if it has one. -/
def firstLine? (input : ByteArray) : Option String :=
  let line := input.data.toList.takeWhile (· ≠ 10)
  if input.isEmpty then none
  else (String.fromUTF8? ⟨line.toArray⟩).map fun s => String.ofList (Text.dropLineEnd s.toList)

/-- Dialogs on the terminal. The first question takes the whole input and is answered by its
first line; later questions meet the end of the input. -/
def terminalDialogs (input : ByteArray) : Dialogs :=
  { replies := (firstLine? input).toList.map .line
    afterwards := .dropped 0
    showsLate := true }

/-- The host of the program. -/
def hostOf (setup : Setup) (a : Arguments) (epoch : Nat) : World :=
  { epoch
    bus := some {}
    hasSink := true
    files := some { tree := setup.files }
    dialogs :=
      if a.interactive then
        some (terminalDialogs (if a.source = .stdin then .empty else setup.input))
      else none }

/-- What the program writes for something that the host noted. -/
def written : HostNote → Channel × String
  | .print text => (.output, text ++ "\n")
  | .error text => (.error, message s!"handler error: {text}")
  | .alert text => (.output, Dialog.alertLine text ++ "\n")
  | .confirm text => (.output, Dialog.confirmQuestion text)
  | .prompt text default => (.output, Dialog.promptQuestion text default)
  | .command name _ _ => (.error, s!" DEBUG command {name}\n")

/-- The diagnostic of a fault, set in from the left. -/
def diagnostic (name : String) (f : Fault) : String :=
  let lines := (s!"{name}: {f.describe}" :: (f.hint?.map fun h => s!"help: {h}").toList).flatMap
    fun t => Text.splitOn ['\n'] t.toList
  String.join (lines.map fun l => "  " ++ String.ofList l ++ "\n")

/-- Run the script and then handle events for a while. -/
def runScript (allowance : Nat) (a : Arguments) (source : String) : Run (Except Fault Value) := do
  Run.change fun m => m.setVar "version" (.text version)
  let result ← Run.script allowance source
  match a.linger with
  | some ms => Run.pump allowance ms
  | none => Run.result ()
  Run.change Machine.cleanup
  return result

/-- The exit code of a program that breaks down. -/
def breakdownCode : Nat := 101

/-- Run the program with the arguments that were read. There is no report if the allowance was
too small. -/
def runWith (allowance epoch : Nat) (setup : Setup) (a : Arguments) : Option Report :=
  let (limits, warnings) := loadLimits setup a.settings
  let limits := { limits with timeout := a.timeout.getD limits.timeout }
  let before := warnings.map fun t => (0, Channel.error, t)
  match loadSource setup a.source with
  | .error e =>
    some { exitCode := 1
           written := before ++ [(0, .error, message s!"{a.source.name}: {e.message}")]
           files := setup.files }
  | .ok source =>
    let report (m : Machine) (exitCode : Nat) (after : List (Nat × Channel × String)) : Report :=
      { exitCode
        written := before ++ m.world.notes.reverse.map (fun (t, n) => (t, written n)) ++ after
        files := (m.world.files.map Files.Root.tree).getD setup.files }
    match runScript allowance a source { engine := { limits }, world := hostOf setup a epoch } with
    | .done (.ok _) m => some (report m 0 [])
    | .done (.error f) m =>
      some (report m 1 [(m.world.now, .error, diagnostic a.source.name f)])
    | .cut (.entangled _ _) m => some (report m breakdownCode [])
    | .cut .allowance _ => none
    | .fault _ _ => none

/-- Run the program. -/
def run (allowance epoch : Nat) (setup : Setup) : Option Report :=
  match Arguments.read setup.arguments with
  | .error e =>
    some { exitCode := 1
           written := [(0, .error, message e), (0, .error, usage ++ "\n")]
           files := setup.files }
  | .ok a => runWith allowance epoch setup a

end HostScript.Console
