import HostScript.Number.Reading

/-! # Command-line arguments

Options are single letters behind a dash and may be bundled. The options `e`,
`t` and `w` take a value, which is the rest of the bundle or else the next
argument. The option `f` takes a file in the same way, unless the next argument
starts with a dash. A double dash ends the options. -/

namespace HostScript

/-- Which settings file to read. -/
inductive SettingsFile where
  /-- The usual one, if it exists. -/
  | search
  /-- None. -/
  | skip
  | file (path : String)
  deriving DecidableEq, Repr

/-- Where the script comes from. -/
inductive ScriptSource where
  | stdin
  | inline (source : String)
  | file (path : String)
  deriving DecidableEq, Repr

/-- The name of a source in messages. -/
def ScriptSource.name : ScriptSource → String
  | .stdin => "<stdin>"
  | .inline _ => "<inline>"
  | .file path => path

/-- What the command line asks for. -/
structure Arguments where
  settings : SettingsFile := .search
  source : ScriptSource := .stdin
  /-- The time budget in milliseconds, if it is given. -/
  timeout : Option Nat := none
  /-- How long events are handled after the script, in milliseconds. -/
  linger : Option Nat := none
  interactive : Bool := false
  debug : Bool := false
  deriving DecidableEq, Repr

namespace Arguments

/-- Options that take a value. -/
inductive ValueOption where
  | settings | inline | timeout | linger
  deriving DecidableEq, Repr

/-- The letter of an option that takes a value. -/
def ValueOption.letter : ValueOption → Char
  | .settings => 'f'
  | .inline => 'e'
  | .timeout => 't'
  | .linger => 'w'

/-- The option that takes a value with the given letter. -/
def ValueOption.ofLetter? : Char → Option ValueOption
  | 'f' => some .settings
  | 'e' => some .inline
  | 't' => some .timeout
  | 'w' => some .linger
  | _ => none

/-- The number of milliseconds in the value of an option. -/
def millis (o : ValueOption) (value : String) : Except String Nat :=
  match Number.wordOf? value with
  | some n => .ok n
  | none => .error s!"-{o.letter}: invalid milliseconds: {value}"

/-- Give an option its value. -/
def setOption (a : Arguments) (o : ValueOption) (value : String) : Except String Arguments :=
  match o with
  | .settings => .ok { a with settings := .file value }
  | .inline => .ok { a with source := .inline value }
  | .timeout => do return { a with timeout := some (← millis o value) }
  | .linger => do return { a with linger := some (← millis o value) }

/-- Read a bundle of letters; the last one may be an option that still wants its value. -/
def readLetters (a : Arguments) : List Char → Except String (Arguments × Option ValueOption)
  | [] => .ok (a, none)
  | c :: rest =>
    if c = 'd' then readLetters { a with debug := true } rest
    else if c = 'i' then readLetters { a with interactive := true } rest
    else match ValueOption.ofLetter? c with
      | none => .error s!"unknown option: -{c}"
      | some o =>
        if rest.isEmpty then .ok (a, some o)
        else do return (← a.setOption o (String.ofList rest), none)

/-- Read an argument when no option wants a value; other arguments are gathered. -/
def readArgument (a : Arguments) (others : List String) (arg : String) :
    Except String (Arguments × List String × Option ValueOption) :=
  match arg.toList with
  | '-' :: c :: letters => do
    let (a, wanting) ← a.readLetters (c :: letters)
    return (a, others, wanting)
  | _ => .ok (a, others ++ [arg], none)

/-- Read arguments from the left; `wanting` is an option that wants the next argument. -/
def readFrom (a : Arguments) (others : List String) (wanting : Option ValueOption) :
    List String → Except String (Arguments × List String)
  | [] =>
    match wanting with
    | none => .ok (a, others)
    | some .settings => .ok ({ a with settings := .skip }, others)
    | some o => .error s!"-{o.letter} requires an argument"
  | arg :: rest =>
    let plain (a : Arguments) : Except String (Arguments × List String) :=
      if arg = "--" then .ok (a, others ++ rest)
      else match a.readArgument others arg with
        | .ok (a, others, wanting) => readFrom a others wanting rest
        | .error e => .error e
    match wanting with
    | none => plain a
    | some .settings =>
      if arg.toList.head? = some '-' then plain { a with settings := .skip }
      else readFrom { a with settings := .file arg } others none rest
    | some o =>
      match a.setOption o arg with
      | .ok a => readFrom a others none rest
      | .error e => .error e

/-- Use the arguments that are no options: at most one, the script. -/
def withOthers (a : Arguments) : List String → Except String Arguments
  | [] => .ok a
  | [path] =>
    match a.source with
    | .inline _ => .error "-e and a script file are mutually exclusive"
    | _ => .ok (if path = "-" then a else { a with source := .file path })
  | many => .error s!"too many arguments ({many.length})"

/-- Read the command line, without the name of the program. -/
def read (argv : List String) : Except String Arguments := do
  let (a, others) ← readFrom {} [] none argv
  a.withOthers others

end Arguments

end HostScript
