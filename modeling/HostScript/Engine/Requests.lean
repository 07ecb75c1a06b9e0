import HostScript.Dialog
import HostScript.Engine.Evaluation

/-! # Requests to the host

Statements that ask the host for something. A capability that is missing makes
the request do nothing, or have its default result. -/

namespace HostScript

namespace Run

/-- Bind a name: its nearest binding changes, or else the current scope gets one. -/
def assignName (name : String) (v : Value) : Run Unit := change fun
  | ⟨e, w⟩ => ⟨{ e with scopes := e.scopes.assign e.scope name v }, w⟩

/-- Emit an event. -/
def emit (event : String) (payload : Value) : Run Unit := change fun m => m.emit event payload

/-- Send a command to the host. -/
def command (name : String) (payload : Value) : Run Unit := fun
  | ⟨e, w⟩ =>
    match w.commands with
    | none => .done () ⟨e, w⟩
    | some refused =>
      let m : Machine := ⟨e, w.note (.command name payload w.heap)⟩
      match refused.lookup name with
      | some message => .fault (.runtime message) m
      | none => .done () m

/-- Send a command with an object of the given entries. -/
def commandWith (name : String) (entries : List (String × Value)) : Run Unit := do
  let payload ← newObject entries
  command name payload

/-- Emit an event of the host with an object of the given entries. -/
def emitWith (event : HostEvent) (entries : List (String × Value)) : Run Unit := do
  let payload ← newObject entries
  emit event.name payload

/-- Carry out an operation on files, if the host has files. -/
def onFiles (act : Files.Root → Option String × Files.Root) : Run Unit := fun
  | ⟨e, w⟩ =>
    match w.files with
    | none => .done () ⟨e, w⟩
    | some root =>
      match act root with
      | (none, root) => .done () ⟨e, { w with files := some root }⟩
      | (some message, root) => .fault (.runtime message) ⟨e, { w with files := some root }⟩

/-- Carry out an operation on files that fails without effect. -/
def changeFiles (act : Files.Root → Except String Files.Root) : Run Unit :=
  onFiles fun root =>
    match act root with
    | .ok root => (none, root)
    | .error message => (some message, root)

/-- The text of a file; `undefined` without files. -/
def readFile (path : String) : Run Value :=
  check fun m =>
    match m.world.files with
    | none => .ok .undefined
    | some root =>
      match root.read path with
      | .ok s => .ok (.text s)
      | .error message => .error (.runtime message)

end Run

/-! ### Dialogs -/

/-- A question to the user. -/
inductive Question where
  | confirm (message : String)
  | prompt (message default : String)
  deriving DecidableEq

namespace Question

/-- What the host notes of a question. -/
def note : Question → HostNote
  | .confirm message => .confirm message
  | .prompt message default => .prompt message default

/-- The answer when the user gives none. -/
def default : Question → Value
  | .confirm _ => .bool true
  | .prompt _ default => .text default

/-- The answer that a typed line gives. -/
def answerOfLine : Question → String → Value
  | .confirm _, line => .bool (Dialog.isYes line)
  | .prompt _ default, line => .text (Dialog.promptAnswer default line)

/-- What the script waits for after a question: the reply, which counts even if it is seen
late, and the end of the time limit. -/
def awaited (q : Question) (now limit : Nat) (r : DialogReply) : Awaited :=
  let settled (t : Nat) (v : Value) : Nat × Reply := (t, .ok (.value v))
  let expired := settled (now + limit) q.default
  match r with
  | .answer v delay => [settled (now + delay) v, expired]
  | .line text => [settled now (q.answerOfLine text), expired]
  | .dropped delay => [settled (now + delay) q.default, expired]
  | .never => [expired]

end Question

/-- Put a question on the screen of the host and take its reply. -/
def World.ask (w : World) (q : Question) : DialogReply × World :=
  let late := (w.dialogs.map Dialogs.showsLate).getD false
  let w := if late then { w with asking := some q.note } else w.note q.note
  w.nextReply

/-- Ask a question and wait for the answer; without dialogs the answer is the default. -/
def Services.ask (sv : Services) (q : Question) : Run Value := fun m =>
  match m.world.dialogs with
  | none => .done q.default m
  | some _ =>
    match m with
    | ⟨e, w⟩ =>
      let (reply, w) := w.ask q
      let a := q.awaited w.now e.limits.dialogTimeout reply
      Run.andThen (sv.suspend a) (Run.receive "dialog") ⟨e, w⟩

/-- Show a message; without dialogs it goes to the bus. -/
def Run.alert (message : String) : Run Unit := fun
  | ⟨e, w⟩ =>
    match w.dialogs with
    | some _ => .done () ⟨e, w.note (.alert message)⟩
    | none => Run.emitWith .dialogAlert [("message", .text message)] ⟨e, w⟩

/-! ### Requests -/

/-- The name that takes the answer of a question without a name. -/
def answerName : String := "result"

/-- The number of milliseconds that a `wait` lasts. -/
def waitTime (x : Float) : Nat :=
  if x.isFinite && x > 0.0 then Number.clampNat Number.maxWord x else 0

/-- Carry out a request. -/
def request (sv : Services) : HostRequest → Run Unit
  | .emit event payload => do
    let name ← evalText sv event
    let v ← evalOr sv .null payload
    Run.emit name v
  | .launch app options => do
    let a ← eval sv app
    let o ← match options with
      | some e => eval sv e
      | none => Run.newObject []
    Run.commandWith "launch_app" [("app", a), ("options", o)]
  | .close (some target) => do
    let v ← eval sv target
    Run.commandWith "close_window" [("window", v)]
  | .close none => do
    match ← Run.view fun m => m.world.window.join with
    | some name => Run.commandWith "close_window" [("window", .text name)]
    | none => return ()
  | .window action target => do
    let v ← eval sv target
    Run.commandWith action.command [("window", v)]
  | .wait duration => do
    let v ← eval sv duration
    let now ← Run.view fun m => m.world.now
    let _ ← sv.suspend (.timer (now + waitTime v.toNumber))
    return ()
  | .write content path => do
    let text ← evalText sv content
    let p ← evalText sv path
    Run.changeFiles fun root => root.write p text
  | .read path var => do
    let p ← evalText sv path
    let v ← Run.readFile p
    Run.assignName var v
  | .mkdir path => do
    let p ← evalText sv path
    Run.onFiles fun root => root.makeDirectory p
  | .delete path recursive => do
    let p ← evalText sv path
    Run.changeFiles fun root => root.delete p recursive
  | .alert message => do
    let text ← evalText sv message
    Run.alert text
  | .confirm message var => do
    let text ← evalText sv message
    let v ← sv.ask (.confirm text)
    Run.assignName (var.getD answerName) v
  | .prompt message default var => do
    let text ← evalText sv message
    let d ← match default with
      | some e => evalText sv e
      | none => Run.result ""
    let v ← sv.ask (.prompt text d)
    Run.assignName (var.getD answerName) v
  | .notify message title => do
    let v ← eval sv message
    let t ← evalOr sv .null title
    Run.emitWith .notificationShow [("message", v), ("title", t)]
  | .play source => do
    let v ← eval sv source
    Run.emitWith .audioPlay [("src", v)]
  | .stop => Run.emit HostEvent.audioStop.name .null
  | .video source => do
    let v ← eval sv source
    Run.emitWith .videoPlay [("src", v)]
  | .command name args => do
    let n ← evalText sv name
    let values ← evalAll sv args
    let payload ← match values with
      | .object a :: _ => Run.result (.object a)
      | _ => do
        let items ← Run.newArray values
        Run.newObject [("args", items)]
    if n.toList.contains ':' then Run.emit (commandEventStart ++ n) payload
    else Run.command n payload

end HostScript
