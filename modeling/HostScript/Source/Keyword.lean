/-! # Reserved words

The words of the language that are not names. Words such as `in`, `to`,
`into`, `default` and `recursive` are reserved only where a statement expects
them, so they are ordinary names here. -/

namespace HostScript

/-- A reserved word. -/
inductive Keyword where
  | setWord | letWord | printWord | ifWord | elseWord | loopWord
  | whileWord | foreachWord | breakWord | continueWord | returnWord | defWord
  | callWord | tryWord | catchWord | onWord | emitWord | launchWord
  | closeWord | waitWord | focusWord | minimizeWord | maximizeWord | writeWord
  | readWord | mkdirWord | deleteWord | alertWord | confirmWord | promptWord
  | notifyWord | playWord | stopWord | videoWord | commandWord | trueWord
  | falseWord | nullWord | undefinedWord
  deriving DecidableEq, Repr

namespace Keyword

/-- The spelling of a reserved word. -/
def text : Keyword → String
  | .setWord => "set"
  | .letWord => "let"
  | .printWord => "print"
  | .ifWord => "if"
  | .elseWord => "else"
  | .loopWord => "loop"
  | .whileWord => "while"
  | .foreachWord => "foreach"
  | .breakWord => "break"
  | .continueWord => "continue"
  | .returnWord => "return"
  | .defWord => "def"
  | .callWord => "call"
  | .tryWord => "try"
  | .catchWord => "catch"
  | .onWord => "on"
  | .emitWord => "emit"
  | .launchWord => "launch"
  | .closeWord => "close"
  | .waitWord => "wait"
  | .focusWord => "focus"
  | .minimizeWord => "minimize"
  | .maximizeWord => "maximize"
  | .writeWord => "write"
  | .readWord => "read"
  | .mkdirWord => "mkdir"
  | .deleteWord => "delete"
  | .alertWord => "alert"
  | .confirmWord => "confirm"
  | .promptWord => "prompt"
  | .notifyWord => "notify"
  | .playWord => "play"
  | .stopWord => "stop"
  | .videoWord => "video"
  | .commandWord => "command"
  | .trueWord => "true"
  | .falseWord => "false"
  | .nullWord => "null"
  | .undefinedWord => "undefined"

/-- Every reserved word. -/
def all : List Keyword :=
  [.setWord, .letWord, .printWord, .ifWord, .elseWord, .loopWord, .whileWord,
   .foreachWord, .breakWord, .continueWord, .returnWord, .defWord, .callWord, .tryWord,
   .catchWord, .onWord, .emitWord, .launchWord, .closeWord, .waitWord, .focusWord,
   .minimizeWord, .maximizeWord, .writeWord, .readWord, .mkdirWord, .deleteWord,
   .alertWord, .confirmWord, .promptWord, .notifyWord, .playWord, .stopWord, .videoWord,
   .commandWord, .trueWord, .falseWord, .nullWord, .undefinedWord]

/-- The reserved word with the spelling `word`. -/
def ofText? (word : String) : Option Keyword :=
  all.find? fun k => k.text == word

/-- Reading the spelling of a reserved word gives that word. -/
@[simp] theorem ofText?_text (k : Keyword) : ofText? k.text = some k := by
  cases k <;> decide

end Keyword

end HostScript
