import HostScript.Text.Alphabetic
import HostScript.Text.Search

/-! # Dialogs as text

How alerts and questions appear as text, and how typed lines answer
questions. -/

namespace HostScript.Dialog

/-- A letter of the alphabet in lower case; other characters stay as they are. -/
def lowerLetter (c : Char) : Char := if 'A' ≤ c ∧ c ≤ 'Z' then Char.ofNat (c.toNat + 32) else c

/-- A typed line says yes: `y` or `yes` in any case, with blanks around it. -/
def isYes (line : String) : Bool :=
  let word := String.ofList ((Text.trimBlanks line.toList).map lowerLetter)
  word == "y" || word == "yes"

/-- The line that shows an alert. -/
def alertLine (message : String) : String := s!"[alert] {message}"

/-- The text that asks for yes or no. -/
def confirmQuestion (message : String) : String := s!"{message} [y/N] "

/-- The text that asks for a line. -/
def promptQuestion (message default : String) : String :=
  if default = "" then s!"{message} " else s!"{message} [{default}] "

/-- The end of a text without line ends. -/
def dropLineEnds (cs : List Char) : List Char :=
  (cs.reverse.dropWhile fun c => c = '\r' || c = '\n').reverse

/-- What a typed line answers to a prompt: an empty line stands for the default. -/
def promptAnswer (default line : String) : String :=
  let answer := String.ofList (dropLineEnds line.toList)
  if answer = "" then default else answer

end HostScript.Dialog
