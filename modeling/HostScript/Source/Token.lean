import HostScript.Number.Layout
import HostScript.Source.Keyword
import HostScript.Source.Location

/-! # Tokens

A token is a kind, the piece of source text it stands for, and the position of
the first character of that piece. -/

namespace HostScript

/-- Operators and punctuation. -/
inductive Mark where
  | plus | minus | star | slash | percent | bang
  | equal | notEqual | less | lessEqual | greater | greaterEqual
  | both | either | assign | plusAssign | minusAssign | starAssign
  | slashAssign | openParen | closeParen | openBrace | closeBrace | openBracket
  | closeBracket | comma | colon | dot | semicolon
  deriving DecidableEq, Repr

/-- The spelling of a mark. -/
def Mark.text : Mark → String
  | .plus => "+"
  | .minus => "-"
  | .star => "*"
  | .slash => "/"
  | .percent => "%"
  | .bang => "!"
  | .equal => "=="
  | .notEqual => "!="
  | .less => "<"
  | .lessEqual => "<="
  | .greater => ">"
  | .greaterEqual => ">="
  | .both => "&&"
  | .either => "||"
  | .assign => "="
  | .plusAssign => "+="
  | .minusAssign => "-="
  | .starAssign => "*="
  | .slashAssign => "/="
  | .openParen => "("
  | .closeParen => ")"
  | .openBrace => "\x7b"
  | .closeBrace => "\x7d"
  | .openBracket => "["
  | .closeBracket => "]"
  | .comma => ","
  | .colon => ":"
  | .dot => "."
  | .semicolon => ";"

/-- A piece of a string literal: text as it stands, or a reference to a variable. -/
inductive TemplatePart where
  | text (s : String)
  | var (name : String)
  deriving DecidableEq, Repr

/-- What a token is. -/
inductive TokenKind where
  | number (x : Float)
  | text (s : String)
  /-- A string literal that refers to variables. -/
  | template (parts : List TemplatePart)
  | name (s : String)
  /-- A name written with a leading dollar sign. -/
  | var (s : String)
  | keyword (k : Keyword)
  | mark (m : Mark)
  /-- The end of the source text. -/
  | eof
  deriving DecidableEq

/-- The words for a token kind in messages that report what was found. -/
def TokenKind.describe : TokenKind → String
  | .number x => "number " ++ Number.text .plain x
  | .text _ => "string"
  | .template _ => "string"
  | .name s => s!"identifier '{s}'"
  | .var s => s!"variable '${s}'"
  | .keyword k => s!"keyword '{k.text}'"
  | .eof => "end of input"
  | .mark m => s!"'{m.text}'"

/-- A token of a source text. -/
structure Token where
  kind : TokenKind
  lexeme : String
  loc : Location
  deriving DecidableEq

end HostScript
