import HostScript.Fault
import HostScript.Source.Lexeme

/-! # The tokens of a source text

`scan` skips blanks and comments, reads one token, and goes on behind it. Every
token carries the position of its first character, which is the position
reached by moving over everything before it. The last token marks the end of
the text. -/

namespace HostScript.Source

/-- The fault that reports a lexical error at `loc`. -/
def LexicalError.toFault (e : LexicalError) (loc : Location) : Fault :=
  match e.hint? with
  | some hint => (Fault.malformed e.message loc).withHint hint
  | none => Fault.malformed e.message loc

/-- The part of `cs` before its suffix `rest`. -/
def consumed (cs rest : List Char) : List Char :=
  cs.take (cs.length - rest.length)

/-- The tokens of the text `cs`, which starts at `loc`. -/
def scan (loc : Location) (cs : List Char) : Except Fault (List Token) :=
  match hs : skipTrivia false cs with
  | [] => .ok [⟨.eof, "", loc.afterAll cs⟩]
  | c :: rest =>
    let start := loc.afterAll (consumed cs (c :: rest))
    match hr : readLexeme c rest with
    | .error e => .error (e.toFault start)
    | .ok (kind, left) =>
      have : left.length < cs.length := by
        have h₁ : (c :: rest).length ≤ cs.length := hs ▸ (skipTrivia_suffix false cs).length_le
        have h₂ := (readLexeme_suffix hr).length_le
        simp only [List.length_cons] at h₁
        omega
      let lexeme := consumed (c :: rest) left
      match scan (start.afterAll lexeme) left with
      | .error f => .error f
      | .ok tokens => .ok (⟨kind, String.ofList lexeme, start⟩ :: tokens)
termination_by cs.length

/-- The tokens of a source text. -/
def tokenize (src : String) : Except Fault (List Token) :=
  scan .start src.toList

end HostScript.Source
