import HostScript.Engine.Frames
import HostScript.Proofs.Lexing.Literals
import HostScript.Proofs.Lexing.Respacing
import HostScript.Source.Grammar.Statement

/-!
# Templates, written and evaluated

The parts of a string literal are in normal form: texts are not empty and never stand next to each
other. Each list of parts in normal form can be written as a literal that is read back to it, with a
backslash before every character that a literal does not take as it stands.

Evaluation puts values in the place of references. A reference whose name is not bound comes out as
it was written if it was written without braces, and without its braces otherwise: the parts do not
tell how a reference was written.

## Implementation notes

Both results are about pieces. A literal is written piece by piece, and what a template is
evaluated to is given piece by piece, with the treatment of names that are not bound as a parameter.
The two treatments, with and without braces, differ in length as soon as one braced name is not
bound, wherever it stands.
-/

namespace HostScript.Source

/-! ### Literals of a source text -/

section Tokens

variable {loc : Location} {cs left : List Char} {c : Char} {t : Token} {tokens : List Token}
  {parts : List TemplatePart}

/-- A template is read from a quote on. -/
theorem readLiteral_of_readLexeme (h : readLexeme c cs = .ok (.template parts, left)) :
    Quote c ∧ readLiteral c [] [] cs = .ok (.template parts, left) := by
  unfold readLexeme at h
  split at h
  · simp only [readNumber, readHexadecimal, readDecimal] at h
    repeat' split at h
    all_goals cases h
  · split at h
    · next quote => exact ⟨.of_beq quote, h⟩
    · split at h
      · rw [wordKind] at h
        split at h
        · cases h
        · cases h
      · split at h
        · split at h
          · cases h
          · cases h
        · unfold readMark at h
          repeat' split at h
          all_goals cases h

/-- Each token but the last one has been read somewhere. -/
theorem Scans.exists_read (scans : Scans loc cs tokens) (mem : t ∈ tokens) (kind : t.kind ≠ .eof) :
    ∃ c more left, t.lexeme = String.ofList (c :: more) ∧
      readLexeme c (more ++ left) = .ok (t.kind, left) := by
  induction scans with
  | last trivia =>
      rw [List.mem_singleton] at mem
      subst mem
      exact absurd rfl kind
  | next trivia begins read others ih =>
      rcases List.mem_cons.mp mem with rfl | other
      · exact ⟨_, _, _, rfl, read⟩
      · exact ih other

theorem parts_of_kindOf {others : List TemplatePart} (h : kindOf others = .template parts) :
    others = parts ∧ others ≠ [] ∧ ∀ s, others ≠ [.text s] := by
  unfold kindOf at h
  split at h
  · cases h
  · cases h
  · next nonempty notText =>
    cases h
    exact ⟨rfl, nonempty, notText⟩

/-- A template of a source text is a row of pieces between quotes. -/
theorem exists_of_template {source : String} (scanned : tokenize source = .ok tokens)
    (mem : t ∈ tokens) (kind : t.kind = .template parts) :
    ∃ quote pieces body, Quote quote ∧ t.lexeme = String.ofList (quote :: body ++ [quote]) ∧
      Spells quote pieces body ∧ kindOf (partsOf pieces) = .template parts := by
  obtain ⟨quote, more, left, lexeme, read⟩ :=
    (scans_of_scan scanned).exists_read mem (kind ▸ TokenKind.noConfusion)
  rw [kind] at read
  obtain ⟨isQuote, literal⟩ := readLiteral_of_readLexeme read
  obtain ⟨pieces, body, split, spells, made⟩ := (readLiteral_eq_ok_iff isQuote).mp literal
  have split' : more ++ left = body ++ [quote] ++ left := by simpa using split
  rw [List.append_cancel_right split'] at lexeme
  exact ⟨quote, pieces, body, isQuote, lexeme, spells, made.symm⟩

end Tokens

/-! ### Normal templates -/

/-- Parts of a literal in normal form: texts hold something and are not followed by other texts, and
references have names. -/
inductive Normal : List TemplatePart → Prop
  | nil : Normal []
  | var {name : String} {parts : List TemplatePart} (named : isName name.toList = true)
      (others : Normal parts) : Normal (.var name :: parts)
  | text {s : String} {parts : List TemplatePart} (nonempty : s ≠ "")
      (apart : ∀ s', parts.head? ≠ some (.text s')) (others : Normal parts) :
      Normal (.text s :: parts)

section NormalForm

variable {parts : List TemplatePart} {c : Char} {s name : String} {pieces : List Piece}
  {quote : Char} {body : List Char}

theorem Normal.consChar (h : Normal parts) (c : Char) : Normal (consChar c parts) := by
  have nonempty (more : List Char) : String.ofList (c :: more) ≠ "" :=
    mt String.ofList_eq_empty_iff.mp (List.cons_ne_nil c more)
  cases h with
  | nil => exact .text (nonempty []) (fun s' => nofun) .nil
  | var named others => exact .text (nonempty []) (fun s' => nofun) (.var named others)
  | text _ apart others => exact .text (nonempty _) apart others

/-- The parts that a literal is read to are in normal form. -/
theorem normal_partsOf (spells : Spells quote pieces body) : Normal (partsOf pieces) := by
  have reference {word : List Char} {parts : List TemplatePart} (named : isName word = true)
      (others : Normal parts) : Normal (.var (String.ofList word) :: parts) :=
    .var (by simpa using named) others
  induction spells with
  | nil => exact .nil
  | char ordinary others ih => exact ih.consChar _
  | dollar alone others ih => exact ih.consChar _
  | escape c others ih => exact ih.consChar _
  | bare named longest others ih => exact reference named ih
  | braced named others ih => exact reference named ih

/-- Without references nothing is left of a normal form but a text. -/
theorem Normal.exists_var (h : Normal parts) (nonempty : parts ≠ [])
    (notText : ∀ s, parts ≠ [.text s]) : ∃ name, .var name ∈ parts := by
  cases h with
  | nil => exact absurd rfl nonempty
  | var named others => exact ⟨_, List.mem_cons_self⟩
  | text _ apart others =>
      cases others with
      | nil => exact absurd rfl (notText _)
      | var named others => exact ⟨_, List.mem_cons_of_mem _ List.mem_cons_self⟩
      | text _ _ others => exact absurd rfl (apart _)

theorem Normal.kindOf_cases (h : Normal parts) :
    (∃ name, .var name ∈ parts) ∧ kindOf parts = .template parts ∨
      ∃ s, (parts = [.text s] ∨ parts = [] ∧ s = "") ∧ kindOf parts = .text s := by
  by_cases nonempty : parts = []
  · subst nonempty
    exact .inr ⟨"", .inr ⟨rfl, rfl⟩, rfl⟩
  · by_cases isText : ∃ s, parts = [.text s]
    · obtain ⟨s, rfl⟩ := isText
      exact .inr ⟨s, .inl rfl, rfl⟩
    · obtain ⟨name, mem⟩ := h.exists_var nonempty fun s eq => isText ⟨s, eq⟩
      exact .inl ⟨⟨name, mem⟩, kindOf_of_var mem⟩

end NormalForm

/-! ### Writing literals -/

/-- The characters that a literal does not take as they stand. -/
def needsEscape (quote c : Char) : Bool := c == '\\' || c == quote || c == '$'

/-- A character as a literal is to show it. -/
def writeChar (quote c : Char) : List Char :=
  if needsEscape quote c then ['\\', c] else [c]

/-- A part of a literal as it is to be written; references are put in braces. -/
def writePart (quote : Char) : TemplatePart → List Char
  | .text s => s.toList.flatMap (writeChar quote)
  | .var name => '$' :: '{' :: name.toList ++ ['}']

/-- The parts of a literal between quotes. -/
def writeLiteral (quote : Char) (parts : List TemplatePart) : String :=
  String.ofList (quote :: parts.flatMap (writePart quote) ++ [quote])

section Writing

variable {quote c : Char} {parts : List TemplatePart} {pieces : List Piece} {body : List Char}

/-- What is put behind a backslash stands for itself. -/
theorem unescape_of_needsEscape (isQuote : Quote quote) (h : needsEscape quote c = true) :
    unescape c = c := by
  simp only [needsEscape, Bool.or_eq_true, beq_iff_eq] at h
  obtain (rfl | rfl) | rfl := h
  · decide
  · cases isQuote <;> decide
  · decide

theorem spells_writeChar (isQuote : Quote quote) (c : Char) (spells : Spells quote pieces body) :
    ∃ piece : Piece, Spells quote (piece :: pieces) (writeChar quote c ++ body) ∧
      piece.consPart = consChar c := by
  unfold writeChar
  split
  · next special =>
    refine ⟨.escape c, .escape c spells, ?_⟩
    rw [Piece.consPart, unescape_of_needsEscape isQuote special]
  · next ordinary =>
    have taken : c ≠ '\\' ∧ c ≠ quote ∧ c ≠ '$' := by
      simpa [needsEscape, and_assoc] using ordinary
    exact ⟨.char c, .char taken spells, rfl⟩

/-- A text is written character by character. -/
theorem spells_writeText (isQuote : Quote quote) (text : List Char)
    (spells : Spells quote pieces body) :
    ∃ pieces', Spells quote pieces' (text.flatMap (writeChar quote) ++ body) ∧
      partsOf pieces' = text.foldr consChar (partsOf pieces) := by
  induction text with
  | nil => exact ⟨pieces, spells, rfl⟩
  | cons c text ih =>
      obtain ⟨pieces', spells', made⟩ := ih
      obtain ⟨piece, spelled, stands⟩ := spells_writeChar isQuote c spells'
      refine ⟨piece :: pieces', ?_, ?_⟩
      · rw [List.flatMap_cons, List.append_assoc]
        exact spelled
      · rw [List.foldr_cons, ← made, ← stands]
        rfl

/-- Characters in front of parts that begin with no text make up one text. -/
theorem foldr_consChar {text : List Char} (nonempty : text ≠ [])
    (apart : ∀ s, parts.head? ≠ some (.text s)) :
    text.foldr consChar parts = .text (String.ofList text) :: parts := by
  cases parts with
  | nil => rw [foldr_consChar_nil, if_neg (mt List.isEmpty_iff.mp nonempty)]
  | cons part others =>
      cases part with
      | text s => exact absurd rfl (apart s)
      | var name => rw [foldr_consChar_var, if_neg (mt List.isEmpty_iff.mp nonempty)]

/-- Parts in normal form are written as pieces that stand for them. -/
theorem Normal.exists_pieces (normal : Normal parts) (isQuote : Quote quote) :
    ∃ pieces, Spells quote pieces (parts.flatMap (writePart quote)) ∧ partsOf pieces = parts := by
  induction normal with
  | nil => exact ⟨[], .nil, rfl⟩
  | @var name parts named others ih =>
      obtain ⟨pieces, spells, made⟩ := ih
      refine ⟨.reference true name.toList :: pieces, ?_, ?_⟩
      · rw [List.flatMap_cons, writePart, List.append_assoc]
        exact .braced named spells
      · rw [partsOf, List.foldr_cons, ← partsOf, made, Piece.consPart, String.ofList_toList]
  | @text s parts nonempty apart others ih =>
      obtain ⟨pieces, spells, made⟩ := ih
      obtain ⟨pieces', spells', made'⟩ := spells_writeText isQuote s.toList spells
      refine ⟨pieces', spells', ?_⟩
      rw [made', made, foldr_consChar (mt String.toList_eq_nil_iff.mp nonempty) apart,
        String.ofList_toList]

theorem Quote.readLexeme_eq (isQuote : Quote quote) (cs : List Char) :
    readLexeme quote cs = readLiteral quote [] [] cs := by
  cases isQuote with
  | double => rfl
  | single => rfl

theorem Quote.begins (isQuote : Quote quote) (cs : List Char) : Begins (quote :: cs) := by
  cases isQuote with
  | double => rfl
  | single => rfl

/-- A literal makes up a source text of its own. -/
theorem tokenize_literal (isQuote : Quote quote) (spells : Spells quote pieces body) :
    tokenize (String.ofList (quote :: body ++ [quote])) =
      .ok [⟨kindOf (partsOf pieces), String.ofList (quote :: body ++ [quote]), .start⟩,
        ⟨.eof, "", Location.start.afterAll (quote :: body ++ [quote])⟩] := by
  have read : readLexeme quote (body ++ [quote] ++ []) = .ok (kindOf (partsOf pieces), []) := by
    rw [isQuote.readLexeme_eq, readLiteral_eq_ok_iff isQuote]
    exact ⟨pieces, body, by simp, spells, rfl⟩
  have scans : Scans .start ([] ++ quote :: (body ++ [quote]) ++ []) _ :=
    .next .nil (isQuote.begins _) read (.last .nil)
  rw [tokenize, scan_eq_ok_iff]
  simpa using scans

end Writing

/-- Literals and their parts go round. Parts in normal form, written between quotes with a backslash
before each backslash, quote and dollar sign and with references in braces, are read as one token:
a template of those parts, or a text if there are no references. And whatever the source text, a
template in it has parts in normal form, one of them a reference. -/
theorem literals_round_trip :
    (∀ quote parts, Quote quote → Normal parts → ∃ kind,
      tokenize (writeLiteral quote parts) =
        .ok [⟨kind, writeLiteral quote parts, .start⟩,
          ⟨.eof, "", Location.start.afterAll (writeLiteral quote parts).toList⟩] ∧
      ((∃ name, .var name ∈ parts) ∧ kind = .template parts ∨
        ∃ s, (parts = [.text s] ∨ parts = [] ∧ s = "") ∧ kind = .text s)) ∧
    ∀ source tokens t parts, tokenize source = .ok tokens → t ∈ tokens →
      t.kind = .template parts → Normal parts ∧ ∃ name, .var name ∈ parts := by
  refine ⟨fun quote parts isQuote normal => ?_, fun source tokens t parts scanned mem kind => ?_⟩
  · obtain ⟨pieces, spells, made⟩ := normal.exists_pieces isQuote
    have read := tokenize_literal isQuote spells
    rw [made] at read
    refine ⟨kindOf parts, ?_, normal.kindOf_cases⟩
    rw [writeLiteral, String.toList_ofList]
    exact read
  · obtain ⟨quote, pieces, body, -, -, spells, made⟩ := exists_of_template scanned mem kind
    obtain ⟨rfl, nonempty, notText⟩ := parts_of_kindOf made
    have normal := normal_partsOf spells
    exact ⟨normal, normal.exists_var nonempty notText⟩

/-- Parts with all three characters that need a backslash in front of a reference. -/
def escapedParts : List TemplatePart := [.text "\\\"$\n", .var "x", .var "if"]

theorem escapedParts_round_trip :
    ∃ tokens t, tokenize "\"\\\\\\\"\\$\n$\x7bx\x7d$\x7bif\x7d\"" = .ok tokens ∧ t ∈ tokens ∧
      t.kind = .template escapedParts ∧ Normal escapedParts := by
  have normal : Normal escapedParts :=
    .text (by decide) (fun s => nofun) (.var (by decide) (.var (by decide) .nil))
  obtain ⟨kind, read, ⟨-, rfl⟩ | ⟨s, none_, -⟩⟩ :=
    literals_round_trip.1 '"' escapedParts .double normal
  · exact ⟨_, _, read, List.mem_cons_self, rfl,
      (literals_round_trip.2 _ _ _ _ read List.mem_cons_self rfl).1⟩
  · obtain none_ | ⟨none_, -⟩ := none_
    · cases none_
    · cases none_

/-! ### Evaluation -/

/-- What a piece comes out as. A reference becomes the text of the nearest binding of its name;
`unbound` tells what is left of it where the name is not bound. -/
def Piece.rendered (m : Machine) (unbound : Bool → List Char → List Char) : Piece → List Char
  | .char c => [c]
  | .escape c => [unescape c]
  | .reference braces word =>
    match m.engine.scopes.lookup m.engine.scope (String.ofList word) with
    | some v => (m.world.heap.display v).toList
    | none => unbound braces word

/-- The pieces of a literal, rendered one behind the other. -/
def rendering (m : Machine) (unbound : Bool → List Char → List Char) (pieces : List Piece) :
    List Char :=
  pieces.flatMap (·.rendered m unbound)

/-- The reference as it is written. -/
def verbatim (braces : Bool) (word : List Char) : List Char := (Piece.reference braces word).written

/-- The reference as it would be written without braces. -/
def unbraced (_ : Bool) (word : List Char) : List Char := (Piece.reference false word).written

section Evaluation

variable {m : Machine} {pieces : List Piece} {word : List Char}

theorem rendering_cons (m : Machine) (unbound : Bool → List Char → List Char) (piece : Piece)
    (pieces : List Piece) : rendering m unbound (piece :: pieces) =
      piece.rendered m unbound ++ rendering m unbound pieces := rfl

theorem templateText_consChar (m : Machine) (c : Char) (parts : List TemplatePart) :
    m.templateText (consChar c parts) = String.ofList [c] ++ m.templateText parts := by
  unfold consChar
  split
  · next s rest =>
    rw [Machine.templateText, Machine.templateText, ← String.append_assoc, ← List.singleton_append,
      String.ofList_append, String.ofList_toList]
  · rfl

/-- One piece of a template, evaluated. -/
theorem templateText_consPart (m : Machine) (piece : Piece) (parts : List TemplatePart) :
    m.templateText (piece.consPart parts) =
      String.ofList (piece.rendered m unbraced) ++ m.templateText parts := by
  cases piece with
  | char c => exact templateText_consChar m c parts
  | escape c => exact templateText_consChar m (unescape c) parts
  | reference braces word =>
      rw [Piece.consPart, Machine.templateText, Piece.rendered]
      cases m.engine.scopes.lookup m.engine.scope (String.ofList word) with
      | some v => simp
      | none =>
          have dollar : String.ofList (unbraced braces word) = "$" ++ String.ofList word := by
            rw [unbraced, Piece.written, ← List.singleton_append, String.ofList_append]
          simp [dollar]

theorem templateText_partsOf (m : Machine) (pieces : List Piece) :
    m.templateText (partsOf pieces) = String.ofList (rendering m unbraced pieces) := by
  induction pieces with
  | nil => rfl
  | cons piece pieces ih =>
      rw [partsOf, List.foldr_cons, ← partsOf, templateText_consPart, ih, rendering_cons,
        String.ofList_append]

/-- The name is bound in a scope on the chain. -/
def Bound (m : Machine) (word : List Char) : Prop :=
  (m.engine.scopes.lookup m.engine.scope (String.ofList word)).isSome = true

/-- A piece does not come out longer without braces, and comes out the same unless it is a braced
reference to a name that is not bound. -/
theorem Piece.rendered_cases (m : Machine) (piece : Piece) :
    (piece.rendered m unbraced = piece.rendered m verbatim ∧
      ∀ word, piece = .reference true word → Bound m word) ∨
    ((piece.rendered m unbraced).length < (piece.rendered m verbatim).length ∧
      ∃ word, piece = .reference true word ∧ ¬ Bound m word) := by
  cases piece with
  | char c => exact .inl ⟨rfl, nofun⟩
  | escape c => exact .inl ⟨rfl, nofun⟩
  | reference braces word =>
      simp only [Piece.rendered, Bound]
      cases found : m.engine.scopes.lookup m.engine.scope (String.ofList word) with
      | some v =>
          refine .inl ⟨rfl, ?_⟩
          rintro _ ⟨⟩
          rw [found]
          rfl
      | none =>
          cases braces with
          | false => exact .inl ⟨rfl, nofun⟩
          | true =>
              refine .inr ⟨by simp [unbraced, verbatim, Piece.written], word, rfl, ?_⟩
              rw [found]
              exact Bool.false_ne_true

theorem length_rendering_le (m : Machine) (pieces : List Piece) :
    (rendering m unbraced pieces).length ≤ (rendering m verbatim pieces).length := by
  induction pieces with
  | nil => exact Nat.le_refl _
  | cons piece pieces ih =>
      have first : (piece.rendered m unbraced).length ≤ (piece.rendered m verbatim).length := by
        obtain ⟨same, -⟩ | ⟨shorter, -⟩ := piece.rendered_cases m
        · exact Nat.le_of_eq (congrArg List.length same)
        · exact Nat.le_of_lt shorter
      rw [rendering_cons, rendering_cons, List.length_append, List.length_append]
      exact Nat.add_le_add first ih

/-- The pieces come out as they should exactly if the names of braced references are bound. -/
theorem rendering_eq_iff (m : Machine) (pieces : List Piece) :
    rendering m unbraced pieces = rendering m verbatim pieces ↔
      ∀ word, .reference true word ∈ pieces → Bound m word := by
  induction pieces with
  | nil => simp [rendering]
  | cons piece pieces ih =>
      rw [rendering_cons, rendering_cons]
      obtain ⟨same, bound⟩ | ⟨shorter, word, rfl, free⟩ := piece.rendered_cases m
      · rw [same, List.append_cancel_left_eq, ih]
        refine ⟨fun all word mem => ?_, fun all word mem => all word (List.mem_cons_of_mem _ mem)⟩
        rcases List.mem_cons.mp mem with first | other
        · exact bound word first.symm
        · exact all word other
      · refine ⟨fun eq => ?_, fun all => absurd (all word List.mem_cons_self) free⟩
        -- No piece after this one makes up for the two characters that are lost here.
        have total := congrArg List.length eq
        have others := length_rendering_le m pieces
        rw [List.length_append, List.length_append] at total
        omega

theorem exprOfTokens_template {t : Token} {parts : List TemplatePart}
    (kind : t.kind = .template parts) : exprOfTokens [t] = .ok (.template t.loc parts) := by
  obtain ⟨kind', lexeme, loc⟩ := t
  subst kind
  rfl

end Evaluation

/-- What a template is evaluated to. It is a row of pieces between quotes, and its value is the row
of these pieces, each rendered: characters as they are meant, references as the text of the nearest
binding of their name, and as a dollar sign and the name where there is no binding. So references
without a binding come out as they are written exactly if none of them has braces. -/
theorem template_verbatim_iff (sv : Services) (m : Machine) (source : String)
    (tokens : List Token) (t : Token) (parts : List TemplatePart)
    (scanned : tokenize source = .ok tokens) (mem : t ∈ tokens) (kind : t.kind = .template parts) :
    exprOfTokens [t] = .ok (.template t.loc parts) ∧
    ∃ quote pieces body, Quote quote ∧ t.lexeme = String.ofList (quote :: body ++ [quote]) ∧
      Spells quote pieces body ∧
      eval sv (.template t.loc parts) m =
        .done (.text (String.ofList (rendering m unbraced pieces))) m ∧
      (eval sv (.template t.loc parts) m =
          .done (.text (String.ofList (rendering m verbatim pieces))) m ↔
        ∀ word, .reference true word ∈ pieces → Bound m word) := by
  obtain ⟨quote, pieces, body, isQuote, lexeme, spells, made⟩ := exists_of_template scanned mem kind
  obtain ⟨rfl, -, -⟩ := parts_of_kindOf made
  have value : eval sv (.template t.loc (partsOf pieces)) m =
      .done (.text (String.ofList (rendering m unbraced pieces))) m := by
    rw [eval, Run.view, templateText_partsOf]
  refine ⟨exprOfTokens_template kind, quote, pieces, body, isQuote, lexeme, spells, value, ?_⟩
  rw [value, ← rendering_eq_iff m pieces]
  constructor
  · intro same
    exact String.ofList_injective (Value.text.inj (Outcome.done.inj same).1)
  · intro same
    rw [same]

/-- A literal with a braced reference to a name that no scope of a new machine binds. -/
def ghostSource : String := "\"$\x7bghost\x7d\""

/-- The token of that literal. -/
def ghostToken : Token := ⟨.template [.var "ghost"], ghostSource, .start⟩

theorem tokenize_ghostSource :
    tokenize ghostSource = .ok [ghostToken, ⟨.eof, "", ⟨1, 11, 10⟩⟩] :=
  tokenize_eq_of_toOption (by decide +kernel)

theorem ghostSource_rendered : ∃ quote pieces body, Quote quote ∧
    ghostSource = String.ofList (quote :: body ++ [quote]) ∧ Spells quote pieces body ∧
    eval (servicesWithin 0) (.template .start [.var "ghost"]) {} =
      .done (.text (String.ofList (rendering {} unbraced pieces))) {} := by
  obtain ⟨-, quote, pieces, body, isQuote, lexeme, spells, value, -⟩ :=
    template_verbatim_iff (servicesWithin 0) {} ghostSource _ ghostToken [.var "ghost"]
      tokenize_ghostSource List.mem_cons_self rfl
  exact ⟨quote, pieces, body, isQuote, lexeme, spells, value⟩

/-- The braces are lost. -/
theorem ghostSource_loses_braces :
    tokenize ghostSource = .ok [ghostToken, ⟨.eof, "", ⟨1, 11, 10⟩⟩] ∧
    exprOfTokens [ghostToken] = .ok (.template .start [.var "ghost"]) ∧
    ({} : Machine).engine.scopes.lookup ({} : Machine).engine.scope "ghost" = none ∧
    eval (servicesWithin 0) (.template .start [.var "ghost"]) {} = .done (.text "$ghost") {} ∧
    ghostSource = "\"" ++ "$\x7bghost\x7d" ++ "\"" ∧ "$ghost" ≠ "$\x7bghost\x7d" :=
  ⟨tokenize_ghostSource, rfl, rfl, rfl, rfl, by decide⟩

end HostScript.Source
