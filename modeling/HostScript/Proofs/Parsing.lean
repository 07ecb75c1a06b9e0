import HostScript.Source.Grammar.Statement

/-!
# Parsers that succeed

A parser goes from a cursor to a result and another cursor, or fails. What is said here is
about success: of two parsers one after the other both succeed, and a property of results holds
if each part of a parser gives it to what it makes.
-/

namespace HostScript.Source

variable {α β : Type} {p : Parser α} {next : α → Parser β} {c c₁ c' : Cursor} {a : α}

theorem bind_eq_of_ok (h : p c = .ok (a, c₁)) : (p >>= next) c = next a c₁ := by
  change Except.bind (p c) _ = _
  rw [h]
  rfl

/-- A parser that goes on after another succeeds when both do. -/
theorem bind_eq_ok_iff {b : β} :
    (p >>= next) c = .ok (b, c') ↔ ∃ a c₁, p c = .ok (a, c₁) ∧ next a c₁ = .ok (b, c') := by
  cases h : p c with
  | ok r =>
      obtain ⟨a, c₁⟩ := r
      rw [bind_eq_of_ok h]
      constructor
      · intro hnext
        exact ⟨a, c₁, rfl, hnext⟩
      · rintro ⟨_, _, ⟨⟩, hnext⟩
        exact hnext
  | error f =>
      have failed : (p >>= next) c = .error f := by
        change Except.bind (p c) _ = _
        rw [h]
        rfl
      simp [failed]

/-- Whatever the parser makes has the property. -/
def Yields (p : Parser α) (Q : α → Prop) : Prop :=
  ∀ c a c', p c = .ok (a, c') → Q a

namespace Yields

variable {Q : α → Prop} {R : β → Prop}

/-- Nothing is said about what the parser makes. -/
theorem any (p : Parser α) : Yields p fun _ => True := fun _ _ _ _ => trivial

theorem pure (h : Q a) : Yields (Pure.pure a : Parser α) Q := by
  intro c a' c' made
  cases made
  exact h

theorem bind (first : Yields p Q) (then_ : ∀ a, Q a → Yields (next a) R) :
    Yields (p >>= next) R := by
  intro c b c' made
  obtain ⟨a, c₁, ha, hb⟩ := bind_eq_ok_iff.mp made
  exact then_ a (first c a c₁ ha) c₁ b c' hb

/-- What comes first may make anything. -/
theorem after (then_ : ∀ a, Yields (next a) R) : Yields (p >>= next) R :=
  (any p).bind fun a _ => then_ a

theorem reject (f : Fault) : Yields (Source.reject f : Parser α) Q := by
  intro c a c' made
  cases made

theorem expected (what : String) : Yields (Source.expected what : Parser α) Q := by
  intro c a c' made
  cases made

theorem expectedWithHint (what hint : String) :
    Yields (Source.expectedWithHint what hint : Parser α) Q := by
  intro c a c' made
  cases made

theorem nestingTooDeep : Yields (Source.nestingTooDeep : Parser α) Q := by
  intro c a c' made
  cases made

theorem map {make : α → β} (h : Yields p Q) (made : ∀ a, Q a → R (make a)) :
    Yields (make <$> p) R := by
  rw [map_eq_pure_bind]
  exact h.bind fun a ha => .pure (made a ha)

theorem ite {b : Prop} [Decidable b] {p' : Parser α} (first : Yields p Q) (second : Yields p' Q) :
    Yields (if b then p else p') Q := by
  split
  · exact first
  · exact second

end Yields

theorem parse_eq {source : String} {tokens : List Token} (scanned : tokenize source = .ok tokens) :
    parse source = (program (.ofTokens tokens)).map Prod.fst := by
  rw [parse, scanned]
  rfl

/-- A text that is accepted is a program that the grammar makes of its tokens. -/
theorem exists_of_parse {source : String} {p : Program} (h : parse source = .ok p) :
    ∃ tokens c, tokenize source = .ok tokens ∧ program (.ofTokens tokens) = .ok (p, c) := by
  cases scanned : tokenize source with
  | error f =>
      rw [parse, scanned] at h
      cases h
  | ok tokens =>
      rw [parse_eq scanned] at h
      cases made : program (.ofTokens tokens) with
      | error f =>
          rw [made] at h
          cases h
      | ok r =>
          rw [made] at h
          cases h
          exact ⟨tokens, r.2, rfl, made⟩

end HostScript.Source
