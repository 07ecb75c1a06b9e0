import HostScript.Proofs.Lexing.Literals

/-!
# Where a lexeme ends

A lexeme ends where the text cannot go on with it, and a blank goes on with none. So what follows a
lexeme may be cut off anywhere and end there, or go on with a blank instead: the same lexeme is
read.

## Implementation notes

Readers look ahead, a number at two characters, so it is not enough that the next character stays.
`Cut` keeps any number of characters and nothing but a blank behind them, which is kept by putting
the same text in front of both sides. That is what makes `Steady` readers one behind the other
steady. That no blank is a letter or a numeral is read off the tables of the three classes, interval
by interval.
-/

namespace HostScript

namespace Text

/-! ### Blanks are in no other class -/

/-- The intervals of a table, from its characters. -/
theorem Ranges.ofText_ofList (cs : List Char) : Ranges.ofText (String.ofList cs) =
    (((cs.splitBy fun a b => (a == ' ' || a == '\n') == (b == ' ' || b == '\n')).filter
      fun word => word.any fun c => c != ' ' && c != '\n').map readRange).toArray := by
  rw [Ranges.ofText, String.toList_ofList]

/-- No interval of the first table meets one of the second. -/
def Ranges.apart (r s : Ranges) : Bool :=
  r.toList.all fun p => s.toList.all fun q => p.2 < q.1 || q.2 < p.1

theorem Ranges.contains_eq_false_of_apart {r s : Ranges} (apart : r.apart s = true) {c : Char}
    (mem : s.contains c = true) : r.contains c = false := by
  rw [Ranges.contains, Ranges.containsCode_iff] at mem
  obtain ⟨q, inS, low, high⟩ := mem
  rw [Bool.eq_false_iff, Ranges.contains, ne_eq, Ranges.containsCode_iff]
  rintro ⟨p, inR, low', high'⟩
  have disjoint := List.all_eq_true.mp (List.all_eq_true.mp apart p inR.val) q inS.val
  simp only [Bool.or_eq_true, decide_eq_true_eq] at disjoint
  omega

set_option maxRecDepth 20000 in
theorem letterRanges_apart : letterRanges.apart blankRanges = true := by
  unfold letterRanges letterTable blankRanges blankTable
  rw [Ranges.ofText_ofList, Ranges.ofText_ofList]
  decide +kernel

set_option maxRecDepth 20000 in
theorem numeralRanges_apart : numeralRanges.apart blankRanges = true := by
  unfold numeralRanges numeralTable blankRanges blankTable
  rw [Ranges.ofText_ofList, Ranges.ofText_ofList]
  decide +kernel

/-- The blanks of ASCII. -/
def asciiBlanks : List Char := [' ', '\t', '\n', '\x0b', '\x0c', '\r']

theorem mem_asciiBlanks {c : Char} (ascii : c.toNat < 128) (blank : isBlank c = true) :
    c ∈ asciiBlanks := by
  rw [isBlank, if_pos ascii] at blank
  simp only [Bool.or_eq_true, beq_iff_eq, Bool.and_eq_true, decide_eq_true_eq] at blank
  obtain rfl | ⟨low, high⟩ := blank
  · decide
  · have codes : ∀ n < 14, 9 ≤ n → Char.ofNat n ∈ asciiBlanks := by decide
    rw [← Char.ofNat_toNat c]
    exact codes _ (Nat.lt_succ_of_le high) low

/-- A class without the blanks of ASCII has none of them. -/
theorem eq_false_of_isBlank {p : Char → Bool} (none_ : asciiBlanks.any p = false) {c : Char}
    (ascii : c.toNat < 128) (blank : isBlank c = true) : p c = false :=
  Bool.eq_false_iff.mpr (List.any_eq_false.mp none_ c (mem_asciiBlanks ascii blank))

theorem isLetter_of_isBlank {c : Char} (blank : isBlank c = true) : isLetter c = false := by
  by_cases ascii : c.toNat < 128
  · exact eq_false_of_isBlank (by decide) ascii blank
  · rw [isBlank, if_neg ascii] at blank
    rw [isLetter, if_neg ascii]
    exact Ranges.contains_eq_false_of_apart letterRanges_apart blank

theorem isNumeral_of_isBlank {c : Char} (blank : isBlank c = true) : isNumeral c = false := by
  by_cases ascii : c.toNat < 128
  · exact eq_false_of_isBlank (by decide) ascii blank
  · rw [isBlank, if_neg ascii] at blank
    rw [isNumeral, if_neg ascii]
    exact Ranges.contains_eq_false_of_apart numeralRanges_apart blank

end Text

namespace Source

open HostScript.Text

/-- No blank is in the class. -/
def Visible (p : Char → Bool) : Prop := ∀ c, isBlank c = true → p c = false

section Classes

variable {p q : Char → Bool}

/-- A class of ASCII characters is visible if it has none of the six blanks. -/
theorem visible_of_ascii (ascii : ∀ c, p c = true → c.toNat < 128)
    (none_ : asciiBlanks.any p = false) : Visible p := by
  intro c blank
  cases member : p c with
  | false => rfl
  | true => rw [← member, eq_false_of_isBlank none_ (ascii c member) blank]

theorem Visible.isBlank_eq_false {c : Char} (visible : Visible p) (member : p c = true) :
    isBlank c = false := by
  rw [Bool.eq_false_iff]
  intro blank
  cases (visible c blank).symm.trans member

theorem Visible.or (hp : Visible p) (hq : Visible q) : Visible fun c => p c || q c := by
  intro c blank
  simp only [hp c blank, hq c blank, Bool.or_self]

theorem visible_char {d : Char} (seen : isBlank d = false) : Visible (· == d) := by
  intro c blank
  rw [beq_eq_false_iff_ne]
  rintro rfl
  cases seen.symm.trans blank

theorem visible_isDigit : Visible Char.isDigit := by
  refine visible_of_ascii (fun c digit => ?_) (by decide)
  have upper : c.val ≤ '9'.val := of_decide_eq_true (Bool.and_eq_true_iff.mp digit).2
  exact Nat.lt_of_le_of_lt upper (by decide)

theorem visible_isHexDigit : Visible isHexDigit := by
  refine visible_of_ascii (fun c digit => ?_) (by decide)
  have upper {d : Char} (ascii : d.val.toNat < 128) (le : c ≤ d) : c.toNat < 128 :=
    Nat.lt_of_le_of_lt le ascii
  unfold isHexDigit hexDigit? at digit
  split at digit
  · next range => exact upper (by decide) range.2
  · split at digit
    · next range => exact upper (by decide) range.2
    · split at digit
      · next range => exact upper (by decide) range.2
      · cases digit

theorem visible_isNameChar : Visible isNameChar :=
  Visible.or (Visible.or (fun _ => isLetter_of_isBlank) fun _ => isNumeral_of_isBlank)
    (visible_char (by decide))

end Classes

/-! ### Cutting a text off -/

/-- Nothing is there, or a blank. -/
def Detached (rest : List Char) : Prop := rest.head?.all isBlank = true

/-- The second text goes on like the first one up to some place, and there it is detached. -/
def Cut (left left' : List Char) : Prop :=
  ∃ front rest, front <+: left ∧ left' = front ++ rest ∧ Detached rest

section Cuts

variable {left left' rest : List Char} {c : Char} {p : Char → Bool}

theorem Detached.cut (h : Detached rest) (left : List Char) : Cut left rest :=
  ⟨[], rest, List.nil_prefix, rfl, h⟩

theorem Detached.cut_append (h : Detached rest) (left : List Char) : Cut left (left ++ rest) :=
  ⟨left, rest, List.prefix_refl left, rfl, h⟩

theorem Cut.append (h : Cut left left') (front : List Char) :
    Cut (front ++ left) (front ++ left') := by
  obtain ⟨common, rest, ⟨more, rfl⟩, rfl, detached⟩ := h
  exact ⟨front ++ common, rest, ⟨more, by simp⟩, by simp, detached⟩

/-- What can be seen at the front stands in both texts. -/
theorem Cut.exists_cons (h : Cut left (c :: left')) (seen : isBlank c = false) :
    ∃ more, left = c :: more ∧ Cut more left' := by
  obtain ⟨front, rest, ⟨more, rfl⟩, split, detached⟩ := h
  cases front with
  | nil =>
      rw [List.nil_append] at split
      subst split
      cases seen.symm.trans detached
  | cons d front =>
      cases split
      exact ⟨front ++ more, rfl, front, rest, ⟨more, rfl⟩, rfl, detached⟩

theorem Cut.head?_any (h : Cut left left') (visible : Visible p)
    (none_ : left.head?.any p = false) : left'.head?.any p = false := by
  cases left' with
  | nil => rfl
  | cons c left' =>
      cases member : p c with
      | false => exact member
      | true =>
          obtain ⟨more, rfl, -⟩ := h.exists_cons (visible.isBlank_eq_false member)
          cases none_.symm.trans member

end Cuts

/-! ### Steady readers -/

/-- A reader that makes something of a text makes the same of the part that it reads wherever what
it leaves is cut off. -/
def Steady {α : Type} (reads : List Char → α → List Char → Prop) : Prop :=
  ∀ cs a left, reads cs a left →
    ∃ front, cs = front ++ left ∧ ∀ {left'}, Cut left left' → reads (front ++ left') a left'

/-- Readers one behind the other. -/
theorem Steady.andThen {α β : Type} {reads : List Char → α → List Char → Prop}
    {next : α → List Char → β → List Char → Prop} (first : Steady reads)
    (then_ : ∀ a, Steady (next a)) :
    Steady fun cs b left => ∃ a between, reads cs a between ∧ next a between b left := by
  rintro cs b left ⟨a, between, read, read'⟩
  obtain ⟨front, rfl, again⟩ := first _ _ _ read
  obtain ⟨front', rfl, again'⟩ := then_ a _ _ _ read'
  refine ⟨front ++ front', by simp, fun cut => ⟨a, front' ++ _, ?_, again' cut⟩⟩
  rw [List.append_assoc]
  exact again (cut.append front')

theorem steady_span {p : Char → Bool} (visible : Visible p) :
    Steady fun cs word left => cs.takeWhile p = word ∧ cs.dropWhile p = left := by
  rintro cs _ _ ⟨rfl, rfl⟩
  refine ⟨cs.takeWhile p, List.takeWhile_append_dropWhile.symm, fun cut => ?_⟩
  have all : ∀ c ∈ cs.takeWhile p, p c = true := List.all_eq_true.mp List.all_takeWhile
  have ends := cut.head?_any visible (head?_dropWhile_any p cs)
  exact ⟨takeWhile_append_of_ends all ends, dropWhile_append_of_ends all ends⟩

/-- Whether a text begins with a character of a class is told by its longest run. -/
theorem head?_any_eq (p : Char → Bool) (cs : List Char) :
    cs.head?.any p = !(cs.takeWhile p).isEmpty := by
  cases cs with
  | nil => rfl
  | cons c rest =>
      cases member : p c with
      | true => simp [member]
      | false => simp [member]

/-- A fraction begins: a point with a digit behind it. -/
def BeginsFraction (cs : List Char) : Prop :=
  ∃ rest, cs = '.' :: rest ∧ rest.head?.any Char.isDigit = true

theorem BeginsFraction.of_cut {left left' : List Char} (h : BeginsFraction left')
    (cut : Cut left left') : BeginsFraction left := by
  obtain ⟨rest, rfl, digit⟩ := h
  obtain ⟨more, rfl, behind⟩ := cut.exists_cons (by decide)
  refine ⟨more, rfl, ?_⟩
  cases first : more.head?.any Char.isDigit with
  | true => rfl
  | false => cases (behind.head?_any visible_isDigit first).symm.trans digit

theorem splitFraction_of_not {cs : List Char} (none_ : ¬ BeginsFraction cs) :
    splitFraction cs = ([], cs) := by
  unfold splitFraction
  split
  · next rest =>
    exact if_neg fun digit => none_ ⟨rest, rfl, digit⟩
  · rfl

theorem steady_splitFraction :
    Steady fun cs fraction left => splitFraction cs = (fraction, left) := by
  intro cs fraction left read
  by_cases begins : BeginsFraction cs
  · obtain ⟨rest, rfl, digit⟩ := begins
    rw [splitFraction, if_pos digit] at read
    cases read
    obtain ⟨front, split, again⟩ := steady_span visible_isDigit rest _ _ ⟨rfl, rfl⟩
    refine ⟨'.' :: front, congrArg ('.' :: ·) split, fun {left'} cut => ?_⟩
    obtain ⟨run, behind⟩ := again cut
    have digit' : (front ++ left').head?.any Char.isDigit = true := by
      rw [head?_any_eq, run, ← head?_any_eq, digit]
    rw [List.cons_append, splitFraction, if_pos digit', run, behind]
  · rw [splitFraction_of_not begins] at read
    cases read
    exact ⟨[], rfl, fun cut => splitFraction_of_not fun begins' => begins (begins'.of_cut cut)⟩

/-- The letter in front of an exponent. -/
def isExponentMark (c : Char) : Bool := c == 'e' || c == 'E'

/-- The sign of an exponent. -/
def isSign (c : Char) : Bool := c == '+' || c == '-'

/-- An exponent begins: its letter, and behind it a digit or a sign. -/
def BeginsExponent (cs : List Char) : Prop :=
  ∃ c d rest, cs = c :: d :: rest ∧ isExponentMark c = true ∧ (d.isDigit || isSign d) = true

theorem visible_isSign : Visible isSign :=
  Visible.or (visible_char (by decide)) (visible_char (by decide))

theorem visible_isExponentMark : Visible isExponentMark :=
  Visible.or (visible_char (by decide)) (visible_char (by decide))

theorem BeginsExponent.of_cut {left left' : List Char} (h : BeginsExponent left')
    (cut : Cut left left') : BeginsExponent left := by
  obtain ⟨c, d, rest, rfl, mark, next⟩ := h
  obtain ⟨_, rfl, behind⟩ := cut.exists_cons (visible_isExponentMark.isBlank_eq_false mark)
  obtain ⟨more, rfl, -⟩ :=
    behind.exists_cons ((visible_isDigit.or visible_isSign).isBlank_eq_false next)
  exact ⟨c, d, more, rfl, mark, next⟩

theorem splitExponent_cons (c d : Char) (rest : List Char) : splitExponent (c :: d :: rest) =
    if isExponentMark c && d.isDigit then
      ('e' :: (d :: rest).takeWhile Char.isDigit, (d :: rest).dropWhile Char.isDigit)
    else if isExponentMark c && isSign d then
      ('e' :: d :: rest.takeWhile Char.isDigit, rest.dropWhile Char.isDigit)
    else ([], c :: d :: rest) := rfl

theorem splitExponent_of_not {cs : List Char} (none_ : ¬ BeginsExponent cs) :
    splitExponent cs = ([], cs) := by
  match cs with
  | [] => rfl
  | [c] => rfl
  | c :: d :: rest =>
      rw [splitExponent_cons]
      by_cases mark : isExponentMark c = true
      · have neither : ¬ (d.isDigit || isSign d) = true :=
          fun next => none_ ⟨c, d, rest, rfl, mark, next⟩
        simp only [Bool.or_eq_true, not_or, Bool.not_eq_true] at neither
        simp [neither]
      · simp [mark]

theorem steady_splitExponent :
    Steady fun cs exponent left => splitExponent cs = (exponent, left) := by
  intro cs exponent left read
  by_cases begins : BeginsExponent cs
  · obtain ⟨c, d, rest, rfl, mark, next⟩ := begins
    obtain ⟨front, split, again⟩ := steady_span visible_isDigit rest _ _ ⟨rfl, rfl⟩
    have kept : left = rest.dropWhile Char.isDigit ∧ ∀ {left'}, Cut left left' →
        splitExponent (c :: d :: (front ++ left')) = (exponent, left') := by
      rw [splitExponent_cons, mark] at read
      by_cases digit : d.isDigit = true
      · rw [if_pos (by simp [digit]), List.takeWhile_cons_of_pos digit,
          List.dropWhile_cons_of_pos digit] at read
        cases read
        refine ⟨rfl, fun cut => ?_⟩
        obtain ⟨run, behind⟩ := again cut
        rw [splitExponent_cons, mark, if_pos (by simp [digit]), List.takeWhile_cons_of_pos digit,
          List.dropWhile_cons_of_pos digit, run, behind]
      · have sign : isSign d = true := by simpa [digit] using next
        rw [if_neg (by simp [digit]), if_pos (by simp [sign])] at read
        cases read
        refine ⟨rfl, fun cut => ?_⟩
        obtain ⟨run, behind⟩ := again cut
        rw [splitExponent_cons, mark, if_neg (by simp [digit]), if_pos (by simp [sign]), run,
          behind]
    obtain ⟨rfl, same⟩ := kept
    exact ⟨c :: d :: front, congrArg (c :: d :: ·) split, same⟩
  · rw [splitExponent_of_not begins] at read
    cases read
    exact ⟨[], rfl, fun cut => splitExponent_of_not fun begins' => begins (begins'.of_cut cut)⟩

/-- A decimal literal is a run of digits, a fraction and an exponent that are a number together. -/
theorem readDecimal_eq_ok_iff {cs left : List Char} {kind : TokenKind} :
    readDecimal cs = .ok (kind, left) ↔
      ∃ whole behind, (cs.takeWhile Char.isDigit = whole ∧ cs.dropWhile Char.isDigit = behind) ∧
      ∃ fraction behind', splitFraction behind = (fraction, behind') ∧
      ∃ exponent behind'', splitExponent behind' = (exponent, behind'') ∧
      ∃ x, Number.ofDigits? (whole ++ fraction ++ exponent) = some x ∧ kind = .number x ∧
        behind'' = left := by
  unfold readDecimal
  constructor
  · intro read
    refine ⟨_, _, ⟨rfl, rfl⟩, _, _, rfl, _, _, rfl, ?_⟩
    dsimp only at read
    split at read
    · next x value =>
      cases read
      exact ⟨x, value, rfl, rfl⟩
    · cases read
  · rintro ⟨_, _, ⟨rfl, rfl⟩, fraction, _, split, exponent, _, split', x, value, rfl, rfl⟩
    simp only [split, split', value]

theorem steady_readDecimal : Steady fun cs kind left => readDecimal cs = .ok (kind, left) := by
  simp only [readDecimal_eq_ok_iff]
  refine (steady_span visible_isDigit).andThen fun whole => ?_
  refine steady_splitFraction.andThen fun fraction => ?_
  refine steady_splitExponent.andThen fun exponent => ?_
  rintro cs kind left ⟨x, value, rfl, rfl⟩
  exact ⟨[], rfl, fun _ => ⟨x, value, rfl, rfl⟩⟩

theorem steady_readHexadecimal :
    Steady fun cs kind left => readHexadecimal cs = .ok (kind, left) := by
  intro cs kind left read
  unfold readHexadecimal at read
  dsimp only at read
  split at read
  · cases read
  · next fits =>
    cases read
    obtain ⟨front, split, again⟩ := steady_span visible_isHexDigit cs _ _ ⟨rfl, rfl⟩
    refine ⟨front, split, fun cut => ?_⟩
    obtain ⟨run, behind⟩ := again cut
    unfold readHexadecimal
    dsimp only
    rw [run, behind, if_neg fits]

/-- A look at the next character for which the text does not go on. -/
theorem Cut.look {left left' : List Char} {p : Char → Bool} {b : Bool} (cut : Cut left left')
    (visible : Visible p) (no : ¬ (b && left.head?.any p) = true) :
    ¬ (b && left'.head?.any p) = true := by
  rw [Bool.and_eq_true_iff, not_and, Bool.not_eq_true] at no ⊢
  exact fun h => cut.head?_any visible (no h)

/-- The letter behind the zero of a hexadecimal literal. -/
def isHexMark (c : Char) : Bool := c == 'x' || c == 'X'

theorem visible_isHexMark : Visible isHexMark :=
  Visible.or (visible_char (by decide)) (visible_char (by decide))

theorem readNumber_eq (c : Char) (cs : List Char) : readNumber c cs =
    if c == '0' && cs.head?.any isHexMark then readHexadecimal (cs.drop 1)
    else readDecimal (c :: cs) := by
  cases cs with
  | nil => rfl
  | cons d rest => rfl

theorem steady_readNumber {c : Char} (digit : c.isDigit = true) :
    Steady fun cs kind left => readNumber c cs = .ok (kind, left) := by
  simp only [readNumber_eq]
  intro cs kind left read
  split at read
  · next marked =>
    cases cs with
    | nil => simp at marked
    | cons d rest =>
        obtain ⟨front, split, again⟩ := steady_readHexadecimal rest _ _ read
        refine ⟨d :: front, congrArg (d :: ·) split, fun cut => ?_⟩
        exact (if_pos marked).trans (again cut)
  · next unmarked =>
    obtain ⟨more, rfl⟩ := readDecimal_suffix digit read
    obtain ⟨front, split, again⟩ := steady_readDecimal (c :: (more ++ left)) _ _ read
    obtain rfl : c :: more = front := List.append_cancel_right split
    refine ⟨more, rfl, fun cut => ?_⟩
    exact (if_neg ((cut.append more).look visible_isHexMark unmarked)).trans (again cut)

theorem head?_beq (cs : List Char) (d : Char) : (cs.head? == some d) = cs.head?.any (· == d) := by
  cases cs with
  | nil => rfl
  | cons c rest => rfl

theorem isBlank_of_markOf {c second : Char} {short long : Mark}
    (found : markOf c = some (short, some (second, long))) : isBlank second = false := by
  unfold markOf at found
  split at found
  all_goals first
    | (cases found; decide)
    | cases found

theorem steady_readMark (c : Char) :
    Steady fun cs kind left => readMark c cs = .ok (kind, left) := by
  intro cs kind left read
  unfold readMark at read ⊢
  simp only [head?_beq] at read ⊢
  have and_ := visible_char (d := '&') (by decide)
  have or_ := visible_char (d := '|') (by decide)
  split at read
  · next both =>
    cases read
    cases cs with
    | nil => simp at both
    | cons d rest => exact ⟨[d], rfl, fun _ => if_pos both⟩
  · next notBoth =>
    split at read
    · next either =>
      cases read
      cases cs with
      | nil => simp at either
      | cons d rest => exact ⟨[d], rfl, fun _ => (if_neg notBoth).trans (if_pos either)⟩
    · next notEither =>
      split at read
      · next short second long found =>
        split at read
        · next follows =>
          cases read
          cases cs with
          | nil => cases follows
          | cons d rest =>
              refine ⟨[d], rfl, fun _ => ?_⟩
              exact (if_neg notBoth).trans ((if_neg notEither).trans (if_pos follows))
        · next alone =>
          cases read
          refine ⟨[], rfl, fun cut => ?_⟩
          have alone' : ¬ (true && _) = true :=
            cut.look (b := true) (visible_char (isBlank_of_markOf found)) alone
          exact (if_neg (cut.look and_ notBoth)).trans
            ((if_neg (cut.look or_ notEither)).trans (if_neg alone'))
      · next short found =>
        cases read
        refine ⟨[], rfl, fun cut => ?_⟩
        exact (if_neg (cut.look and_ notBoth)).trans (if_neg (cut.look or_ notEither))
      · cases read

/-- Behind its quote a literal may be followed by anything. -/
theorem steady_readLiteral {quote : Char} (isQuote : Quote quote) :
    Steady fun cs kind left => readLiteral quote [] [] cs = .ok (kind, left) := by
  simp only [readLiteral_eq_ok_iff isQuote]
  rintro cs kind left ⟨pieces, body, rfl, spells, rfl⟩
  refine ⟨body ++ [quote], by simp, fun _ => ⟨pieces, body, by simp, spells, rfl⟩⟩

/-- A word, of which something is made. -/
theorem steady_word (make : List Char → TokenKind) : Steady fun cs kind left =>
    (.ok (make (cs.takeWhile isNameChar), cs.dropWhile isNameChar) :
      Except LexicalError (TokenKind × List Char)) = .ok (kind, left) := by
  intro cs kind left read
  cases read
  obtain ⟨front, split, again⟩ := steady_span visible_isNameChar cs _ _ ⟨rfl, rfl⟩
  refine ⟨front, split, fun cut => ?_⟩
  obtain ⟨run, behind⟩ := again cut
  rw [run, behind]

/-- The name behind a dollar sign. -/
theorem steady_variable : Steady fun cs kind left =>
    (if cs.head?.any isNameStart then
      .ok (.var (String.ofList (cs.takeWhile isNameChar)), cs.dropWhile isNameChar)
    else .error .missingName : Except LexicalError (TokenKind × List Char)) = .ok (kind, left) := by
  intro cs kind left read
  split at read
  · next starts =>
    cases cs with
    | nil => cases starts
    | cons d rest =>
        have member : isNameChar d = true := isNameChar_of_isNameStart starts
        rw [List.takeWhile_cons_of_pos member, List.dropWhile_cons_of_pos member] at read
        obtain ⟨front, split, again⟩ :=
          steady_word (fun word => .var (String.ofList (d :: word))) rest kind left read
        refine ⟨d :: front, congrArg (d :: ·) split, fun cut => ?_⟩
        dsimp only [List.cons_append]
        rw [List.takeWhile_cons_of_pos member, List.dropWhile_cons_of_pos member]
        exact (if_pos starts).trans (again cut)
  · cases read

/-- The lexeme that is read tells its kind, whatever follows that does not go on with it. -/
theorem steady_readLexeme (c : Char) :
    Steady fun cs kind left => readLexeme c cs = .ok (kind, left) := by
  unfold readLexeme
  by_cases digit : c.isDigit = true
  · simp only [if_pos digit]
    exact steady_readNumber digit
  · by_cases quote : (c == '"' || c == '\'') = true
    · simp only [if_neg digit, if_pos quote]
      exact steady_readLiteral (.of_beq quote)
    · by_cases name : isNameStart c = true
      · simp only [if_neg digit, if_neg quote, if_pos name]
        exact steady_word fun word => wordKind (String.ofList (c :: word))
      · by_cases dollar : (c == '$') = true
        · simp only [if_neg digit, if_neg quote, if_neg name, if_pos dollar]
          exact steady_variable
        · simp only [if_neg digit, if_neg quote, if_neg name, if_neg dollar]
          exact steady_readMark c

/-- A lexeme is read where what follows it is cut off. -/
theorem readLexeme_of_cut {c : Char} {more left left' : List Char} {kind : TokenKind}
    (read : readLexeme c (more ++ left) = .ok (kind, left)) (cut : Cut left left') :
    readLexeme c (more ++ left') = .ok (kind, left') := by
  obtain ⟨front, split, again⟩ := steady_readLexeme c _ _ _ read
  obtain rfl : more = front := List.append_cancel_right split
  exact again cut

end Source

end HostScript
