import HostScript.Proofs.Documents.Grammar
import HostScript.Proofs.Documents.Reading

/-!
# Documents are well-formed

The text of a document follows the grammar of JSON, and its arrays and objects nest as deep as the
lists and records of the document do. What its parts stand for is what is in the document.

## Implementation notes

Only `Document.written_write` looks at the writer. Well-formedness is shown for every text that a
document may have (`Document.Written.json`), by induction on what the text stands for.
-/

namespace HostScript

/-! ### Numbers -/

namespace Number

theorem decimalValue_append (s t : List Char) :
    decimalValue (s ++ t) = decimalValue s * 10 ^ t.length + decimalValue t := by
  induction t using List.reverseRecOn with
  | nil => simp [decimalValue]
  | append_singleton t c ih =>
      simp only [decimalValue, ← List.append_assoc, List.foldl_append, List.foldl_cons,
        List.foldl_nil, List.length_append, List.length_singleton, pow_succ] at ih ⊢
      rw [ih]
      ring

theorem decimalValue_zeros (k : Nat) : decimalValue (List.replicate k '0') = 0 := by
  induction k with
  | zero => rfl
  | succ k ih =>
      rw [List.replicate_succ', decimalValue_append, ih]
      rfl

end Number

namespace Json

open Document.Reading (head?_digitText isDigit_of_mem_digitText decimalValue_digitText)

variable {s t ds : List Char} {x : ℚ}

theorem digits_digitText (n : Nat) : Digits (Number.digitText n) :=
  ⟨Nat.toDigits_ne_nil, isDigit_of_mem_digitText⟩

theorem isDigit_of_mem_zeros {n : Nat} {c : Char} (mem : c ∈ List.replicate n '0') :
    c.isDigit = true := by
  rw [List.eq_of_mem_replicate mem]
  rfl

theorem Digits.append_zeros (digits : Digits s) (n : Nat) : Digits (s ++ List.replicate n '0') :=
  ⟨List.append_ne_nil_of_left_ne_nil digits.1 _,
    fun c mem => (List.mem_append.mp mem).elim (digits.2 c) isDigit_of_mem_zeros⟩

theorem Digits.prepend_zeros (digits : Digits s) (n : Nat) : Digits (List.replicate n '0' ++ s) :=
  ⟨List.append_ne_nil_of_right_ne_nil _ digits.1,
    fun c mem => (List.mem_append.mp mem).elim isDigit_of_mem_zeros (digits.2 c)⟩

theorem wholePart_digitText (n : Nat) : WholePart (Number.digitText n) := by
  refine ⟨digits_digitText n, fun zero => ?_⟩
  obtain rfl : n = 0 := by
    by_contra some_
    exact head?_digitText some_ zero
  rfl

/-- Digits that begin as those of a positive number do. -/
theorem wholePart_of_head {n : Nat} (some_ : n ≠ 0) (digits : Digits s)
    (head : s.head? = (Number.digitText n).head?) : WholePart s := by
  refine ⟨digits, fun zero => ?_⟩
  rw [head] at zero
  exact absurd zero (head?_digitText some_)

theorem wholePart_single {c : Char} (digit : c.isDigit = true) : WholePart [c] := by
  refine ⟨⟨by simp, by simpa using digit⟩, fun zero => ?_⟩
  rw [Option.some.inj zero]

theorem unsigned_whole {whole : List Char} (part : WholePart whole) : Unsigned whole :=
  ⟨whole, [], [], part, .inl rfl, .inl rfl, by simp⟩

theorem FractionDigits.fractionPart (fraction : FractionDigits s ds) : FractionPart s :=
  fraction.imp And.left fun ⟨digits, same⟩ => ⟨ds, digits, same⟩

theorem Shifts.exponentPart {k : Int} (shifts : Shifts s k) : ExponentPart s := by
  obtain ⟨rfl, -⟩ | ⟨mark, sign, ds, mark_, digits, rfl, up | down⟩ := shifts
  · exact .inl rfl
  · refine .inr ⟨mark, sign, ds, mark_, ?_, digits, rfl⟩
    obtain h | h : sign = [] ∨ sign = ['+'] := by simpa using up.1
    · simp [h]
    · simp [h]
  · exact .inr ⟨mark, sign, ds, mark_, by simp [down.1], digits, rfl⟩

theorem Measures.unsigned (measures : Measures s x) : Unsigned s := by
  obtain ⟨whole, fraction, ds, exponent, k, part, digits, shifts, same, -⟩ := measures
  exact ⟨whole, fraction, exponent, part, digits.fractionPart, shifts.exponentPart, same⟩

theorem measures_fraction {whole : List Char} (part : WholePart whole) (digits : Digits ds) :
    Measures (whole ++ '.' :: ds)
      (Number.decimalValue (whole ++ ds) * 10 ^ (-(ds.length : Int))) :=
  ⟨whole, '.' :: ds, ds, [], 0, part, .inr ⟨digits, rfl⟩, .inl ⟨rfl, rfl⟩, by simp, by simp⟩

/-- Zeros behind the digits, up to the point. -/
theorem measures_padded {n : Nat} (some_ : n ≠ 0) (k : Nat) :
    Measures (Number.digitText n ++ List.replicate k '0' ++ '.' :: ['0']) (n * 10 ^ k) := by
  have digits := digits_digitText n
  have part : WholePart (Number.digitText n ++ List.replicate k '0') := by
    apply wholePart_of_head some_ (digits.append_zeros k)
    exact List.head?_append_of_ne_nil _ digits.1
  have zero : Number.decimalValue ['0'] = 0 := rfl
  have worth : (n * 10 ^ k : ℚ) = Number.decimalValue (Number.digitText n ++
      List.replicate k '0' ++ ['0']) * 10 ^ (-(['0'].length : Int)) := by
    simp only [Number.decimalValue_append, Number.decimalValue_zeros, decimalValue_digitText, zero,
      List.length_replicate, List.length_singleton]
    push_cast
    norm_num
    ring
  rw [worth]
  exact measures_fraction part ⟨by simp, by simp⟩

/-- The point among the digits. -/
theorem measures_parted {n k : Nat} (some_ : n ≠ 0) (places : 0 < k)
    (more : k < (Number.digitText n).length) :
    Measures ((Number.digitText n).take ((Number.digitText n).length - k) ++ '.' ::
      (Number.digitText n).drop ((Number.digitText n).length - k)) (n * 10 ^ (-(k : Int))) := by
  have digits := digits_digitText n
  have part : WholePart ((Number.digitText n).take ((Number.digitText n).length - k)) := by
    apply wholePart_of_head some_
    · constructor
      · exact List.ne_nil_of_length_pos (by simp; omega)
      · exact fun c mem => digits.2 c (List.mem_of_mem_take mem)
    · rw [List.head?_take, if_neg (by omega)]
  have behind : Digits ((Number.digitText n).drop ((Number.digitText n).length - k)) := by
    constructor
    · exact List.ne_nil_of_length_pos (by simp; omega)
    · exact fun c mem => digits.2 c (List.mem_of_mem_drop mem)
  have length : (Number.digitText n).length - ((Number.digitText n).length - k) = k := by omega
  have measures := measures_fraction part behind
  rwa [List.take_append_drop, decimalValue_digitText, List.length_drop, length] at measures

/-- The point before the digits, and zeros between them. -/
theorem measures_leading {n k : Nat} (few : (Number.digitText n).length ≤ k) :
    Measures (['0'] ++ '.' :: (List.replicate (k - (Number.digitText n).length) '0' ++
      Number.digitText n)) (n * 10 ^ (-(k : Int))) := by
  have zero : Number.decimalValue (Number.digitText 0) = 0 := rfl
  have length : k - (Number.digitText n).length + (Number.digitText n).length = k := by omega
  have measures := measures_fraction (wholePart_digitText 0)
    ((digits_digitText n).prepend_zeros (k - (Number.digitText n).length))
  rwa [Number.decimalValue_append, Number.decimalValue_append, Number.decimalValue_zeros, zero,
    decimalValue_digitText, zero_mul, zero_mul, zero_add, zero_add, List.length_append,
    List.length_replicate, length] at measures

/-- In positional notation the digits of the decimal stand on both sides of the point, with zeros
where there are none. -/
theorem measures_positionalText {d : Number.Decimal} (some_ : d.digits ≠ 0) :
    Measures (Number.positionalText .document d).toList d.toRat := by
  simp only [Number.positionalText, Number.Decimal.toRat]
  split
  · next nonneg =>
    obtain ⟨k, exponent⟩ := Int.eq_ofNat_of_zero_le nonneg
    rw [exponent, zpow_natCast]
    simpa [Number.zeros, Number.Style.document] using measures_padded some_ k
  · next negative =>
    obtain ⟨k, exponent⟩ := Int.exists_eq_neg_ofNat (Int.not_le.mp negative).le
    simp only [exponent, neg_neg, Int.toNat_natCast]
    split
    · next more =>
      simpa using measures_parted some_ (by omega) more
    · next few =>
      simpa [Number.zeros] using measures_leading (Nat.not_lt.mp few)

/-- The exponent is written with its sign. -/
theorem shifts_mark (k : Int) :
    Shifts ("e" ++ (if k < 0 then "-" else Number.Style.document.plusMark) ++
      String.ofList (Number.digitText k.natAbs)).toList k := by
  refine .inr ⟨'e', (if k < 0 then "-" else Number.Style.document.plusMark).toList,
    Number.digitText k.natAbs, by simp, digits_digitText _, by simp, ?_⟩
  rw [decimalValue_digitText]
  split
  · exact .inr ⟨rfl, by omega⟩
  · exact .inl ⟨by simp [Number.Style.document], by omega⟩

/-- One digit before the point, so that a leading zero does no harm. -/
theorem measures_exponentText (d : Number.Decimal) :
    Measures (Number.exponentText .document d).toList d.toRat := by
  have digits := digits_digitText d.digits
  have value := decimalValue_digitText d.digits
  simp only [Number.exponentText, Number.Decimal.toRat]
  split
  · next none_ => exact absurd none_ digits.1
  · next c only =>
    rw [only] at digits value ⊢
    have digit : c.isDigit = true := digits.2 c (by simp)
    have shifts := shifts_mark (d.exponent + ([c].length : Int) - 1)
    refine ⟨[c], [], [], _, _, wholePart_single digit, .inl ⟨rfl, rfl⟩, shifts, ?_, ?_⟩
    · simp
    · simp [value]
  · next c rest more shape =>
    rw [shape] at digits value ⊢
    have digit : c.isDigit = true := digits.2 c (by simp)
    have behind : Digits rest :=
      ⟨fun none_ => more (none_ ▸ rfl), fun x mem => digits.2 x (List.mem_cons_of_mem c mem)⟩
    have shifts := shifts_mark (d.exponent + ((c :: rest).length : Int) - 1)
    refine ⟨[c], '.' :: rest, rest, _, _, wholePart_single digit, .inr ⟨behind, rfl⟩, shifts,
      ?_, ?_⟩
    · simp
    · have power : d.exponent + ((c :: rest).length : Int) - 1 - rest.length = d.exponent := by
        rw [List.length_cons]
        omega
      rw [List.singleton_append, value, power]

theorem measures_decimalText {d : Number.Decimal} (some_ : d.digits ≠ 0) :
    Measures (Number.decimalText .document d).toList d.toRat := by
  simp only [Number.decimalText, Number.Style.document]
  split
  · exact measures_positionalText some_
  · exact measures_exponentText d

theorem numberText_intText {y : Float} {n : Int} (value : Number.HasValue y n)
    (small : n.natAbs < 10 ^ 15) : NumberText y (Number.intText n).toList := by
  have written : (Number.intText n).toList =
      if n < 0 then '-' :: Number.digitText n.natAbs else Number.digitText n.natAbs := by
    rw [Number.intText]
    split <;> simp
  rw [written]
  exact .integer value small (wholePart_digitText _) (decimalValue_digitText _)

/-- A number is written as what it is. -/
theorem numberText_documentText (y : Float) : NumberText y (Number.documentText y).toList := by
  simp only [Number.documentText]
  split
  · next n whole =>
    obtain ⟨whole, small⟩ := Number.shortWhole?_eq_some_iff.mp whole
    exact numberText_intText (Number.whole?_eq_some_iff.mp whole) small
  · next broken =>
    have other (n : Int) (value : Number.HasValue y n) : 10 ^ 15 ≤ n.natAbs := by
      by_contra small
      have whole := Number.shortWhole?_eq_some_iff.mpr
        ⟨Number.whole?_eq_some_iff.mpr value, Nat.not_le.mp small⟩
      rw [broken] at whole
      cases whole
    have none_ (infinite : ∀ negative m e, Number.parts y ≠ .finite negative m e) :
        NumberText y "null".toList := by
      apply NumberText.null
      rintro _ ⟨negative, m, e, taken, -⟩
      exact infinite negative m e taken
    simp only [Number.text]
    split
    · next taken => exact none_ (by simp [taken])
    · next taken =>
      have text := none_ (by simp [taken])
      split <;> exact text
    · next negative m e taken =>
      have some_ : m ≠ 0 := by
        rintro rfl
        have zero := other 0 ⟨negative, 0, e, taken, by simp⟩
        simp at zero
      have normal := Number.normal_of_parts taken some_
      have measures := measures_decimalText (Number.shortest_digits_ne_zero normal)
      have written : (if negative = true then "-" ++ Number.decimalText .document
          (Number.shortest m e) else Number.decimalText .document (Number.shortest m e)).toList =
          if negative then '-' :: (Number.decimalText .document (Number.shortest m e)).toList
          else (Number.decimalText .document (Number.shortest m e)).toList := by
        split <;> simp
      rw [if_neg some_, written]
      exact .rounded taken other measures (Number.nearest_shortest normal)

/-- The text of a number is a numeral, or the word for what is not finite. -/
theorem NumberText.numeral_or {y : Float} (text : NumberText y s) :
    Numeral s ∨ s = "null".toList := by
  cases text with
  | integer value small whole digits =>
      left
      split
      · exact .inr ⟨_, unsigned_whole whole, rfl⟩
      · exact .inl (unsigned_whole whole)
  | rounded taken other measures nearest =>
      left
      split
      · exact .inr ⟨_, measures.unsigned, rfl⟩
      · exact .inl measures.unsigned
  | null none_ => exact .inr rfl

/-! ### Texts -/

theorem quotes_writeText (text : String) : Quotes (Document.writeText text) text := by
  refine ⟨text.toList.map Document.writeChar, ?_, ?_⟩
  · rw [List.forall₂_map_left_iff, List.forall₂_same]
    exact fun c _ => Document.standsFor_writeChar c
  · rw [Document.writeText, List.flatMap_def]
    rfl

theorem StandsFor.textChar {c : Char} (stands : StandsFor s c) : TextChar s := by
  cases stands with
  | plain quote backslash printable => exact .plain quote backslash printable
  | escape pair =>
      apply TextChar.escape
      have letter := List.mem_map_of_mem (f := Prod.fst) pair
      exact letter
  | code four hexadecimal value => exact .code four hexadecimal

theorem Quotes.quoted {text : String} (quotes : Quotes s text) : Quoted s := by
  obtain ⟨pieces, stand, same⟩ := quotes
  refine ⟨pieces, fun piece mem => ?_, same⟩
  obtain ⟨i, below, rfl⟩ := List.mem_iff_getElem.mp mem
  exact ((List.forall₂_iff_get.mp stand).2 i below (stand.length_eq ▸ below)).textChar

end Json

/-! ### Documents -/

namespace Document

theorem commaSeparated_eq_intercalate (pieces : List (List Char)) :
    commaSeparated pieces = [','].intercalate pieces := by
  fun_induction commaSeparated pieces with
  | case1 => rfl
  | case2 p => simp
  | case3 p q rest ih => simp [ih]

theorem writeItems_eq_map (ds : List Document) : writeItems ds = ds.map write := by
  induction ds with
  | nil => rfl
  | cons d ds ih => rw [writeItems, ih, List.map_cons]

theorem writeEntries_eq_map (es : List (String × Document)) :
    writeEntries es = (es.map fun e => (writeText e.1, e.2.write)).map
      fun m => m.1 ++ ':' :: m.2 := by
  induction es with
  | nil => rfl
  | cons e es ih =>
      rw [writeEntries, ih]
      rfl

mutual

/-- A document is written as what it is. -/
theorem written_write (d : Document) : d.Written d.write := by
  match d with
  | .null => exact .null
  | .bool true => exact .true_
  | .bool false => exact .false_
  | .number x => exact .number (Json.numberText_documentText x)
  | .text t => exact .text (Json.quotes_writeText t)
  | .list ds =>
      rw [write, commaSeparated_eq_intercalate, writeItems_eq_map]
      refine .list (List.length_map ..) fun i d s item here => ?_
      rw [List.getElem?_map, item] at here
      obtain rfl := Option.some.inj here
      exact written_write_items ds d (List.mem_of_getElem? item)
  | .record es =>
      rw [write, commaSeparated_eq_intercalate, writeEntries_eq_map]
      refine .record (List.length_map ..) (fun i e m entry here => ?_) fun i e m entry here => ?_
      · rw [List.getElem?_map, entry] at here
        obtain rfl := Option.some.inj here
        exact Json.quotes_writeText e.1
      · rw [List.getElem?_map, entry] at here
        obtain rfl := Option.some.inj here
        exact written_write_entries es e (List.mem_of_getElem? entry)

theorem written_write_items (ds : List Document) : ∀ d ∈ ds, d.Written d.write := by
  match ds with
  | [] => exact List.forall_mem_nil _
  | d :: rest => exact List.forall_mem_cons.mpr ⟨written_write d, written_write_items rest⟩

theorem written_write_entries (es : List (String × Document)) :
    ∀ e ∈ es, e.2.Written e.2.write := by
  match es with
  | [] => exact List.forall_mem_nil _
  | (_, d) :: rest => exact List.forall_mem_cons.mpr ⟨written_write d, written_write_entries rest⟩

end

theorem depth_le_depthAll {d : Document} {ds : List Document} (mem : d ∈ ds) :
    d.depth ≤ depthAll ds := by
  induction ds with
  | nil => cases mem
  | cons d' ds ih =>
      rw [depthAll]
      obtain rfl | mem := List.mem_cons.mp mem
      · exact le_max_left _ _
      · exact (ih mem).trans (le_max_right _ _)

theorem depth_le_depthEntries {e : String × Document} {es : List (String × Document)}
    (mem : e ∈ es) : e.2.depth ≤ depthEntries es := by
  induction es with
  | nil => cases mem
  | cons e' es ih =>
      rw [depthEntries]
      obtain rfl | mem := List.mem_cons.mp mem
      · exact le_max_left _ _
      · exact (ih mem).trans (le_max_right _ _)

/-- A text of a document is well-formed, and nests as deep as the document does. -/
theorem Written.json {d : Document} {s : List Char} (written : d.Written s) {n : Nat}
    (fits : d.depth ≤ n) : Json n s := by
  induction written generalizing n with
  | null => exact .nullWord
  | true_ => exact .trueWord
  | false_ => exact .falseWord
  | number number =>
      obtain numeral | rfl := number.numeral_or
      · exact .number numeral
      · exact .nullWord
  | text quotes => exact .text quotes.quoted
  | @list ds items size inner ih =>
      obtain ⟨n, rfl⟩ : ∃ k, n = k + 1 := ⟨n - 1, by simp only [depth] at fits; omega⟩
      apply Json.array
      intro s mem
      obtain ⟨i, below, rfl⟩ := List.mem_iff_getElem.mp mem
      have item := List.getElem?_eq_getElem (size ▸ below : i < ds.length)
      apply ih i _ _ item (List.getElem?_eq_getElem below)
      exact (depth_le_depthAll (List.mem_of_getElem? item)).trans (Nat.le_of_succ_le_succ fits)
  | @record es members size keys inner ih =>
      obtain ⟨n, rfl⟩ : ∃ k, n = k + 1 := ⟨n - 1, by simp only [depth] at fits; omega⟩
      apply Json.object
      · intro m mem
        obtain ⟨i, below, rfl⟩ := List.mem_iff_getElem.mp mem
        have entry := List.getElem?_eq_getElem (size ▸ below : i < es.length)
        exact (keys i _ _ entry (List.getElem?_eq_getElem below)).quoted
      · intro m mem
        obtain ⟨i, below, rfl⟩ := List.mem_iff_getElem.mp mem
        have entry := List.getElem?_eq_getElem (size ▸ below : i < es.length)
        apply ih i _ _ entry (List.getElem?_eq_getElem below)
        exact (depth_le_depthEntries (List.mem_of_getElem? entry)).trans
          (Nat.le_of_succ_le_succ fits)

end Document

end HostScript
