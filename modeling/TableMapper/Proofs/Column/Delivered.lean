import Mathlib.Data.Nat.Digits.Defs
import Mathlib.Tactic.Positivity
import TableMapper.Proofs.Column.Stability
import TableMapper.Proofs.Number.Exactness
import TableMapper.Server.Row

/-!
# Numbers that are delivered as text

A server delivers the numbers of integer and decimal columns as text (`DecimalText`), whatever their
length.  A text that fits a signed word is written again as that word, any other one as its nearest
double is.

- What a double is written as is a decimal of its interval (`Encoding.value_decimalOf`), so a number
  that some double is written as is what its nearest one is written as
  (`Encoding.value_decimalOf_ofDecimal`);
- `DecimalText.kept_iff` says which numbers are read from their texts without loss, and
  `Model.writesBack_iff` which ones a model writes back unchanged.
-/

namespace TableMapper

open Decimal (digitChar)
open Numeral (isDigit digitsValue readInt? readInt64? readDouble?)

/-! ## §1 The numerals of doubles -/

namespace Encoding

open Binary64

variable {x : Binary64} {negative : Bool} {c : Nat} {e : Int}

/-- **A double is written as a decimal of its interval**, which is the same number as any other
decimal of the interval that stands on a coarse grid. -/
theorem value_decimalOf (finite : x.isFinite = true) :
    ∃ (d : Nat) (p : Int), (decimalOf x).value = signed x.isNegative (d * 10 ^ p) ∧
      x.interval.Contains d p ∧
      ∀ c e, x.interval.Contains c e → x.Coarse e → (d * 10 ^ p : ℚ) = c * 10 ^ e := by
  by_cases short : x.isWhole = true ∧ x.truncate.natAbs < Nat.pow 10 15
  · have contains := contains_truncate short.1
    have coarse : x.Coarse 0 := coarse_of_short contains short.2 (by decide)
    refine ⟨x.truncate.natAbs, 0, ?_, contains, fun c e other coarse' => ?_⟩
    -- An integer stands on the grid of the ones, and the coarser of two grids decides.
    · rw [decimalOf, if_pos short, Decimal.value_ofInt, truncate_cast]
    · rcases Int.le_total 0 e with finer | coarser
      · exact value_eq_of_contains coarse (Int.le_refl 0) finer contains other
      · exact value_eq_of_contains coarse' coarser (Int.le_refl e) contains other
  · have positive : x.significand ≠ 0 := fun zero => short
      ⟨(truncate_of_zero finite zero).1, (truncate_of_zero finite zero).2 ▸ Nat.pow_pos (by decide)⟩
    obtain ⟨d, p, shortest, contains, same⟩ := value_shortest finite positive NumberFormat.plain.tie
    refine ⟨d, p, ?_, contains, same⟩
    rw [decimalOf, if_neg short, value_toDecimal, shortest]

/-- What some double is written as is what the nearest double is written as. -/
theorem value_decimalOf_ofDecimal (finite : x.isFinite = true)
    (value : (decimalOf x).value = signed negative (c * 10 ^ e)) :
    (ofDecimal negative c e).isFinite = true ∧
      (decimalOf (ofDecimal negative c e)).value = signed negative (c * 10 ^ e) := by
  by_cases none : c = 0
  · have zero : ofDecimal negative 0 e = ofWord negative 0 := rfl
    have decimal : decimalOf (ofWord negative 0) = .ofInt 0 := by cases negative <;> decide +kernel
    rw [none, zero, decimal, Decimal.value_ofInt]
    exact ⟨(fields_ofWord negative (by decide)).1, by simp [signed]⟩
  · have positive : (0 : ℚ) < c * 10 ^ e := by positivity
    obtain ⟨d, p, written, contains, same⟩ := value_decimalOf finite
    obtain ⟨sign, number⟩ := signed_inj (by positivity) positive (written.symm.trans value)
    -- A zero is written as zero, which the number is not.
    have nonzero : x.significand ≠ 0 := by
      intro zero
      have least := contains_zero zero
      rw [← number, same 0 0 least (coarse_of_short least (Nat.pow_pos (by decide)) (by decide))]
        at positive
      simp at positive
    rw [← sign, ofDecimal_of_contains finite nonzero ((Interval.contains_congr number).1 contains),
      sign]
    exact ⟨finite, value⟩

/-- Numbers with few digits are what their nearest double is written as. -/
theorem value_decimalOf_of_short {k places : Nat} (short : c < Nat.pow 10 15) (few : places ≤ 300)
    (finite : (ofDecimal negative (c * 10 ^ k) (-places)).isFinite = true) :
    (decimalOf (ofDecimal negative (c * 10 ^ k) (-places))).value =
      signed negative ((c * 10 ^ k : Nat) * 10 ^ (-places : Int)) := by
  obtain ⟨sign, contains⟩ := contains_ofDecimal (by omega) finite
  obtain ⟨d, p, written, -, same⟩ := value_decimalOf finite
  -- Without its zeros the number stands on a coarser grid.
  have value : (c * 10 ^ (k - places : Int) : ℚ) = (c * 10 ^ k : Nat) * 10 ^ (-places : Int) := by
    have steps := mul_ten_zpow c (show -(places : Int) ≤ k - places by omega)
    rwa [show ((k : Int) - places - -places).toNat = k by omega] at steps
  have onGrid := (Interval.contains_congr value).2 contains
  rw [written, sign, same c _ onGrid (coarse_of_short onGrid short (by omega)), value]

end Encoding

/-! ## §2 Texts of numbers -/

/-- A number as a server delivers it: digits with an optional minus sign and fraction, perhaps with
zeros first. -/
structure DecimalText where
  negative : Bool
  whole : List (Fin 10)
  fraction : List (Fin 10)
  nonempty : whole ≠ []

namespace DecimalText

def chars (t : DecimalText) : List Char :=
  (if t.negative then ['-'] else []) ++
    (t.whole.map digitChar ++ if t.fraction.isEmpty then [] else '.' :: t.fraction.map digitChar)

def text (t : DecimalText) : String := String.ofList t.chars

/-- The number that digits make. -/
def ofDigits (digits : List (Fin 10)) : Nat := Nat.ofDigits 10 (digits.reverse.map Fin.val)

/-- The numeral of the text, which has no zeros first. -/
def numeral (t : DecimalText) : Decimal := ⟨t.negative, ofDigits t.whole, t.fraction⟩

/-- The number that all digits make, those of the fraction included. -/
def coefficient (t : DecimalText) : Nat := ofDigits (t.whole ++ t.fraction)

/-- Digits make the same number as the characters that they are written with. -/
theorem ofDigits_eq (digits : List (Fin 10)) :
    ofDigits digits = digitsValue 0 (digits.map digitChar) := by
  unfold ofDigits
  induction digits with
  | nil => rfl
  | cons d digits ih =>
    rw [List.map_reverse] at ih ⊢
    rw [List.map_cons, Nat.ofDigits_reverse_cons, ih, List.map_cons, digitsValue,
      Numeral.digit?_digitChar, Numeral.digitsValue_eq_add (0 * 10 + _)]
    simp only [List.length_map, Option.getD_some, Nat.zero_mul, Nat.zero_add]
    ring

variable (t : DecimalText)

/-- The numeral stands for all the digits, with the point moved to its place. -/
theorem value_numeral :
    t.numeral.value = signed t.negative (t.coefficient * 10 ^ (-(t.fraction.length : Int))) := by
  have digits : digitsValue (ofDigits t.whole) (t.fraction.map digitChar) = t.coefficient := by
    rw [coefficient, ofDigits_eq, ofDigits_eq, List.map_append, Numeral.digitsValue_append]
  rw [← digits, Decimal.value_eq, zpow_neg, zpow_natCast, div_eq_mul_inv]
  rfl

/-- A number is bounded by its count of digits. -/
theorem coefficient_lt :
    t.coefficient < Nat.pow 10 t.whole.length * Nat.pow 10 t.fraction.length := by
  have digits : ∀ d ∈ (t.whole ++ t.fraction).reverse.map Fin.val, d < 10 := by
    intro d h
    obtain ⟨digit, -, rfl⟩ := List.mem_map.1 h
    exact digit.isLt
  have bound := Nat.ofDigits_lt_base_pow_length (by decide) digits
  rwa [List.length_map, List.length_reverse, List.length_append, Nat.pow_add] at bound

/-! ## §3 Their readers -/

/-- The text is read as the double of its digits, moved to the place of the point. -/
theorem readDouble?_chars :
    readDouble? t.chars =
      some (.ofDecimal t.negative t.coefficient (-(t.fraction.length : Int))) := by
  have nonempty : t.whole.map digitChar ≠ [] := by simpa using t.nonempty
  have read := Decimal.readDouble?_digits t.negative nonempty (Decimal.isDigit_of_mem_map t.whole)
    (Decimal.isDigit_of_mem_map t.fraction)
  rwa [List.isEmpty_map, List.length_map, ← List.map_append, ← ofDigits_eq] at read

/-- A text is read as a word if it is that of an integer that fits one. -/
theorem readInt64?_chars_eq_some_iff {i : Int64} :
    readInt64? t.chars = some i ↔ t.fraction = [] ∧ (i.toInt : ℚ) = t.numeral.value := by
  obtain ⟨d, digits, whole⟩ := List.exists_cons_of_ne_nil t.nonempty
  have read : readInt? t.chars = (Numeral.readDigits? (t.whole.map digitChar ++
      if t.fraction.isEmpty then [] else '.' :: t.fraction.map digitChar)).map
        fun n => if t.negative then -(n : Int) else n := by
    rw [chars, whole]
    exact Numeral.readInt?_of_isDigit t.negative (Numeral.isDigit_digitChar d)
  rw [readInt64?, read]
  cases empty : t.fraction with
  | nil =>
    have nonempty : t.whole.map digitChar ≠ [] := by simpa using t.nonempty
    have value : t.numeral.value =
        (if t.negative then -(ofDigits t.whole : Int) else ofDigits t.whole : Int) := by
      rw [value_numeral, coefficient, empty, List.append_nil, signed]
      split <;> simp
    rw [List.isEmpty_nil, if_pos rfl, List.append_nil,
      Numeral.readDigits?_of_digits nonempty (Decimal.isDigit_of_mem_map t.whole),
      ← ofDigits_eq, value, Int.cast_inj]
    simp [Word.int64?_eq_some_iff]
  | cons d fraction =>
    -- A point is no digit, whatever stands behind it.
    rw [List.isEmpty_cons, if_neg Bool.false_ne_true, Numeral.readDigits?_of_point]
    simp

/-- There are no blanks around the text. -/
theorem trim_chars : Text.trim t.chars = t.chars := by
  have trimmed := Text.trim_digits t.negative (Decimal.isDigit_of_mem_map t.whole)
    (Decimal.isDigit_of_mem_map t.fraction)
  rwa [List.isEmpty_map] at trimmed

/-! ## §4 Which are read without loss -/

open Encoding (decimalOf readDecimal? value_decimalOf_ofDecimal value_decimalOf_of_short)

/-- The double nearest to the number. -/
def nearest : Binary64 := .ofDecimal t.negative t.coefficient (-(t.fraction.length : Int))

/-- The number is read from its text as it is. -/
def Kept : Prop := ∃ d, readDecimal? t.text = some d ∧ d.value = t.numeral.value

variable {t}

/-- A text that is read as a word has the word's numeral. -/
theorem readDecimal?_of_word {i : Int64} (word : readInt64? t.chars = some i) :
    readDecimal? t.text = some (.ofInt i.toInt) := by
  rw [readDecimal?, text, String.toList_ofList, trim_chars, word]

/-- Any other text has the numeral of its nearest double, if that is finite. -/
theorem readDecimal?_of_double (long : readInt64? t.chars = none) :
    readDecimal? t.text = ((some t.nearest).filter Binary64.isFinite).map decimalOf := by
  rw [readDecimal?, text, String.toList_ofList, trim_chars, long, readDouble?_chars]
  rfl

/-- A text is read as a word, if it can be, and else as its nearest double. -/
theorem kept_of_nearest (finite : t.nearest.isFinite = true)
    (value : (decimalOf t.nearest).value = t.numeral.value) : t.Kept := by
  -- An integer that fits a word is kept as it is, and any other number as a double.
  cases word : readInt64? t.chars with
  | some i =>
    refine ⟨_, readDecimal?_of_word word, ?_⟩
    rw [Decimal.value_ofInt]
    exact (t.readInt64?_chars_eq_some_iff.1 word).2
  | none =>
    refine ⟨decimalOf t.nearest, ?_, value⟩
    rw [readDecimal?_of_double word, Option.filter_some, finite, if_pos rfl, Option.map_some]

/-- **A number is read as it is** exactly if it is that of a word, or what some double is written
as. -/
theorem kept_iff : t.Kept ↔
    (t.fraction = [] ∧ ∃ i : Int64, (i.toInt : ℚ) = t.numeral.value) ∨
      ∃ x : Binary64, x.isFinite = true ∧ (decimalOf x).value = t.numeral.value := by
  constructor
  · rintro ⟨d, read, value⟩
    cases word : readInt64? t.chars with
    | some i =>
      obtain ⟨whole, same⟩ := t.readInt64?_chars_eq_some_iff.1 word
      exact .inl ⟨whole, i, same⟩
    | none =>
      rw [readDecimal?_of_double word] at read
      obtain ⟨x, found, rfl⟩ := Option.map_eq_some_iff.1 read
      exact .inr ⟨x, (Option.filter_eq_some_iff.1 found).2, value⟩
  · rintro (⟨whole, i, same⟩ | ⟨x, finite, value⟩)
    · refine ⟨_, readDecimal?_of_word (t.readInt64?_chars_eq_some_iff.2 ⟨whole, same⟩), ?_⟩
      rw [Decimal.value_ofInt, same]
    -- If any double is written as the number, the nearest one is.
    · rw [value_numeral] at value
      obtain ⟨finite', value'⟩ := value_decimalOf_ofDecimal finite value
      exact kept_of_nearest finite' (value'.trans t.value_numeral.symm)

/-- With few digits before the point the nearest double is finite. -/
theorem isFinite_nearest (small : t.whole.length ≤ 300) : t.nearest.isFinite = true :=
  Binary64.isFinite_ofDecimal small t.coefficient_lt

/-- So such a text has a numeral, be it the number or not. -/
theorem exists_readDecimal? (small : t.whole.length ≤ 300) : ∃ d, readDecimal? t.text = some d := by
  cases word : readInt64? t.chars with
  | some i => exact ⟨_, readDecimal?_of_word word⟩
  | none =>
    refine ⟨decimalOf t.nearest, ?_⟩
    rw [readDecimal?_of_double word, Option.filter_some, isFinite_nearest small, if_pos rfl,
      Option.map_some]

/-- Numbers of at most 15 digits are read as they are, whatever zeros follow. -/
theorem kept_of_short (small : t.whole.length ≤ 300) (places : t.fraction.length ≤ 300) {c k : Nat}
    (digits : t.coefficient = c * 10 ^ k) (short : c < 10 ^ 15) : t.Kept := by
  have finite := isFinite_nearest small
  refine kept_of_nearest finite ?_
  rw [nearest, digits] at finite ⊢
  rw [value_decimalOf_of_short short places finite, value_numeral, digits]

end DecimalText

/-! ## §5 Numbers that are written back -/

namespace Model

open Encoding (decimalOf readDecimal?)

variable {m : Model} {key : String} {p : Property} {type : ServerType} {t : DecimalText}

/-- The literal that is written for a number after it came as text from a column of a type. -/
def rewritten (m : Model) (key : String) (type : ServerType) (t : DecimalText) :
    Except Error Sql.Literal :=
  m.literal key (m.decode key (RawValue.ofText type t.chars))

/-- The number of the text is written back as it was. -/
def WritesBack (m : Model) (key : String) (type : ServerType) (t : DecimalText) : Prop :=
  ∃ d, m.rewritten key type t = .ok (.number d) ∧ d.value = t.numeral.value

/-- From all columns but those of doubles a text is written as the numeral that is read from it. -/
theorem rewritten_eq_ok_iff (declared : m.property? key = some p) (number : p.type = .number)
    (notUuid : m.isUuidId key = false) (notFloating : type ≠ .floating) {d : Decimal} :
    m.rewritten key type t = .ok (.number d) ↔ readDecimal? t.text = some d := by
  have plain : p.type.isSerialized = false := by rw [number]; rfl
  have written (v : Value) (single : Encoding.IsSingle v) :
      m.literal key (m.decode key v) = Encoding.number key v := by
    -- Columns of numbers are delivered as they are.
    have decoded : m.decode key v = v := by
      rw [decode, single.1, declared, if_neg Bool.false_ne_true]
      simp only [number]
      rfl
    rw [decoded, literal_of_plain declared notUuid plain single, number]
    rfl
  have asText : m.literal key (m.decode key (.string t.text)) = .ok (.number d) ↔
      readDecimal? t.text = some d := by
    rw [written (.string t.text) ⟨rfl, by simp⟩, Encoding.number]
    cases readDecimal? t.text <;> simp
  unfold rewritten
  cases type with
  | floating => exact absurd rfl notFloating
  | other => exact asText
  | integer =>
    rw [RawValue.ofText]
    -- The server itself makes a word of what fits one, and the numeral is the same.
    cases word : readInt64? t.chars with
    | none => exact asText
    | some i =>
      rw [written (.int i) ⟨rfl, by simp⟩, Encoding.number, DecimalText.readDecimal?_of_word word]
      simp [Sql.Literal.ofInt]

/-- **Numbers that come as text are written back as they were** exactly if they are integers that
fit a signed word, or what some double is written as.  Numbers of at most 15 digits always are; any
other number may be changed, but all with at most 300 digits before the point have a literal. -/
theorem writesBack_iff (declared : m.property? key = some p) (number : p.type = .number)
    (notUuid : m.isUuidId key = false) (notFloating : type ≠ .floating) :
    (m.WritesBack key type t ↔
      (t.fraction = [] ∧ ∃ i : Int64, (i.toInt : ℚ) = t.numeral.value) ∨
        ∃ x : Binary64, x.isFinite = true ∧ (decimalOf x).value = t.numeral.value) ∧
    (t.whole.length ≤ 300 → ∃ d, m.rewritten key type t = .ok (.number d)) ∧
    (t.whole.length ≤ 300 → t.fraction.length ≤ 300 →
      (∃ c k, t.coefficient = c * 10 ^ k ∧ c < 10 ^ 15) → m.WritesBack key type t) := by
  have written {d : Decimal} : m.rewritten key type t = .ok (.number d) ↔
      readDecimal? t.text = some d :=
    rewritten_eq_ok_iff declared number notUuid notFloating
  -- What is written back depends on the numeral alone.
  have kept : m.WritesBack key type t ↔ t.Kept :=
    exists_congr fun d => and_congr_left' written
  refine ⟨kept.trans DecimalText.kept_iff, fun small => ?_, ?_⟩
  · obtain ⟨d, read⟩ := DecimalText.exists_readDecimal? small
    exact ⟨d, written.2 read⟩
  · rintro small places ⟨c, k, digits, short⟩
    exact kept.2 (DecimalText.kept_of_short small places digits short)

/-- A decimal with zeros on both sides is written back. -/
theorem writesBack_zeros :
    priced.WritesBack "price" .other ⟨true, [0, 0, 1, 2], [5, 0], by decide⟩ := by
  have declared : priced.property? "price" = some (.ofType "price" .number) := rfl
  have notFloating : ServerType.other ≠ .floating := by decide
  obtain ⟨-, -, short⟩ := writesBack_iff declared rfl rfl notFloating
  exact short (by decide) (by decide) ⟨125, 1, by decide, by decide⟩

/-- The text of the largest word without sign. -/
def largestWord : DecimalText := ⟨false, Decimal.lastDigits 20 18446744073709551615, [], by decide⟩

/-- The largest word without sign fits no signed one and is changed. -/
theorem rewritten_largestWord :
    priced.rewritten "price" .integer largestWord = .ok (.number (.ofInt 18446744073709552000)) ∧
      ¬ priced.WritesBack "price" .integer largestWord := by
  have declared : priced.property? "price" = some (.ofType "price" .number) := rfl
  have notFloating : ServerType.integer ≠ .floating := by decide
  have written {d : Decimal} : priced.rewritten "price" .integer largestWord = .ok (.number d) ↔
      readDecimal? largestWord.text = some d := rewritten_eq_ok_iff declared rfl rfl notFloating
  have long : readInt64? largestWord.chars = none := by decide +kernel
  have finite : largestWord.nearest.isFinite = true := by decide +kernel
  have decimal : decimalOf largestWord.nearest = .ofInt 18446744073709552000 := by decide +kernel
  have read : readDecimal? largestWord.text = some (.ofInt 18446744073709552000) := by
    rw [DecimalText.readDecimal?_of_double long, Option.filter_some, finite, if_pos rfl,
      Option.map_some, decimal]
  have number : largestWord.numeral = .ofInt 18446744073709551615 := by decide
  refine ⟨written.2 read, ?_⟩
  rintro ⟨d, rewritten, value⟩
  obtain rfl := Option.some.inj (read.symm.trans (written.1 rewritten))
  -- The two integers differ in their last four digits.
  rw [number, Decimal.value_ofInt, Decimal.value_ofInt, Int.cast_inj] at value
  cases value

end Model

end TableMapper
