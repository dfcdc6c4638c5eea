import TableMapper.Column.Encoding
import TableMapper.Proofs.Calendar.InstantText
import TableMapper.Proofs.Number.Shortest

/-!
# Numbers in columns are read back

A column of numbers holds the numerals of signed words and of finite doubles, whatever kind of value
they were written for (`Encoding.Numeric`).  `Encoding.Numeric.readDecimal?_text` reads each of them
back.  Whole doubles come back as words, with the same numeral.
-/

namespace TableMapper

open Text (trim)
open Numeral (isDigit readInt? readInt64? readDouble?)

/-- Around digits with a sign and a fraction there is nothing to trim. -/
theorem Text.trim_digits (negative : Bool) {whole fraction : List Char}
    (wholeDigits : ∀ c ∈ whole, isDigit c = true)
    (fractionDigits : ∀ c ∈ fraction, isDigit c = true) :
    trim ((if negative then ['-'] else []) ++
      (whole ++ if fraction.isEmpty then [] else '.' :: fraction)) =
      (if negative then ['-'] else []) ++
        (whole ++ if fraction.isEmpty then [] else '.' :: fraction) := by
  apply trim_of_all
  intro c h
  simp only [List.mem_append] at h
  -- A sign, digits and a point are no blanks.
  rcases h with sign | digit | rest
  · split at sign
    · rw [List.mem_singleton.1 sign]
      decide
    · cases sign
  · exact isBlank_of_isDigit (wholeDigits c digit)
  · split at rest
    · cases rest
    · rcases List.mem_cons.1 rest with rfl | digit
      · decide
      · exact isBlank_of_isDigit (fractionDigits c digit)

/-- There are no blanks around a numeral. -/
theorem Decimal.trim_chars (d : Decimal) : trim d.chars = d.chars := by
  have whole : ∀ c ∈ natChars d.whole, isDigit c = true := fun c => isDigit_of_mem_natChars
  have trimmed := Text.trim_digits d.negative whole (isDigit_of_mem_map d.fraction)
  rwa [List.isEmpty_map, ← chars_eq] at trimmed

namespace Encoding

/-- The numerals that a column of numbers holds: those of words, and those of finite doubles. -/
inductive Numeric : Decimal → Prop where
  | word (i : Int64) : Numeric (.ofInt i.toInt)
  | double {x : Binary64} (finite : x.isFinite = true) : Numeric (decimalOf x)

/-- An integer of at most 15 digits is a word. -/
theorem exists_word_of_short {x : Binary64} (short : x.truncate.natAbs < Nat.pow 10 15) :
    ∃ i : Int64, i.toInt = x.truncate := by
  have power : Nat.pow 10 15 = 1000000000000000 := rfl
  have low : Int64.minValue.toInt = -9223372036854775808 := rfl
  have high : Int64.maxValue.toInt = 9223372036854775807 := rfl
  have fits : Word.int64? x.truncate = some (Int64.ofInt x.truncate) := by
    rw [Word.int64?, low, high, if_pos (by omega)]
  exact ⟨_, Word.int64?_eq_some_iff.1 fits⟩

/-- A double that is not written as a word is not written as a zero with a sign. -/
theorem whole_ne_zero_of_negative {x : Binary64} (reads : readDouble? x.toDecimal.chars = some x)
    (long : ¬ (x.isWhole = true ∧ x.truncate.natAbs < Nat.pow 10 15))
    (fraction : x.toDecimal.fraction = [])
    (negative : x.toDecimal.negative = true) : x.toDecimal.whole ≠ 0 := by
  intro zero
  have text : x.toDecimal.chars = ['-', '0'] := by
    rw [Decimal.chars, negative, zero, fraction]
    rfl
  rw [text] at reads
  -- Only the negative zero is read from this text, and it counts as short.
  obtain rfl : Binary64.ofWord true 0 = x := Option.some.inj reads
  have finite : (Binary64.ofWord true 0).isFinite = true := by decide
  have zero : (Binary64.ofWord true 0).significand = 0 := by decide
  obtain ⟨whole, truncated⟩ := Binary64.truncate_of_zero finite zero
  refine long ⟨whole, ?_⟩
  rw [truncated]
  exact Nat.pow_pos (by decide)

/-- **The numerals of a column are read back.** -/
theorem Numeric.readDecimal?_text {d : Decimal} (numeric : Numeric d) :
    readDecimal? d.text = some d := by
  have words (i : Int64) : readDecimal? (Decimal.ofInt i.toInt).text =
      some (Decimal.ofInt i.toInt) := by
    rw [readDecimal?, Decimal.text, String.toList_ofList, Decimal.trim_chars,
      Decimal.readInt64?_ofInt]
  cases numeric with
  | word i => exact words i
  | @double x finite =>
    have reads := x.readDouble?_toDecimal finite
    by_cases short : x.isWhole = true ∧ x.truncate.natAbs < Nat.pow 10 15
    · obtain ⟨i, value⟩ := exists_word_of_short short.2
      rw [decimalOf, if_pos short, ← value]
      exact words i
    · have long : decimalOf x = x.toDecimal := if_neg short
      rw [readDecimal?, Decimal.text, String.toList_ofList, Decimal.trim_chars, long]
      cases found : readInt64? x.toDecimal.chars with
      | none => simp only [reads, Option.filter_some, finite, if_true, Option.map_some, long]
      | some i =>
        -- A double of at least 10^15 may still be read as a word; its numeral has no fraction then.
        have read : readInt? x.toDecimal.chars = some i.toInt := by
          obtain ⟨n, read, fits⟩ := Option.bind_eq_some_iff.1 found
          rw [read, Word.int64?_eq_some_iff.1 fits]
        have fraction : x.toDecimal.fraction = [] := by
          by_contra fraction
          cases (Decimal.readInt?_chars_of_fraction fraction).symm.trans read
        have value : i.toInt = x.toDecimal.wholeInt :=
          Option.some.inj (read.symm.trans (Decimal.readInt?_chars fraction))
        show some (Decimal.ofInt i.toInt) = _
        rw [value, Decimal.ofInt_wholeInt fraction (whole_ne_zero_of_negative reads short fraction)]

end Encoding

end TableMapper
