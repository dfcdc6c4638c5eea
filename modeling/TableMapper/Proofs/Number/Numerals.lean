import TableMapper.Number.NumberText
import TableMapper.Proofs.Number.Digits

/-!
# Numerals are read back

What the readers of numbers make of the text of a `Decimal`.  One without a fraction is read as its
integer (`readInt?_chars`), and one with a fraction is no integer (`readInt?_chars_of_fraction`).
-/

namespace TableMapper

open Decimal (natChars digitChar)
open Numeral (isDigit readDigits? readNat? readInt? readInt64?)

/-! ## §1 Signs -/

/-- Of a text that begins with a digit the sign says that of the integer. -/
theorem Numeral.readInt?_of_isDigit (negative : Bool) {c : Char} {s : List Char}
    (digit : isDigit c = true) :
    readInt? ((if negative then ['-'] else []) ++ c :: s) =
      (readDigits? (c :: s)).map fun n => if negative then -(n : Int) else n := by
  have noMinus : c ≠ '-' := by rintro rfl; cases digit
  have noPlus : c ≠ '+' := by rintro rfl; cases digit
  have plain : readNat? (c :: s) = readDigits? (c :: s) := by
    unfold readNat?
    split
    · exact absurd (List.cons.inj ‹_›).1 noPlus
    · rfl
  -- A digit is no sign, so the sign read is the one written.
  cases negative with
  | true => rfl
  | false =>
    rw [if_neg Bool.false_ne_true, List.nil_append]
    unfold readInt?
    split
    · exact absurd (List.cons.inj ‹_›).1 noMinus
    · rw [plain]
      rfl

namespace Decimal

/-! ## §2 Integers -/

/-- The integer of a numeral without its fraction. -/
def wholeInt (d : Decimal) : Int := if d.negative then -(d.whole : Int) else d.whole

/-- A numeral is its sign, its whole part and perhaps a fraction. -/
theorem chars_eq (d : Decimal) :
    d.chars = (if d.negative then ['-'] else []) ++ (natChars d.whole ++
      if d.fraction.isEmpty then [] else '.' :: d.fraction.map digitChar) := by
  rw [chars, List.append_assoc]

/-- The sign is read first, and then the digits. -/
theorem readInt?_chars_eq (d : Decimal) :
    readInt? d.chars = (readDigits? (natChars d.whole ++
      if d.fraction.isEmpty then [] else '.' :: d.fraction.map digitChar)).map
        fun n => if d.negative then -(n : Int) else n := by
  obtain ⟨c, s, text, digit⟩ := exists_natChars_eq_cons d.whole
  rw [chars_eq, text]
  exact Numeral.readInt?_of_isDigit d.negative digit

/-- Without a fraction, the numeral is that of an integer. -/
theorem readInt?_chars {d : Decimal} (whole : d.fraction = []) :
    readInt? d.chars = some d.wholeInt := by
  rw [readInt?_chars_eq, whole, List.isEmpty_nil, if_pos rfl, List.append_nil, readDigits?_natChars]
  rfl

/-- A numeral with a fraction is not read as an integer. -/
theorem readInt?_chars_of_fraction {d : Decimal} (fraction : d.fraction ≠ []) :
    readInt? d.chars = none := by
  rw [readInt?_chars_eq, if_neg (by simpa using fraction), Numeral.readDigits?_of_point]
  rfl

@[simp]
theorem wholeInt_ofInt (i : Int) : (ofInt i).wholeInt = i := by
  show (if decide (i < 0) = true then -(i.natAbs : Int) else i.natAbs) = i
  simp only [decide_eq_true_eq]
  split <;> omega

/-- A numeral is that of its integer, unless it is a zero with a sign. -/
theorem ofInt_wholeInt {d : Decimal} (whole : d.fraction = [])
    (noMinusZero : d.negative = true → d.whole ≠ 0) :
    ofInt d.wholeInt = d := by
  obtain ⟨negative, n, fraction⟩ := d
  obtain rfl : fraction = [] := whole
  cases negative with
  | true =>
    -- Minus zero has no integer of its own, so it is excluded.
    have positive : n ≠ 0 := noMinusZero rfl
    simp only [ofInt, wholeInt, if_true, Int.natAbs_neg, Int.natAbs_natCast, mk.injEq,
      decide_eq_true_eq, and_true]
    omega
  | false => simp [ofInt, wholeInt]

/-- A word is read back from its numeral. -/
theorem readInt64?_ofInt (i : Int64) : readInt64? (ofInt i.toInt).chars = some i := by
  rw [readInt64?, readInt?_chars rfl, wholeInt_ofInt]
  exact Word.int64?_eq_some_iff.2 rfl

end Decimal

end TableMapper
