import TableMapper.Proofs.Number.Numerals
import TableMapper.Proofs.Number.Rounding

/-!
# Doubles are read back from their shortest digits

The search for the shortest digits of a double ends with a decimal of its interval
(`Binary64.exists_shortest`), and that decimal, written out without an exponent, is read as the
double (`Binary64.readDouble?_toDecimal`).
-/

namespace TableMapper

open Decimal (natChars digitChar lastDigits paddedChars)
open Numeral (isDigit digitsValue takeDigits takeSign readUnsigned? readDouble?)

namespace Binary64

/-! ## §1 The search ends -/

/-- What is found on a grid lies in the interval, and something is found if one of the neighbours
does. -/
theorem Interval.onGrid?_spec (i : Interval) (tie : Tie) (p : Int) :
    (∀ c, i.onGrid? tie p = some c → i.Contains c p) ∧
      (i.Contains (i.value * tenDenominator p / tenNumerator p) p ∨
        i.Contains (i.value * tenDenominator p / tenNumerator p + 1) p →
          ∃ c, i.onGrid? tie p = some c) := by
  unfold onGrid? Contains tenNumerator tenDenominator
  -- The steps of the grid may be any numbers; these are too large to be computed.
  generalize Nat.pow 2 1076 = quarters
  generalize quarters * (if 0 ≤ p then Nat.pow 10 p.toNat else 1) = num
  generalize (if 0 ≤ p then 1 else Nat.pow 10 (-p).toNat) = den
  have taken {c : Nat} (lies : i.holds (c * num) den = true) (lowest : Prop) :
      (∀ d, some c = some d → i.holds (d * num) den = true) ∧ (lowest → ∃ d, some c = some d) :=
    ⟨fun d same => Option.some.inj same ▸ lies, fun _ => ⟨c, rfl⟩⟩
  simp only
  split
  case h_1 below above =>
    refine ⟨fun _ same => absurd same (by simp), fun lies => ?_⟩
    rcases lies with lies | lies
    · cases below.symm.trans lies
    · cases above.symm.trans lies
  case h_2 below _ => exact taken below _
  case h_3 _ above => exact taken above _
  case h_4 below above =>
    -- Either neighbour may be taken, and both lie in the interval.
    cases tie
    all_goals
      repeat' split
      all_goals first | exact taken below _ | exact taken above _

/-- An interval holds what lies strictly between its bounds. -/
theorem Interval.holds_of_lt {i : Interval} {num den : Nat} (low : i.low * den < num)
    (high : num < i.high * den) :
    i.holds num den = true := by
  unfold holds
  split
  · exact decide_eq_true ⟨Nat.le_of_lt low, Nat.le_of_lt high⟩
  · exact decide_eq_true ⟨low, high⟩

/-- A grid no coarser than the last bit hits the interval. -/
theorem exists_onGrid? {x : Binary64} (positive : x.significand ≠ 0) (tie : Tie) {p : Int}
    (fine : tenNumerator p ≤ tenDenominator p * 2 ^ x.shift) :
    ∃ c, x.interval.onGrid? tie p = some c := by
  refine (x.interval.onGrid?_spec tie p).2 (.inl ?_)
  obtain ⟨below, cases, low, value, high⟩ := x.interval_mul (tenDenominator p)
  have step := Nat.mul_pos (tenDenominator_pos p) (Nat.two_pow_pos x.shift)
  -- One step of the grid fits between the value and its upper bound.
  have least := Nat.mul_le_mul_right (tenDenominator p * 2 ^ x.shift) (Nat.pos_of_ne_zero positive)
  have parts := Nat.div_add_mod (x.interval.value * tenDenominator p) (tenNumerator p)
  have rest := Nat.mod_lt (x.interval.value * tenDenominator p) (tenNumerator_pos p)
  rw [Nat.mul_comm] at parts
  rcases cases with ⟨rfl, -⟩ | ⟨rfl, -⟩
  all_goals exact Interval.holds_of_lt (by omega) (by omega)

/-- The last grid of the search is that fine, for every power of two that the least bit of a double
can have. -/
theorem fine_of_lastGrid : (List.range 2102).all (fun l =>
    let p : Int := ((l : Int) - 1075) * 30103 / 100000 + 1 - 21
    decide (2 ^ 54 * tenNumerator p ≤ 2 ^ l * tenDenominator p)) = true := by
  decide +kernel

/-- The value has at most 55 binary digits besides its shift. -/
theorem log2_value_lt {x : Binary64} (positive : x.significand ≠ 0) :
    x.interval.value.log2 < x.shift + 55 := by
  have value : x.interval.value = 4 * x.significand * 2 ^ x.shift := rfl
  -- A significand has 53 bits, and the value four times as many units.
  have bound : x.interval.value < 2 ^ (x.shift + 55) := by
    have significand := Nat.mul_lt_mul_of_pos_right x.significand_spec.1 (Nat.two_pow_pos x.shift)
    have power : 2 ^ (x.shift + 55) = 4 * (2 ^ 53 * 2 ^ x.shift) := by ring
    rw [value, power, Nat.mul_assoc]
    omega
  have nonzero : x.interval.value ≠ 0 :=
    Nat.mul_ne_zero (Nat.mul_ne_zero (by decide) positive) (Nat.two_pow_pos _).ne'
  exact (Nat.log2_lt nonzero).2 bound

/-- The last grid of the search hits the interval. -/
theorem exists_onGrid?_last {x : Binary64} (finite : x.isFinite = true)
    (positive : x.significand ≠ 0)
    (tie : Tie) : ∃ c, x.interval.onGrid? tie (x.interval.topExponent - (21 : Nat)) = some c := by
  apply exists_onGrid? positive tie
  -- The grid depends on nothing but the power of two of the value.
  have log2 := log2_value_lt positive
  have shift := shift_le finite
  have fine :=
    List.all_eq_true.1 fine_of_lastGrid x.interval.value.log2 (List.mem_range.2 (by omega))
  have powers : 2 ^ x.interval.value.log2 ≤ 2 ^ 54 * 2 ^ x.shift := by
    rw [← Nat.pow_add]
    exact Nat.pow_le_pow_right (by decide) (by omega)
  have scaled : 2 ^ 54 * tenNumerator (x.interval.topExponent - (21 : Nat)) ≤
      2 ^ x.interval.value.log2 * tenDenominator (x.interval.topExponent - (21 : Nat)) :=
    of_decide_eq_true fine
  refine Nat.le_of_mul_le_mul_left (Nat.le_trans scaled ?_) (Nat.two_pow_pos 54)
  rw [Nat.mul_comm (tenDenominator _), ← Nat.mul_assoc]
  exact Nat.mul_le_mul_right _ powers

/-- The numbers below one that stands in a range stand before it. -/
theorem mem_of_range_eq_append {n k j : Nat} {before after : List Nat}
    (split : List.range n = before ++ k :: after) (less : j < k) : j ∈ before := by
  -- A range is sorted, so a smaller number stands before.
  have sorted : (before ++ k :: after).Pairwise (· < ·) := split ▸ List.pairwise_lt_range
  have listed : k ∈ List.range n := by simp [split]
  have there : j ∈ before ++ k :: after := by
    rw [← split, List.mem_range]
    exact Nat.lt_trans less (List.mem_range.1 listed)
  refine (List.mem_append.1 there).resolve_right fun later => ?_
  rcases List.mem_cons.1 later with same | later
  · omega
  · have := (List.pairwise_cons.1 (List.pairwise_append.1 sorted).2.1).1 j later
    omega

/-- **The search ends with a decimal of the interval**, on the coarsest grid that hits it. -/
theorem exists_shortest {x : Binary64} (finite : x.isFinite = true) (positive : x.significand ≠ 0)
    (tie : Tie) :
    ∃ c p, x.shortest tie = ⟨c, p⟩ ∧ x.interval.Contains c p ∧
      ∀ q ≤ x.interval.topExponent, (∃ d, x.interval.onGrid? tie q = some d) → q ≤ p := by
  have nonzero : x.magnitude ≠ 0 := Nat.mul_ne_zero positive (Nat.two_pow_pos _).ne'
  obtain ⟨last, hit⟩ := exists_onGrid?_last finite positive tie
  simp only [shortest, if_neg nonzero]
  cases found : (List.range 22).findSome? fun k : Nat =>
      (x.interval.onGrid? tie (x.interval.topExponent - k)).map fun c =>
        ScaledDigits.mk c (x.interval.topExponent - k) with
  | none =>
    -- At the latest the last grid hits.
    have missed := List.findSome?_eq_none_iff.1 found 21 (List.mem_range.2 (by decide))
    rw [hit] at missed
    cases missed
  | some d =>
    obtain ⟨before, k, after, split, grid, missed⟩ := List.findSome?_eq_some_iff.1 found
    obtain ⟨c, onGrid, rfl⟩ := Option.map_eq_some_iff.1 grid
    refine ⟨c, _, rfl, (x.interval.onGrid?_spec tie _).1 c onGrid, ?_⟩
    rintro q top ⟨d, hits⟩
    by_contra coarser
    -- A coarser grid that hits would have been met before.
    have met := missed (x.interval.topExponent - q).toNat (mem_of_range_eq_append split (by omega))
    rw [Int.toNat_of_nonneg (by omega), sub_sub_cancel, hits] at met
    cases met

end Binary64

/-! ## §2 The digits are read back -/

namespace Decimal

/-- Digits have no letter case. -/
theorem toLower_of_isDigit {c : Char} (digit : isDigit c = true) : c.toLower = c := by
  have digits : ∀ d : Fin 10, (digitChar d).toLower = digitChar d := by decide
  obtain ⟨d, rfl⟩ := Numeral.exists_digitChar_of_isDigit digit
  exact digits d

/-- A text that begins with a digit is no name of an infinity or a NaN. -/
theorem readDouble?_of_isDigit (negative : Bool) {c : Char} {s : List Char}
    (digit : isDigit c = true) :
    readDouble? ((if negative then ['-'] else []) ++ c :: s) = readUnsigned? negative (c :: s) := by
  have noMinus : c ≠ '-' := by rintro rfl; cases digit
  have noPlus : c ≠ '+' := by rintro rfl; cases digit
  have sign : takeSign ((if negative then ['-'] else []) ++ c :: s) = (negative, c :: s) := by
    cases negative with
    | true => rfl
    | false => simp [takeSign, noMinus, noPlus]
  -- The names of infinity and of no number start with a letter.
  have notName {name : String} (letter : (name.toList.head?.all fun d => !isDigit d) = true) :
      String.ofList ((c :: s).map Char.toLower) ≠ name := by
    rintro rfl
    rw [String.toList_ofList, List.map_cons, toLower_of_isDigit digit] at letter
    simp [digit] at letter
  simp only [readDouble?, sign]
  rw [if_neg (not_or.2 ⟨notName (by decide), notName (by decide)⟩), if_neg (notName (by decide))]

/-- Digits with a sign and a fraction are read as the double nearest to them. -/
theorem readDouble?_digits (negative : Bool) {whole fraction : List Char} (nonempty : whole ≠ [])
    (wholeDigits : ∀ c ∈ whole, isDigit c = true)
    (fractionDigits : ∀ c ∈ fraction, isDigit c = true) :
    readDouble? ((if negative then ['-'] else []) ++
        (whole ++ if fraction.isEmpty then [] else '.' :: fraction)) =
      some (.ofDecimal negative (digitsValue 0 (whole ++ fraction))
        (-(fraction.length : Int))) := by
  obtain ⟨c, s, text⟩ := List.exists_cons_of_ne_nil nonempty
  have digit : isDigit c = true := wholeDigits c (text ▸ List.mem_cons_self ..)
  have parts : readDouble? ((if negative then ['-'] else []) ++
      (whole ++ if fraction.isEmpty then [] else '.' :: fraction)) =
        readUnsigned? negative (whole ++ if fraction.isEmpty then [] else '.' :: fraction) := by
    rw [text]
    exact readDouble?_of_isDigit negative digit
  have notEmpty : whole.isEmpty = false := by simp [nonempty]
  rw [parts]
  cases empty : fraction.isEmpty with
  | true =>
    have all : takeDigits (whole ++ []) = (whole, []) := Numeral.takeDigits_append wholeDigits nofun
    rw [List.isEmpty_iff.1 empty, if_pos rfl, readUnsigned?, all]
    simp [notEmpty, Numeral.readExponent?]
  | false =>
    -- The point ends the first run of digits, and the end of the text the second.
    have rest : takeDigits (fraction ++ []) = (fraction, []) :=
      Numeral.takeDigits_append fractionDigits nofun
    rw [List.append_nil] at rest
    rw [if_neg Bool.false_ne_true, readUnsigned?,
      Numeral.takeDigits_append wholeDigits (by rintro _ ⟨⟩; decide)]
    simp [rest, notEmpty, Numeral.readExponent?]

/-- A numeral is read as the double nearest to it. -/
theorem readDouble?_chars (d : Decimal) :
    readDouble? d.chars = some (.ofDecimal d.negative
      (digitsValue 0 (natChars d.whole ++ d.fraction.map digitChar))
        (-(d.fraction.length : Int))) := by
  have read :=
    readDouble?_digits d.negative (natChars_ne_nil d.whole) (fun c => isDigit_of_mem_natChars)
    (isDigit_of_mem_map d.fraction)
  rwa [List.isEmpty_map, List.length_map, ← chars_eq] at read

end Decimal

namespace Binary64

/-- Written out without an exponent, a decimal of the interval of a double is read as the double. -/
theorem readDouble?_ofScaled {x : Binary64} (finite : x.isFinite = true)
    (positive : x.significand ≠ 0) {c : Nat} {e : Int} (contains : x.interval.Contains c e) :
    readDouble? (Decimal.ofScaled x.isNegative c e).chars = some x := by
  rw [Decimal.readDouble?_chars, Decimal.ofScaled]
  -- The digits are cut at the point, or followed by zeros if there is no fraction.
  rcases Int.lt_or_le e 0 with negative | nonneg
  · rw [if_neg (Int.not_le.2 negative)]
    have digits : digitsValue 0 (natChars (c / Nat.pow 10 (-e).toNat) ++ paddedChars (-e).toNat c) =
        c := by
      rw [Numeral.digitsValue_append, Decimal.digitsValue_natChars, Numeral.digitsValue_eq_add,
        Decimal.digitsValue_paddedChars, Decimal.length_paddedChars]
      exact Nat.div_add_mod' c _
    have places : -(((lastDigits (-e).toNat c).length : Nat) : Int) = e := by
      rw [Decimal.length_lastDigits]
      omega
    show some (ofDecimal x.isNegative (digitsValue 0 (_ ++ paddedChars (-e).toNat c))
      (-(((lastDigits (-e).toNat c).length : Nat) : Int))) = _
    rw [digits, places, ofDecimal_of_contains finite positive contains]
  · rw [if_pos nonneg]
    have whole : x.interval.Contains (c * Nat.pow 10 e.toNat) 0 := by
      apply (Interval.contains_of_nonneg (Int.le_refl 0)).2
      rw [Int.toNat_zero, (rfl : Nat.pow 10 0 = 1), Nat.mul_one]
      exact (Interval.contains_of_nonneg nonneg).1 contains
    simp only [List.map_nil, List.append_nil, Decimal.digitsValue_natChars, List.length_nil]
    rw [show -((0 : Nat) : Int) = 0 from rfl, ofDecimal_of_contains finite positive whole]

/-- **The shortest digits of a double are read back as the double.** -/
theorem readDouble?_toDecimal {x : Binary64} (finite : x.isFinite = true) :
    readDouble? x.toDecimal.chars = some x := by
  by_cases positive : x.significand = 0
  · -- One of the two zeros, of which only the sign is written.
    have zero : x.magnitude = 0 := by rw [magnitude, positive, Nat.zero_mul]
    have shift : x.shift = 0 := by
      have normal := x.significand_spec.2
      omega
    have word := x.ofWord_eq
    rw [shift, positive] at word
    have text : x.toDecimal = ⟨x.isNegative, 0, []⟩ := by
      rw [toDecimal, shortest, if_pos zero]
      rfl
    have digits : digitsValue 0 (natChars 0 ++ List.map digitChar []) = 0 := rfl
    rw [text, Decimal.readDouble?_chars, digits, ofDecimal, if_pos rfl]
    exact congrArg some word
  · obtain ⟨c, e, shortest, contains, -⟩ := exists_shortest finite positive NumberFormat.plain.tie
    rw [toDecimal, shortest]
    exact readDouble?_ofScaled finite positive contains

end Binary64

end TableMapper
