import TableMapper.Proofs.Number.Rounding

/-!
# Nearest doubles lie near

The converse of rounding: what is rounded to a finite double lies in the interval of that double.

- `roundHalfEven_bounds` says how far the nearest integer can be;
- `holds_ofUnits` carries this over to quotients, and `contains_ofDecimal` to decimals;
- `isFinite_ofUnits` says which quotients are small enough to have a finite nearest double.
-/

namespace TableMapper.Binary64

/-! ## §1 Words -/

/-- A word below that of infinity is the place of its double among those of its sign. -/
theorem fields_ofWord (negative : Bool) {word : Nat} (small : word < infinityWord) :
    (ofWord negative word).isFinite = true ∧ (ofWord negative word).isNegative = negative ∧
      (ofWord negative word).shift * 2 ^ 52 + (ofWord negative word).significand = word := by
  have infinity : infinityWord = 2047 * 2 ^ 52 := rfl
  have bits : (ofWord negative word).word = (if negative then 2 ^ 63 else 0) + word := by
    rw [Binary64.word, ofWord, UInt64.toNat_ofNat']
    apply Nat.mod_eq_of_lt
    simp only [Nat.pow_eq]
    split <;> omega
  unfold isFinite isNegative shift significand exponentField fractionField
  rw [bits]
  simp only [Nat.pow_eq, bne_iff_ne]
  -- The sign is the highest bit, which no word so small reaches.
  cases negative with
  | false =>
    simp only [Bool.false_eq_true, if_false, Nat.zero_add, decide_eq_false_iff_not]
    refine ⟨by omega, by omega, ?_⟩
    split <;> omega
  | true =>
    simp only [if_true, decide_eq_true_eq]
    refine ⟨by omega, by omega, ?_⟩
    split <;> omega

/-- Infinity is not finite, whatever its sign is. -/
theorem isFinite_infinityWord (negative : Bool) :
    (ofWord negative infinityWord).isFinite = false := by
  cases negative <;> decide

/-! ## §2 Nearest integers -/

/-- The nearest integer is at most a half away, and less than that if it is odd. -/
theorem roundHalfEven_bounds {a d : Nat} (positive : 0 < d) :
    2 * (roundHalfEven a d * d) ≤ 2 * a + d ∧ 2 * a ≤ 2 * (roundHalfEven a d * d) + d ∧
      (roundHalfEven a d % 2 = 0 ∨
        2 * (roundHalfEven a d * d) < 2 * a + d ∧ 2 * a < 2 * (roundHalfEven a d * d) + d) := by
  have parts := Nat.div_add_mod a d
  have small := Nat.mod_lt a positive
  have same : a / d * d = d * (a / d) := by ring
  have next : (a / d + 1) * d = d * (a / d) + d := by ring
  unfold roundHalfEven
  simp only
  split
  case isTrue => omega
  case isFalse =>
    split
    case isTrue => omega
    case isFalse =>
      -- Half way between two integers the even one is taken.
      split <;> omega

/-! ## §3 Quotients -/

/-- With `m` as its significand and `k` as the power of two of the last bit, a double is nearest to
`n / den`. -/
structure Nearest (n den k m : Nat) : Prop where
  below : n < 2 ^ 53 * (den * 2 ^ k)
  reaches : k = 0 ∨ 2 ^ 52 * (den * 2 ^ k) ≤ n
  low : 2 * (m * (den * 2 ^ k)) ≤ 2 * n + den * 2 ^ k
  high : 2 * n ≤ 2 * (m * (den * 2 ^ k)) + den * 2 ^ k
  tie : m % 2 = 0 ∨ 2 * (m * (den * 2 ^ k)) < 2 * n + den * 2 ^ k ∧
    2 * n < 2 * (m * (den * 2 ^ k)) + den * 2 ^ k

variable {n den k m : Nat}

/-- Rounding half to even gives a nearest multiple of the unit. -/
theorem nearest_roundHalfEven (denominator : 0 < den) (power : (n / den).log2 - 52 = k) :
    Nearest n den k (roundHalfEven n (den * 2 ^ k)) := by
  have scaled (j : Nat) : 2 ^ j * (den * 2 ^ k) = 2 ^ (k + j) * den := by ring
  obtain ⟨low, high, tie⟩ :=
    roundHalfEven_bounds (a := n) (Nat.mul_pos denominator (Nat.two_pow_pos k))
  -- Rounding gives the last three; the size follows from the logarithm.
  refine ⟨?_, ?_, low, high, tie⟩
  · rw [scaled]
    apply (Nat.div_lt_iff_lt_mul denominator).1
    exact Nat.lt_of_lt_of_le Nat.lt_log2_self (Nat.pow_le_pow_right (by decide) (by omega))
  · rw [scaled]
    by_cases none : k = 0
    · exact .inl none
    · have nonzero : n / den ≠ 0 := by
        intro zero
        rw [zero, Nat.log2_zero] at power
        omega
      right
      apply (Nat.le_div_iff_mul_le denominator).1
      exact Nat.le_trans (Nat.pow_le_pow_right (by decide) (by omega)) (Nat.log2_self_le nonzero)

/-- The significand has 53 bits, if the quotient has, or is the next power of two. -/
theorem Nearest.significand (nearest : Nearest n den k m) (denominator : 0 < den) :
    m ≤ 2 ^ 53 ∧ (k = 0 ∨ 2 ^ 52 ≤ m) := by
  have step := Nat.mul_pos denominator (Nat.two_pow_pos k)
  have below := nearest.below
  have low := nearest.low
  have high := nearest.high
  -- A significand out of these bounds would be off by more than a half.
  constructor
  · by_contra more
    have := Nat.mul_le_mul_right (den * 2 ^ k) (show 2 ^ 53 + 1 ≤ m by omega)
    omega
  · refine nearest.reaches.imp_right fun reaches => ?_
    by_contra less
    have := Nat.mul_le_mul_right (den * 2 ^ k) (show m + 1 ≤ 2 ^ 52 by omega)
    rw [Nat.add_mul] at this
    omega

/-- The fields of a rounded quotient; rounding may carry into the next power of two. -/
theorem fields_ofUnits {negative : Bool} (denominator : 0 < den)
    (finite : (ofUnits negative n den).isFinite = true) :
    (ofUnits negative n den).isNegative = negative ∧ ∃ k m, Nearest n den k m ∧
      (((ofUnits negative n den).shift = k ∧ (ofUnits negative n den).significand = m) ∨
        ((ofUnits negative n den).shift = k + 1 ∧ (ofUnits negative n den).significand = 2 ^ 52 ∧
          m = 2 ^ 53)) := by
  have nearest := nearest_roundHalfEven denominator (rfl : (n / den).log2 - 52 = _)
  generalize power : (n / den).log2 - 52 = k at nearest
  generalize rounded : roundHalfEven n (den * 2 ^ k) = m at nearest
  have result : ofUnits negative n den =
      ofWord negative (if k * 2 ^ 52 + m < infinityWord then k * 2 ^ 52 + m else infinityWord) := by
    simp only [ofUnits, power, rounded]
  rw [result] at finite ⊢
  split at finite
  case isFalse => cases (isFinite_infinityWord negative).symm.trans finite
  case isTrue small =>
    rw [if_pos small]
    obtain ⟨-, sign, word⟩ := fields_ofWord negative small
    refine ⟨sign, k, m, nearest, ?_⟩
    -- Both pairs of fields give the same word, and their significands have the same range.
    have bits := nearest.significand denominator
    have own := (ofWord negative (k * 2 ^ 52 + m)).significand_spec
    omega

/-- **What is rounded to a double lies in its interval.** -/
theorem holds_ofUnits {negative : Bool} (denominator : 0 < den)
    (finite : (ofUnits negative n den).isFinite = true) :
    (ofUnits negative n den).interval.holds (4 * n) den = true := by
  obtain ⟨-, k, m, nearest, fields⟩ := fields_ofUnits denominator finite
  generalize ofUnits negative n den = x at fields ⊢
  obtain ⟨below, cases, lowest, -, highest⟩ := x.interval_mul den
  have closed : x.interval.closed = (x.significand % 2 == 0) := rfl
  obtain ⟨few, reaches, low, high, tie⟩ := nearest
  rw [Interval.holds, closed, lowest, highest]
  simp only [beq_iff_eq]
  rcases fields with ⟨shift, significand⟩ | ⟨shift, significand, carried⟩
  · rw [shift, significand] at cases ⊢
    generalize den * 2 ^ k = step at few reaches low high tie ⊢
    rcases cases with ⟨rfl, shifted, power⟩ | ⟨rfl, -⟩
    · -- No quotient with as many bits lies below a power of two.
      have even : m % 2 = 0 := power ▸ rfl
      rw [if_pos even, decide_eq_true_eq, power]
      rw [power] at high
      omega
    · have odd : m % 2 = 0 ∨ step ≤ m * step :=
        or_iff_not_imp_left.2 fun odd => Nat.le_mul_of_pos_left step (by omega)
      generalize m * step = value at low high tie odd ⊢
      split <;> rw [decide_eq_true_eq] <;> omega
  · -- Just below a power of two, which is even.
    have double : den * 2 ^ (k + 1) = 2 * (den * 2 ^ k) := by ring
    rw [shift, significand] at cases ⊢
    have even : 2 ^ 52 % 2 = 0 := rfl
    rw [carried] at low
    rw [if_pos even, decide_eq_true_eq, double]
    generalize den * 2 ^ k = step at few low ⊢
    rcases cases with ⟨rfl, -⟩ | ⟨-, inner⟩
    · omega
    · omega

/-- Quotients that are not too large have a finite nearest double. -/
theorem isFinite_ofUnits {negative : Bool} {u : Nat} (denominator : 0 < den)
    (small : n < Nat.pow 2 u * den)
    (range : u ≤ 2090) : (ofUnits negative n den).isFinite = true := by
  have nearest := nearest_roundHalfEven denominator (rfl : (n / den).log2 - 52 = _)
  have bits := (nearest.significand denominator).1
  have power : (n / den).log2 ≤ u := by
    rcases Nat.eq_zero_or_pos (n / den) with zero | positive
    · rw [zero]
      exact Nat.zero_le u
    · exact Nat.le_of_lt
        ((Nat.log2_lt positive.ne').2 ((Nat.div_lt_iff_lt_mul denominator).2 small))
  have infinity : infinityWord = 2047 * 2 ^ 52 := rfl
  -- The word stays below that of infinity.
  have word : ((n / den).log2 - 52) * 2 ^ 52 + roundHalfEven n (den * 2 ^ ((n / den).log2 - 52)) <
      infinityWord := by
    omega
  simp only [ofUnits, if_pos word]
  exact (fields_ofWord negative word).1

/-! ## §4 Decimals -/

/-- The interval of zero reaches up to half of the smallest number. -/
theorem interval_zero (negative : Bool) : (ofWord negative 0).interval = ⟨0, 0, 2, true⟩ := by
  cases negative <;> decide

/-- **What is rounded to a double lies in its interval**, for decimals that are not too small. -/
theorem contains_ofDecimal {negative : Bool} {c : Nat} {e : Int} (large : -300 ≤ e)
    (finite : (ofDecimal negative c e).isFinite = true) :
    (ofDecimal negative c e).isNegative = negative ∧
      (ofDecimal negative c e).interval.Contains c e := by
  unfold ofDecimal at finite ⊢
  split at finite
  case isTrue zero =>
    rw [if_pos zero, Interval.Contains, interval_zero, zero]
    exact ⟨(fields_ofWord negative (by decide)).2.1, by simp [Interval.holds]⟩
  case isFalse nonzero =>
    rw [if_neg nonzero]
    split at finite
    case isTrue => cases (isFinite_infinityWord negative).symm.trans finite
    case isFalse few =>
      -- Neither out of range nor too small to be looked at, it is rounded as a quotient.
      rw [if_neg few, if_neg (by omega)]
      rw [if_neg (by omega)] at finite
      split at finite
      case isTrue nonneg =>
        rw [if_pos nonneg, Interval.contains_of_nonneg nonneg]
        rw [ofRatio_eq] at finite ⊢
        exact ⟨(fields_ofUnits Nat.one_pos finite).1, holds_ofUnits Nat.one_pos finite⟩
      case isFalse negative' =>
        have denominator : 0 < Nat.pow 10 (-e).toNat := Nat.pow_pos (by decide)
        rw [if_neg negative', Interval.contains_of_neg (Int.not_le.1 negative')]
        rw [ofRatio_eq] at finite ⊢
        exact ⟨(fields_ofUnits denominator finite).1, holds_ofUnits denominator finite⟩

theorem mul_lt_of_mul_le {c bound unit most scale : Nat} (small : c < bound * scale)
    (fits : bound * unit ≤ most) (positive : 0 < unit) : c * unit < most * scale := by
  calc
    c * unit < bound * scale * unit := Nat.mul_lt_mul_of_pos_right small positive
    _ = bound * unit * scale := by ring
    _ ≤ most * scale := Nat.mul_le_mul_right _ fits

/-- The double nearest to a word is finite. -/
theorem isFinite_ofInt {i : Int} (word : i.natAbs < Nat.pow 2 64) : (ofInt i).isFinite = true := by
  have small : i.natAbs < Nat.pow 2 64 * 1 := by rwa [Nat.mul_one]
  obtain ⟨u, range, powers⟩ : ∃ u, u ≤ 2090 ∧ Nat.pow 2 64 * Nat.pow 2 1074 ≤ Nat.pow 2 u :=
    ⟨1138, by decide, by decide +kernel⟩
  rw [ofInt, ofRatio_eq]
  exact isFinite_ofUnits Nat.one_pos (mul_lt_of_mul_le small powers (by decide +kernel)) range

/-- A decimal with at most 300 digits before its point has a finite nearest double. -/
theorem isFinite_ofDecimal {negative : Bool} {c whole places : Nat} (few : whole ≤ 300)
    (small : c < Nat.pow 10 whole * Nat.pow 10 places) :
    (ofDecimal negative c (-places)).isFinite = true := by
  -- The exponents are named, for otherwise the tactics below would write out the powers.
  obtain ⟨most, u, bound, range, powers⟩ : ∃ most u, 300 = most ∧ u ≤ 2090 ∧
      Nat.pow 10 most * Nat.pow 2 1074 ≤ Nat.pow 2 u :=
    ⟨300, 2090, rfl, Nat.le_refl _, by decide +kernel⟩
  have digits : Nat.pow 10 whole ≤ Nat.pow 10 most := Nat.pow_le_pow_right (by decide) (bound ▸ few)
  have units : c * Nat.pow 2 1074 < Nat.pow 2 u * Nat.pow 10 places :=
    mul_lt_of_mul_le (Nat.lt_of_lt_of_le small (Nat.mul_le_mul_right _ digits)) powers
      (by decide +kernel)
  have zero : (ofWord negative 0).isFinite = true := (fields_ofWord negative (by decide)).1
  unfold ofDecimal
  split
  case isTrue => exact zero
  case isFalse =>
    rw [if_neg (by omega)]
    split
    case isTrue => exact zero
    case isFalse =>
      split
      case isTrue nonneg =>
        obtain rfl : places = 0 := by omega
        have whole : Nat.pow 10 (-((0 : Nat) : Int)).toNat = 1 := rfl
        rw [ofRatio_eq, whole, Nat.mul_one]
        exact isFinite_ofUnits Nat.one_pos units range
      case isFalse =>
        have exponent : (-(-(places : Int))).toNat = places := by omega
        rw [ofRatio_eq, exponent]
        exact isFinite_ofUnits (Nat.pow_pos (by decide)) units range

end TableMapper.Binary64
