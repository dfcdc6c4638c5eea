import Mathlib.Tactic.Ring
import TableMapper.Number.Shortest

/-!
# Rounding to doubles

A finite double is the nearest one to all that lies in its interval: to quotients
(`Binary64.ofRatio_of_holds`) and so to decimals (`Binary64.ofDecimal_of_contains`).

Between the powers of two the interval reaches half a unit of the last bit to both sides.  Below a
power of two the last bit is worth half as much, and rounding there carries into the next power.
-/

namespace TableMapper.Binary64

/-! ## §1 Fields -/

theorem word_lt (x : Binary64) : x.word < 2 ^ 64 := x.bits.toNat_lt

/-- The significand has at most 53 bits, and 53 unless the double is among the least. -/
theorem significand_spec (x : Binary64) :
    x.significand < 2 ^ 53 ∧ (x.shift = 0 ∨ 2 ^ 52 ≤ x.significand) := by
  have fraction : x.fractionField < 2 ^ 52 := Nat.mod_lt _ (by decide)
  unfold significand shift
  simp only [Nat.pow_eq]
  split <;> omega

/-- The bits below the sign count the doubles from zero. -/
theorem ofWord_eq (x : Binary64) : ofWord x.isNegative (x.shift * 2 ^ 52 + x.significand) = x := by
  have bound := x.word_lt
  -- The shift of a normal number is one less than its field, and its hidden bit makes up for it.
  have fields : x.shift * 2 ^ 52 + x.significand = x.exponentField * 2 ^ 52 + x.fractionField := by
    unfold shift significand
    simp only [Nat.pow_eq]
    split <;> omega
  have all : (if x.isNegative then Nat.pow 2 63 else 0) + (x.shift * 2 ^ 52 + x.significand) =
      x.word := by
    rw [fields, isNegative, exponentField, fractionField]
    simp only [Nat.pow_eq, decide_eq_true_eq]
    split <;> omega
  rw [ofWord, all, word, UInt64.ofNat_toNat]

/-- The exponent of a finite number is not the largest one. -/
theorem shift_le {x : Binary64} (finite : x.isFinite = true) : x.shift ≤ 2045 := by
  have field : x.exponentField < 2048 := Nat.mod_lt _ (by decide)
  have other : x.exponentField ≠ 2047 := by simpa [isFinite] using finite
  unfold shift
  omega

/-- The integral part is the quotient by the unit. -/
theorem natAbs_truncate (x : Binary64) : x.truncate.natAbs = x.magnitude / Nat.pow 2 1074 := by
  unfold truncate
  generalize x.magnitude / Nat.pow 2 1074 = n
  cases x.isNegative <;> simp

/-- Either zero is a whole number, and truncated to zero. -/
theorem truncate_of_zero {x : Binary64} (finite : x.isFinite = true) (zero : x.significand = 0) :
    x.isWhole = true ∧ x.truncate.natAbs = 0 := by
  have none : x.magnitude = 0 := by rw [magnitude, zero, Nat.zero_mul]
  rw [natAbs_truncate, isWhole, finite, none]
  generalize Nat.pow 2 1074 = unit
  exact ⟨by simp, Nat.zero_div unit⟩

/-- The interval of a double has its lower bound one or two quarter units of its last bit below. -/
theorem interval_eq (x : Binary64) :
    ∃ below,
      x.interval = ⟨(4 * x.significand - below) * 2 ^ x.shift, 4 * x.significand * 2 ^ x.shift,
        (4 * x.significand + 2) * 2 ^ x.shift, x.significand % 2 == 0⟩ ∧
      ((below = 1 ∧ 0 < x.shift ∧ x.significand = 2 ^ 52) ∨
        (below = 2 ∧ (x.shift = 0 ∨ 2 ^ 52 < x.significand))) := by
  refine ⟨if x.fractionField = 0 ∧ 1 < x.exponentField then 1 else 2, rfl, ?_⟩
  unfold shift significand
  simp only [Nat.pow_eq]
  -- Below a power of two the gap is half as wide.
  split
  case isTrue boundary => exact .inl ⟨rfl, by omega, by rw [if_neg (by omega)]; omega⟩
  case isFalse inner => exact .inr ⟨rfl, by split <;> omega⟩

/-- The interval counted in steps of the last bit. -/
theorem interval_mul (x : Binary64) (den : Nat) :
    ∃ below, ((below = 1 ∧ 0 < x.shift ∧ x.significand = 2 ^ 52) ∨
        (below = 2 ∧ (x.shift = 0 ∨ 2 ^ 52 < x.significand))) ∧
      x.interval.low * den = 4 * (x.significand * (den * 2 ^ x.shift)) -
        below * (den * 2 ^ x.shift) ∧
      x.interval.value * den = 4 * (x.significand * (den * 2 ^ x.shift)) ∧
      x.interval.high * den = 4 * (x.significand * (den * 2 ^ x.shift)) +
        2 * (den * 2 ^ x.shift) := by
  obtain ⟨below, interval, cases⟩ := x.interval_eq
  refine ⟨below, cases, ?_⟩
  rw [interval]
  refine ⟨?_, by ring, by ring⟩
  rw [Nat.mul_assoc, Nat.mul_comm (2 ^ x.shift) den, Nat.sub_mul, Nat.mul_assoc]

/-! ## §2 Nearest integers -/

/-- What lies at most a half away is the nearest integer, if it is even or not exactly a half
away. -/
theorem roundHalfEven_eq {a d m : Nat} (low : 2 * (m * d) ≤ 2 * a + d)
    (high : 2 * a ≤ 2 * (m * d) + d)
    (tie : m % 2 = 0 ∨ 2 * (m * d) < 2 * a + d ∧ 2 * a < 2 * (m * d) + d) (positive : 0 < d) :
    roundHalfEven a d = m := by
  have parts := Nat.div_add_mod a d
  have small := Nat.mod_lt a positive
  have next : (a / d + 1) * d = d * (a / d) + d := by ring
  have same : a / d * d = d * (a / d) := by ring
  -- The quotient is `m` or one less.
  have above : a / d ≤ m := by
    by_contra more
    have := Nat.mul_le_mul_right d (show m + 1 ≤ a / d by omega)
    rw [Nat.add_mul] at this
    omega
  have below : m ≤ a / d + 1 := by
    by_contra less
    have := Nat.mul_le_mul_right d (show a / d + 2 ≤ m by omega)
    rw [Nat.add_mul] at this
    omega
  obtain rfl | rfl : m = a / d ∨ m = a / d + 1 := by omega
  · rw [same] at high tie
    unfold roundHalfEven
    simp only
    split <;> [rfl; split <;> [omega; split <;> omega]]
  · rw [next] at low tie
    unfold roundHalfEven
    simp only
    split <;> [omega; split <;> [rfl; split <;> omega]]

/-- How far a number has to be shifted to have 53 binary digits. -/
theorem log2_sub_eq {n k : Nat} (low : k = 0 ∨ 2 ^ (k + 52) ≤ n) (high : n < 2 ^ (k + 53)) :
    n.log2 - 52 = k := by
  -- Zero has no logarithm, though its exponent is the least one.
  rcases Nat.eq_zero_or_pos n with rfl | positive
  · rcases low with rfl | large
    · rfl
    · exact absurd large (Nat.not_le.2 (Nat.two_pow_pos _))
  · have below : n.log2 < k + 53 := (Nat.log2_lt (Nat.pos_iff_ne_zero.1 positive)).2 high
    rcases low with rfl | large
    · omega
    · have above : k + 52 ≤ n.log2 := (Nat.le_log2 (Nat.pos_iff_ne_zero.1 positive)).2 large
      omega

/-! ## §3 Quotients -/

/-- The number nearest to `n / den` units. -/
def ofUnits (negative : Bool) (n den : Nat) : Binary64 :=
  let k := (n / den).log2 - 52
  let word := k * 2 ^ 52 + roundHalfEven n (den * 2 ^ k)
  ofWord negative (if word < infinityWord then word else infinityWord)

theorem ofRatio_eq (negative : Bool) (num den : Nat) :
    ofRatio negative num den = ofUnits negative (num * Nat.pow 2 1074) den := rfl

/-- The bits of the rounded quotient, with `k` the power of two of the last bit that is kept. -/
theorem ofUnits_of_word {x : Binary64} (finite : x.isFinite = true) {n den k : Nat}
    (power : (n / den).log2 - 52 = k)
    (word : k * 2 ^ 52 + roundHalfEven n (den * 2 ^ k) = x.shift * 2 ^ 52 + x.significand) :
    ofUnits x.isNegative n den = x := by
  have bits : x.shift * 2 ^ 52 + x.significand < infinityWord := by
    have shift := shift_le finite
    have significand := x.significand_spec.1
    have infinity : infinityWord = 2047 * 2 ^ 52 := rfl
    omega
  simp only [ofUnits, power, word, if_pos bits, ofWord_eq]

/-- The power of two of the last of 53 bits of a quotient. -/
theorem log2_div_sub_eq {n den k : Nat} (denominator : 0 < den)
    (low : k = 0 ∨ 2 ^ 52 * (den * 2 ^ k) ≤ n)
    (high : n < 2 ^ 53 * (den * 2 ^ k)) : (n / den).log2 - 52 = k := by
  have scaled (j : Nat) : 2 ^ (k + j) * den = 2 ^ j * (den * 2 ^ k) := by ring
  refine log2_sub_eq ?_ ?_
  · rcases low with zero | large
    · exact .inl zero
    · exact .inr ((Nat.le_div_iff_mul_le denominator).2 (by rwa [scaled]))
  · exact (Nat.div_lt_iff_lt_mul denominator).2 (by rwa [scaled])

/-- What it is to lie in the interval of a double, counted in steps of its last bit. -/
theorem bounds_of_holds {x : Binary64} {n den : Nat} (holds : x.interval.holds (4 * n) den = true) :
    ∃ below, ((below = 1 ∧ 0 < x.shift ∧ x.significand = 2 ^ 52) ∨
        (below = 2 ∧ (x.shift = 0 ∨ 2 ^ 52 < x.significand))) ∧
      4 * (x.significand * (den * 2 ^ x.shift)) ≤ 4 * n + below * (den * 2 ^ x.shift) ∧
      2 * n ≤ 2 * (x.significand * (den * 2 ^ x.shift)) + den * 2 ^ x.shift ∧
      (x.significand % 2 = 0 ∨
        4 * (x.significand * (den * 2 ^ x.shift)) < 4 * n + below * (den * 2 ^ x.shift) ∧
          2 * n < 2 * (x.significand * (den * 2 ^ x.shift)) + den * 2 ^ x.shift) := by
  obtain ⟨below, cases, low, -, high⟩ := x.interval_mul den
  refine ⟨below, cases, ?_⟩
  -- The bounds themselves belong to the interval if the significand is even.
  have closed : x.interval.closed = (x.significand % 2 == 0) := rfl
  rw [Interval.holds, closed] at holds
  simp only [beq_iff_eq, low, high] at holds
  split at holds
  case isTrue even =>
    obtain ⟨low, high⟩ := of_decide_eq_true holds
    omega
  case isFalse odd =>
    obtain ⟨low, high⟩ := of_decide_eq_true holds
    omega

/-- A double is the nearest one to all that lies in its interval. -/
theorem ofUnits_of_holds {x : Binary64} (finite : x.isFinite = true) {n den : Nat}
    (denominator : 0 < den)
    (holds : x.interval.holds (4 * n) den = true) : ofUnits x.isNegative n den = x := by
  obtain ⟨below, cases, low, high, tie⟩ := bounds_of_holds holds
  have step : 0 < den * 2 ^ x.shift := Nat.mul_pos denominator (Nat.two_pow_pos _)
  have most : x.significand * (den * 2 ^ x.shift) ≤ (2 ^ 53 - 1) * (den * 2 ^ x.shift) :=
    Nat.mul_le_mul_right _ (Nat.le_pred_of_lt x.significand_spec.1)
  -- The quotient has as many bits as the double, unless it lies below the power of two that the
  -- double is.
  have same (half : below * (den * 2 ^ x.shift) ≤ 2 * (den * 2 ^ x.shift))
      (reaches : x.shift = 0 ∨ 2 ^ 52 * (den * 2 ^ x.shift) ≤ n) : ofUnits x.isNegative n den =
        x := by
    apply ofUnits_of_word finite (log2_div_sub_eq denominator reaches (by omega))
    rw [roundHalfEven_eq (by omega) high (by omega) step]
  rcases cases with ⟨rfl, shifted, power⟩ | ⟨rfl, inner⟩
  · by_cases reaches : 2 ^ 52 * (den * 2 ^ x.shift) ≤ n
    · exact same (by omega) (.inr reaches)
    · obtain ⟨k, shift⟩ := Nat.exists_eq_add_of_lt shifted
      have double : den * 2 ^ x.shift = 2 * (den * 2 ^ k) := by
        rw [shift, Nat.zero_add, Nat.pow_succ]
        ring
      rw [double] at low reaches step
      rw [power] at low
      apply ofUnits_of_word finite (log2_div_sub_eq denominator (k := k) (by omega) (by omega))
      rw [roundHalfEven_eq (m := 2 ^ 53) (by omega) (by omega) (.inl rfl) (by omega)]
      omega
  · refine same (Nat.le_refl _) (inner.imp_right fun large => ?_)
    have least : (2 ^ 52 + 1) * (den * 2 ^ x.shift) ≤ x.significand * (den * 2 ^ x.shift) :=
      Nat.mul_le_mul_right _ large
    omega

/-- **A double is the nearest one to the quotients of its interval.** -/
theorem ofRatio_of_holds {x : Binary64} (finite : x.isFinite = true) {num den : Nat}
    (denominator : 0 < den) (holds : x.interval.holds (4 * (num * Nat.pow 2 1074)) den = true) :
    ofRatio x.isNegative num den = x := by
  rw [ofRatio_eq]
  exact ofUnits_of_holds finite denominator holds

/-! ## §4 Decimals -/

/-- The numerator of `10 ^ e` in quarter units. -/
@[irreducible]
def tenNumerator (e : Int) : Nat := Nat.pow 2 1076 * (if 0 ≤ e then Nat.pow 10 e.toNat else 1)

/-- The denominator of `10 ^ e`. -/
def tenDenominator (e : Int) : Nat := if 0 ≤ e then 1 else Nat.pow 10 (-e).toNat

/-- Numerators are positive, -/
theorem tenNumerator_pos (e : Int) : 0 < tenNumerator e := by
  have unit : 0 < Nat.pow 2 1076 := by decide +kernel
  rw [tenNumerator]
  generalize Nat.pow 2 1076 = quarters at unit ⊢
  split
  · exact Nat.mul_pos unit (Nat.pow_pos (by decide))
  · exact Nat.mul_pos unit Nat.one_pos

/-- and so are denominators. -/
theorem tenDenominator_pos (e : Int) : 0 < tenDenominator e := by
  unfold tenDenominator
  split
  · exact Nat.one_pos
  · exact Nat.pow_pos (by decide)

/-- Four quarters make a unit. -/
theorem quarters_eq : Nat.pow 2 1076 = 4 * Nat.pow 2 1074 := by decide +kernel

/-- The decimal `c * 10 ^ e` lies in the interval. -/
def Interval.Contains (i : Interval) (c : Nat) (e : Int) : Prop :=
  i.holds (c * tenNumerator e) (tenDenominator e) = true

/-- With an exponent that is not negative, the value is a whole number. -/
theorem Interval.contains_of_nonneg {i : Interval} {c : Nat} {e : Int} (nonneg : 0 ≤ e) :
    i.Contains c e ↔ i.holds (4 * (c * Nat.pow 10 e.toNat * Nat.pow 2 1074)) 1 = true := by
  have same : c * tenNumerator e = 4 * (c * Nat.pow 10 e.toNat * Nat.pow 2 1074) := by
    rw [tenNumerator, if_pos nonneg, quarters_eq]
    ring
  rw [Contains, tenDenominator, if_pos nonneg, same]

/-- With a negative exponent, it is a quotient by a power of ten. -/
theorem Interval.contains_of_neg {i : Interval} {c : Nat} {e : Int} (negative : e < 0) :
    i.Contains c e ↔ i.holds (4 * (c * Nat.pow 2 1074)) (Nat.pow 10 (-e).toNat) = true := by
  have same : c * tenNumerator e = 4 * (c * Nat.pow 2 1074) := by
    rw [tenNumerator, if_neg (Int.not_le.2 negative), quarters_eq]
    ring
  rw [Contains, tenDenominator, if_neg (Int.not_le.2 negative), same]

/-- What an interval holds lies between its bounds. -/
theorem Interval.bounds {i : Interval} {num den : Nat} (holds : i.holds num den = true) :
    i.low * den ≤ num ∧ num ≤ i.high * den := by
  unfold Interval.holds at holds
  split at holds
  · exact of_decide_eq_true holds
  · exact (of_decide_eq_true holds).imp Nat.le_of_lt Nat.le_of_lt

/-- No interval but that of zero reaches down to zero. -/
theorem two_le_low {x : Binary64} (positive : x.significand ≠ 0) : 2 ≤ x.interval.low := by
  obtain ⟨below, interval, cases⟩ := x.interval_eq
  have quarters : 2 ≤ 4 * x.significand - below := by omega
  rw [interval]
  exact Nat.le_trans quarters (Nat.le_mul_of_pos_right _ (Nat.two_pow_pos _))

/-- The upper bound is at most `2 ^ 55`, shifted. -/
theorem high_le (x : Binary64) : x.interval.high ≤ 2 ^ (55 + x.shift) := by
  obtain ⟨below, interval, -⟩ := x.interval_eq
  have quarters : 4 * x.significand + 2 ≤ 2 ^ 55 := by
    have bound := x.significand_spec.1
    omega
  rw [interval, Nat.pow_add]
  exact Nat.mul_le_mul_right _ quarters

/-- A decimal digit is worth three binary ones at least. -/
theorem two_pow_le_ten_pow (n : Nat) : 2 ^ (3 * n) ≤ Nat.pow 10 n := by
  rw [Nat.pow_mul]
  exact Nat.pow_le_pow_left (by decide) n

/-- A bound on a product bounds its exponents. -/
theorem exponents_le {c n u k : Nat} (nonzero : c ≠ 0)
    (bound : 4 * (c * Nat.pow 10 n * Nat.pow 2 u) ≤ 2 ^ k) : 3 * n + u ≤ k := by
  apply (Nat.pow_le_pow_iff_right (by decide : 1 < 2)).1
  calc
    2 ^ (3 * n + u) = 2 ^ (3 * n) * Nat.pow 2 u := Nat.pow_add ..
    _ ≤ c * Nat.pow 10 n * Nat.pow 2 u :=
      Nat.mul_le_mul_right _ (Nat.le_trans (two_pow_le_ten_pow n)
        (Nat.le_mul_of_pos_left _ (Nat.pos_of_ne_zero nonzero)))
    _ ≤ 2 ^ k := by omega

/-- So does a bound on a quotient. -/
theorem exponents_lt {c n u : Nat} (bound : 2 * Nat.pow 10 n ≤ 4 * (c * Nat.pow 2 u)) :
    3 * n < c.log2 + 2 + u := by
  -- Compare the powers of two instead: a ten has more than three bits.
  apply (Nat.pow_lt_pow_iff_right (by decide : 1 < 2)).1
  have powers : 2 ^ (c.log2 + 2) = 2 * 2 ^ (c.log2 + 1) := by ring
  calc
    2 ^ (3 * n) ≤ Nat.pow 10 n := two_pow_le_ten_pow n
    _ ≤ 2 * c * Nat.pow 2 u := by
      rw [Nat.mul_assoc]
      omega
    _ < 2 * 2 ^ (c.log2 + 1) * Nat.pow 2 u :=
      Nat.mul_lt_mul_of_pos_right (Nat.mul_lt_mul_of_pos_left Nat.lt_log2_self (by decide))
        (Nat.two_pow_pos u)
    _ = 2 ^ (c.log2 + 2 + u) := by rw [← powers, Nat.pow_eq, Nat.pow_add _ _ u]

/-- A decimal with a large exponent is beyond the interval of a finite double. -/
theorem exponent_le_of_contains {x : Binary64} (finite : x.isFinite = true) {c : Nat}
    (nonzero : c ≠ 0) {e : Int} (contains : x.interval.Contains c e) : e ≤ 400 := by
  by_contra large
  have bounds := (Interval.bounds ((Interval.contains_of_nonneg (by omega)).1 contains)).2
  have exponents :=
    exponents_le nonzero (Nat.le_trans bounds (by rw [Nat.mul_one]; exact x.high_le))
  have shift := shift_le finite
  omega

/-- A decimal with a small exponent is below the interval of a double other than zero. -/
theorem log2_le_of_contains {x : Binary64} (positive : x.significand ≠ 0) {c : Nat} {e : Int}
    (contains : x.interval.Contains c e) : -1100 ≤ (c.log2 : Int) + 1 + 3 * e := by
  by_contra small
  have bounds := (Interval.bounds ((Interval.contains_of_neg (by omega)).1 contains)).1
  have exponents :=
    exponents_lt (Nat.le_trans (Nat.mul_le_mul_right _ (two_le_low positive)) bounds)
  omega

/-- **A double is the nearest one to the decimals of its interval.** -/
theorem ofDecimal_of_contains {x : Binary64} (finite : x.isFinite = true)
    (positive : x.significand ≠ 0)
    {c : Nat} {e : Int} (contains : x.interval.Contains c e) : ofDecimal x.isNegative c e = x := by
  have nonzero : c ≠ 0 := by
    rintro rfl
    have low := Nat.mul_le_mul (two_le_low positive) (tenDenominator_pos e)
    have bounds := (Interval.bounds contains).1
    omega
  have large := exponent_le_of_contains finite nonzero contains
  have small := log2_le_of_contains positive contains
  -- Neither shortcut for huge exponents is taken.
  rw [ofDecimal, if_neg nonzero, if_neg (by omega), if_neg (by omega)]
  split
  case isTrue nonneg =>
    exact ofRatio_of_holds finite (by decide) ((Interval.contains_of_nonneg nonneg).1 contains)
  case isFalse negative =>
    exact ofRatio_of_holds finite (Nat.pow_pos (by decide))
      ((Interval.contains_of_neg (Int.not_le.1 negative)).1 contains)

end TableMapper.Binary64
