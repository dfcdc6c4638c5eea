import Mathlib.Algebra.Order.Field.Power
import Mathlib.Data.Rat.Cast.Order
import Mathlib.Tactic.FieldSimp
import Mathlib.Tactic.Linarith
import TableMapper.Proofs.Number.Nearest
import TableMapper.Proofs.Number.Shortest

/-!
# Which decimals survive as doubles

What a numeral stands for is a rational number (`Decimal.value`).

- Whether a decimal lies in the interval of a double depends on its value alone (`contains_congr`).
- On a grid whose steps are wider than the interval at most one decimal lies in it
  (`eq_of_contains`).  Decimals of at most 15 digits stand on such a grid (`coarse_of_short`).
- The search for the shortest digits ends on a grid at least as coarse, so it finds them
  (`value_shortest`).
-/

namespace TableMapper

open Decimal (digitChar lastDigits paddedChars)
open Numeral (digitsValue)

/-! ## §1 What numerals stand for -/

/-- The number with the given absolute value. -/
def signed (negative : Bool) (q : ℚ) : ℚ := if negative then -q else q

/-- Sign and absolute value are determined by a value that is not zero. -/
theorem signed_inj {s t : Bool} {a b : ℚ} (nonneg : 0 ≤ a) (positive : 0 < b)
    (same : signed s a = signed t b) :
    s = t ∧ a = b := by
  cases s <;> cases t <;> simp only [signed, if_true, Bool.false_eq_true, if_false] at same
  case false.false => exact ⟨rfl, same⟩
  case true.true => exact ⟨rfl, neg_injective same⟩
  -- The two numbers have different signs, and one of them is not zero.
  all_goals linarith

namespace Decimal

/-- What a numeral stands for. -/
def value (d : Decimal) : ℚ := d.numerator / 10 ^ d.places

/-- Digits are added up as they are read. -/
theorem foldl_digits (digits : List (Fin 10)) (acc : Nat) :
    digits.foldl (fun (acc : Nat) (digit : Fin 10) => acc * 10 + digit.val) acc =
      digitsValue acc (digits.map digitChar) := by
  induction digits generalizing acc with
  | nil => rfl
  | cons d digits ih =>
    rw [List.foldl_cons, ih, List.map_cons, digitsValue, Numeral.digit?_digitChar]
    rfl

/-- The fraction is a whole number over a power of ten. -/
theorem value_eq (d : Decimal) : d.value =
    signed d.negative
      (digitsValue d.whole (d.fraction.map digitChar) / 10 ^ d.fraction.length) := by
  rw [value, numerator, places, foldl_digits]
  cases d.negative <;> simp [signed, neg_div]

/-- An integer stands for itself. -/
theorem value_ofInt (i : Int) : (ofInt i).value = i := by
  have whole : digitsValue i.natAbs (List.map digitChar []) = i.natAbs := rfl
  rw [value_eq, ofInt, whole]
  simp only [signed, decide_eq_true_eq, List.length_nil, pow_zero, div_one, Nat.cast_natAbs]
  split
  case isTrue negative => rw [abs_of_neg negative, Int.cast_neg, neg_neg]
  case isFalse positive => rw [abs_of_nonneg (not_lt.1 positive)]

/-- A decimal made of a coefficient and an exponent has their value. -/
theorem value_ofScaled (negative : Bool) (c : Nat) (e : Int) :
    (ofScaled negative c e).value = signed negative (c * 10 ^ e) := by
  rw [value_eq, ofScaled]
  -- A negative power puts digits behind the point, a positive one appends zeros.
  rcases Int.lt_or_le e 0 with small | large
  · obtain ⟨k, rfl⟩ : ∃ k : Nat, e = -k := ⟨(-e).toNat, by omega⟩
    have places : (-(-(k : Int))).toNat = k := by omega
    have digits : digitsValue (c / 10 ^ k) (paddedChars k c) = c := by
      rw [Numeral.digitsValue_eq_add, digitsValue_paddedChars, length_paddedChars]
      exact Nat.div_add_mod' c _
    rw [if_neg (Int.not_le.2 small), places]
    show signed negative
        (digitsValue (c / 10 ^ k) (paddedChars k c) / 10 ^ (lastDigits k c).length) = _
    rw [digits, length_lastDigits, zpow_neg, zpow_natCast, div_eq_mul_inv]
  · obtain ⟨k, rfl⟩ : ∃ k : Nat, e = k := ⟨e.toNat, by omega⟩
    rw [if_pos large]
    simp [digitsValue]

end Decimal

namespace Binary64

/-! ## §2 Intervals of numbers -/

/-- The number lies in the interval, both counted in quarter units. -/
def Interval.Mem (i : Interval) (q : ℚ) : Prop :=
  if i.closed then i.low ≤ q ∧ q ≤ i.high else i.low < q ∧ q < i.high

/-- The test by whole numbers decides whether the quotient lies in the interval. -/
theorem Interval.holds_iff_mem {i : Interval} {num den : Nat} (positive : 0 < den) :
    i.holds num den = true ↔ i.Mem (num / den) := by
  have denominator : (0 : ℚ) < den := Nat.cast_pos.2 positive
  unfold holds Mem
  split
  · rw [decide_eq_true_eq, le_div_iff₀ denominator, div_le_iff₀ denominator]
    exact_mod_cast Iff.rfl
  · rw [decide_eq_true_eq, lt_div_iff₀ denominator, div_lt_iff₀ denominator]
    exact_mod_cast Iff.rfl

/-- Numerator and denominator of a scale make a power of ten. -/
theorem tenNumerator_div (e : Int) :
    (tenNumerator e : ℚ) / tenDenominator e = 10 ^ e * tenNumerator 0 := by
  have one : Nat.pow 10 (0 : Int).toNat = 1 := rfl
  unfold tenNumerator tenDenominator
  -- The unit is too large to be computed with.
  generalize Nat.pow 2 1076 = unit
  rw [if_pos (Int.le_refl 0), one, Nat.mul_one]
  rcases Int.lt_or_le e 0 with small | large
  · obtain ⟨k, rfl⟩ : ∃ k : Nat, e = -k := ⟨(-e).toNat, by omega⟩
    have places : (-(-(k : Int))).toNat = k := by omega
    rw [if_neg (Int.not_le.2 small), if_neg (Int.not_le.2 small), places, Nat.mul_one, zpow_neg,
      zpow_natCast, div_eq_inv_mul]
    norm_cast
  · obtain ⟨k, rfl⟩ : ∃ k : Nat, e = k := ⟨e.toNat, by omega⟩
    rw [if_pos large, if_pos large, Int.toNat_natCast, zpow_natCast, Nat.cast_one,
      div_one, mul_comm]
    norm_cast

/-- A coefficient and an exponent are contained if their value lies in the interval. -/
theorem Interval.contains_iff_mem {i : Interval} {c : Nat} {e : Int} :
    i.Contains c e ↔ i.Mem (c * 10 ^ e * tenNumerator 0) := by
  rw [Contains, holds_iff_mem (tenDenominator_pos e), Nat.cast_mul, mul_div_assoc,
    tenNumerator_div, mul_assoc]

/-- Whether a decimal lies in an interval depends on its value alone. -/
theorem Interval.contains_congr {i : Interval} {c d : Nat} {e f : Int}
    (same : (c * 10 ^ e : ℚ) = d * 10 ^ f) :
    i.Contains c e ↔ i.Contains d f := by
  rw [contains_iff_mem, contains_iff_mem, same]

/-- A multiple of a power of ten is one of each lower power. -/
theorem mul_ten_zpow (c : Nat) {e q : Int} (finer : q ≤ e) :
    (c * 10 ^ e : ℚ) = (c * 10 ^ (e - q).toNat : Nat) * 10 ^ q := by
  obtain ⟨k, rfl⟩ : ∃ k : Nat, e = q + k := ⟨(e - q).toNat, by omega⟩
  have steps : (q + (k : Int) - q).toNat = k := by omega
  rw [steps, zpow_add₀ (by decide), zpow_natCast]
  push_cast
  ring

/-! ## §3 Grids -/

/-- The steps of a grid are wider than the interval of a double. -/
def Coarse (x : Binary64) (q : Int) : Prop := 4 * (tenDenominator q * 2 ^ x.shift) < tenNumerator q

/-- The bounds of an interval are at most one step of the significand apart. -/
theorem high_le_low_add (x : Binary64) (den : Nat) :
    x.interval.high * den ≤ x.interval.low * den + 4 * (den * 2 ^ x.shift) := by
  obtain ⟨below, cases, low, -, high⟩ := x.interval_mul den
  rw [low, high]
  rcases cases with ⟨rfl, -⟩ | ⟨rfl, -⟩ <;> omega

/-- At most one decimal of a coarse grid lies in the interval. -/
theorem eq_of_contains {x : Binary64} {c d : Nat} {q : Int} (coarse : x.Coarse q)
    (first : x.interval.Contains c q) (second : x.interval.Contains d q) : c = d := by
  have width := x.high_le_low_add (tenDenominator q)
  have bounds := Interval.bounds first
  have bounds' := Interval.bounds second
  unfold Coarse at coarse
  -- Different multiples are a step apart.
  have apart {a b : Nat} (less : a < b) : a * tenNumerator q + tenNumerator q ≤
      b * tenNumerator q := by
    rw [← Nat.succ_mul]
    exact Nat.mul_le_mul_right _ less
  by_contra differ
  rcases Nat.lt_or_gt_of_ne differ with less | more
  · have := apart less
    omega
  · have := apart more
    omega

/-- What lies between a number of the interval and one strictly inside it belongs to it, too. -/
theorem Interval.holds_of_between {i : Interval} {num inner num' den : Nat}
    (holds : i.holds num den = true) (low : i.low * den < inner) (high : inner < i.high * den)
    (between : (num ≤ num' ∧ num' ≤ inner) ∨ inner ≤ num' ∧ num' ≤ num) :
    i.holds num' den = true := by
  unfold Interval.holds at holds ⊢
  -- The bounds count for an even significand and do not for an odd one.
  split at holds
  case isTrue closed =>
    rw [if_pos closed]
    rw [decide_eq_true_eq] at holds ⊢
    omega
  case isFalse open' =>
    rw [if_neg open']
    rw [decide_eq_true_eq] at holds ⊢
    omega

/-- A grid is hit if any of its decimals lies in the interval. -/
theorem exists_onGrid?_of_contains {x : Binary64} (positive : x.significand ≠ 0) (tie : Tie)
    {c : Nat} {q : Int}
    (contains : x.interval.Contains c q) : ∃ d, x.interval.onGrid? tie q = some d := by
  apply (x.interval.onGrid?_spec tie q).2
  obtain ⟨below, cases, low, value, high⟩ := x.interval_mul (tenDenominator q)
  have step := Nat.mul_pos (tenDenominator_pos q) (Nat.two_pow_pos x.shift)
  have least := Nat.mul_le_mul_right (tenDenominator q * 2 ^ x.shift) (Nat.pos_of_ne_zero positive)
  have inner : x.interval.low * tenDenominator q < x.interval.value * tenDenominator q ∧
      x.interval.value * tenDenominator q < x.interval.high * tenDenominator q := by
    rw [low, value, high]
    rcases cases with ⟨rfl, -⟩ | ⟨rfl, -⟩ <;> omega
  have parts := Nat.div_add_mod' (x.interval.value * tenDenominator q) (tenNumerator q)
  have rest := Nat.mod_lt (x.interval.value * tenDenominator q) (tenNumerator_pos q)
  generalize x.interval.value * tenDenominator q / tenNumerator q = k at parts ⊢
  -- The neighbour on the side of the decimal is nearer to the value than the decimal.
  rcases Nat.lt_or_ge k c with above | here
  · have next : (k + 1) * tenNumerator q = k * tenNumerator q + tenNumerator q := Nat.succ_mul ..
    have far : (k + 1) * tenNumerator q ≤ c * tenNumerator q := Nat.mul_le_mul_right _ above
    exact .inr (Interval.holds_of_between contains inner.1 inner.2 (.inr ⟨by omega, far⟩))
  · have far : c * tenNumerator q ≤ k * tenNumerator q := Nat.mul_le_mul_right _ here
    exact .inl (Interval.holds_of_between contains inner.1 inner.2 (.inl ⟨far, by omega⟩))

/-- The grid where the search begins is coarse, for every power of two that the value of a double
can have. -/
theorem coarse_of_firstGrid : (List.range 2102).all (fun l =>
    let p : Int := ((l : Int) - 1075) * 30103 / 100000 + 1
    decide (2 ^ (l + 1) * tenDenominator p ≤ tenNumerator p)) = true := by
  decide +kernel

/-- The first grid of the search is coarse. -/
theorem coarse_topExponent {x : Binary64} (finite : x.isFinite = true)
    (positive : x.significand ≠ 0) :
    x.Coarse x.interval.topExponent := by
  -- The table of exponents covers every finite value.
  have first := List.all_eq_true.1 coarse_of_firstGrid x.interval.value.log2
    (List.mem_range.2 (Nat.lt_trans (log2_value_lt positive) (by have := shift_le finite; omega)))
  have scaled : 2 ^ (x.interval.value.log2 + 1) * tenDenominator x.interval.topExponent ≤
      tenNumerator x.interval.topExponent := of_decide_eq_true first
  have value : x.interval.value = 4 * x.significand * 2 ^ x.shift := rfl
  have least : 4 * 2 ^ x.shift ≤ x.interval.value := by
    rw [value]
    exact Nat.mul_le_mul_right _ (by omega)
  refine Nat.lt_of_lt_of_le ?_ scaled
  calc
    4 * (tenDenominator x.interval.topExponent * 2 ^ x.shift)
      = 4 * 2 ^ x.shift * tenDenominator x.interval.topExponent := by ring
    _ ≤ x.interval.value * tenDenominator x.interval.topExponent := Nat.mul_le_mul_right _ least
    _ < 2 ^ (x.interval.value.log2 + 1) * tenDenominator x.interval.topExponent :=
      Nat.mul_lt_mul_of_pos_right Nat.lt_log2_self (tenDenominator_pos _)

/-- With so many places behind the point at most, the denominator is bounded. -/
theorem tenDenominator_le {e : Int} {places : Nat} (large : -(places : Int) ≤ e) :
    tenDenominator e ≤ Nat.pow 10 places := by
  rw [tenDenominator]
  split
  · exact Nat.pow_pos (by decide)
  · exact Nat.pow_le_pow_right (by decide) (by omega)

/-- A numerator is at least the unit. -/
theorem unit_le_tenNumerator (e : Int) : Nat.pow 2 1076 ≤ tenNumerator e := by
  rw [tenNumerator]
  generalize Nat.pow 2 1076 = unit
  split
  · exact Nat.le_mul_of_pos_right _ (Nat.pow_pos (by decide))
  · exact Nat.le_of_eq (Nat.mul_one _).symm

/-- A decimal with few digits stands on a coarse grid. -/
theorem coarse_of_short {x : Binary64} {c : Nat} {e : Int} (contains : x.interval.Contains c e)
    (short : c < Nat.pow 10 15) (large : -300 ≤ e) : x.Coarse e := by
  have fifteen : Nat.pow 10 15 = 1000000000000000 := rfl
  have positive := tenNumerator_pos e
  unfold Coarse
  rcases x.significand_spec.2 with least | normal
  · -- Among the least doubles the interval is narrower than the last of 300 places.
    obtain ⟨places, same, narrow⟩ : ∃ places,
        places = 300 ∧ 4 * Nat.pow 10 places < Nat.pow 2 1076 :=
      ⟨300, rfl, by decide +kernel⟩
    have small : tenDenominator e ≤ Nat.pow 10 places := tenDenominator_le (by omega)
    rw [least, Nat.pow_zero, Nat.mul_one]
    exact Nat.lt_of_le_of_lt (Nat.mul_le_mul_left 4 small)
      (Nat.lt_of_lt_of_le narrow (unit_le_tenNumerator e))
  · -- All others are at least 2^52 steps of their last bit.
    obtain ⟨below, cases, low, -⟩ := x.interval_mul (tenDenominator e)
    have bounds := (Interval.bounds contains).1
    have few := Nat.mul_le_mul_right (tenNumerator e) (Nat.le_pred_of_lt short)
    have many := Nat.mul_le_mul_right (tenDenominator e * 2 ^ x.shift) normal
    rw [low] at bounds
    rw [fifteen, Nat.pred_eq_sub_one] at few
    rcases cases with ⟨rfl, -⟩ | ⟨rfl, -⟩ <;> omega

/-! ## §4 The digits that are written -/

/-- Two decimals of the interval are the same number, if they stand on one coarse grid. -/
theorem value_eq_of_contains {x : Binary64} {c d : Nat} {e f q : Int} (coarse : x.Coarse q)
    (left : q ≤ e) (right : q ≤ f) (first : x.interval.Contains c e)
    (second : x.interval.Contains d f) :
    (c * 10 ^ e : ℚ) = d * 10 ^ f := by
  have first' := (Interval.contains_congr (mul_ten_zpow c left)).1 first
  have second' := (Interval.contains_congr (mul_ten_zpow d right)).1 second
  rw [mul_ten_zpow c left, mul_ten_zpow d right, eq_of_contains coarse first' second']

variable {x : Binary64} {c : Nat} {e : Int}

/-- **The shortest digits are a decimal of the interval**, and any other one that stands on a coarse
grid is the same number. -/
theorem value_shortest (finite : x.isFinite = true) (positive : x.significand ≠ 0) (tie : Tie) :
    ∃ d p, x.shortest tie = ⟨d, p⟩ ∧ x.interval.Contains d p ∧
      ∀ c e, x.interval.Contains c e → x.Coarse e → (d * 10 ^ p : ℚ) = c * 10 ^ e := by
  obtain ⟨d, p, shortest, lies, coarsest⟩ := exists_shortest finite positive tie
  refine ⟨d, p, shortest, lies, fun c e contains coarse => ?_⟩
  -- The search meets the grid of the decimal, or begins on a finer one that is coarse, too.
  obtain ⟨q, top, finer, coarse⟩ : ∃ q ≤ x.interval.topExponent, q ≤ e ∧ x.Coarse q := by
    rcases Int.le_total e x.interval.topExponent with below | above
    · exact ⟨e, below, Int.le_refl e, coarse⟩
    · exact ⟨_, Int.le_refl _, above, coarse_topExponent finite positive⟩
  have onGrid := (Interval.contains_congr (mul_ten_zpow c finer)).1 contains
  have met := coarsest q top (exists_onGrid?_of_contains positive tie onGrid)
  exact value_eq_of_contains coarse met finer lies contains

/-- The value of a double lies in its interval. -/
theorem holds_value (x : Binary64) : x.interval.holds (4 * x.magnitude) 1 = true := by
  obtain ⟨below, cases, low, value, high⟩ := x.interval_mul 1
  have step : 0 < 1 * 2 ^ x.shift := Nat.mul_pos Nat.one_pos (Nat.two_pow_pos _)
  have magnitude : 4 * x.magnitude = 4 * (x.significand * (1 * 2 ^ x.shift)) := by
    rw [Nat.one_mul]
    rfl
  have closed : x.interval.closed = (x.significand % 2 == 0) := rfl
  unfold Interval.holds
  rw [low, high, magnitude, closed]
  split
  case isTrue => exact decide_eq_true ⟨Nat.sub_le .., Nat.le_add_right ..⟩
  -- An odd significand is not zero, so the interval has an inside.
  case isFalse odd =>
    have positive : 0 < x.significand := Nat.pos_of_ne_zero fun zero => odd (by rw [zero]; rfl)
    have least := Nat.mul_le_mul_right (1 * 2 ^ x.shift) positive
    apply decide_eq_true
    rcases cases with ⟨rfl, -⟩ | ⟨rfl, -⟩ <;> omega

/-- In the interval of zero lies zero. -/
theorem contains_zero (zero : x.significand = 0) : x.interval.Contains 0 0 := by
  have holds := x.holds_value
  rwa [magnitude, zero, Nat.zero_mul, Nat.mul_zero, ← Nat.zero_mul (tenNumerator 0)] at holds

/-- A whole double lies in its own interval as an integer. -/
theorem contains_truncate (whole : x.isWhole = true) : x.interval.Contains x.truncate.natAbs 0 := by
  have remainder : x.magnitude % Nat.pow 2 1074 = 0 := by
    rw [isWhole, Bool.and_eq_true, beq_iff_eq] at whole
    exact whole.2
  have one : Nat.pow 10 (0 : Int).toNat = 1 := rfl
  rw [Interval.contains_of_nonneg (Int.le_refl 0), natAbs_truncate, one, Nat.mul_one,
    Nat.div_mul_cancel (Nat.dvd_of_mod_eq_zero remainder)]
  exact x.holds_value

/-- The integral part as a decimal without fraction. -/
theorem truncate_cast (x : Binary64) :
    (x.truncate : ℚ) = signed x.isNegative (x.truncate.natAbs * 10 ^ (0 : Int)) := by
  rw [natAbs_truncate, zpow_zero, mul_one]
  unfold truncate
  generalize x.magnitude / Nat.pow 2 1074 = n
  cases x.isNegative <;> simp [signed]

/-- The decimal that is written has the value of the shortest digits. -/
theorem value_toDecimal (x : Binary64) : x.toDecimal.value = signed x.isNegative
    ((x.shortest NumberFormat.plain.tie).coefficient *
      10 ^ (x.shortest NumberFormat.plain.tie).exponent) :=
  Decimal.value_ofScaled ..

end Binary64

end TableMapper
