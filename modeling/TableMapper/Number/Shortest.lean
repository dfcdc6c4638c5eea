import TableMapper.Number.Binary64

/-!
# The shortest digits of a double

Many decimals read back as the same double: those in the interval of reals that round to it.  Of
these the one with the fewest digits is written, and of several with as few digits the one nearest
to the double's value.  `Binary64.shortest` finds it in exact arithmetic: on the grid of multiples
of `10 ^ p` it tries the value's two neighbours, for decreasing `p`, and takes the first hit.

Where both neighbours lie in the interval and are equally near, the formats differ; `Tie` says how.
-/

namespace TableMapper

/-- Which of two equally near neighbours is taken. -/
inductive Tie where
  /-- The larger one. -/
  | away
  /-- The one with an even last digit. -/
  | even
  deriving DecidableEq, Repr

/-- The decimal `coefficient * 10 ^ exponent`. -/
structure ScaledDigits where
  coefficient : Nat
  exponent : Int
  deriving DecidableEq, Repr

namespace Binary64

/-! ## §1 The interval of reals that round to a double -/

/-- Reals in quarter units: `low` and `high` bound those that round to the double of value `value`;
the bounds belong to it if `closed`. -/
structure Interval where
  low : Nat
  value : Nat
  high : Nat
  closed : Bool
  deriving DecidableEq, Repr

/-- The interval of a finite double's absolute value, with its bounds half way to the two
neighbours. -/
def interval (x : Binary64) : Interval :=
  let m := x.significand
  let step := Nat.pow 2 x.shift
  -- Below a power of two the neighbour is only half as far.
  let below := if x.fractionField = 0 ∧ 1 < x.exponentField then 1 else 2
  -- Ties round to the even significand, so the bounds belong to the even ones.
  ⟨(4 * m - below) * step, 4 * m * step, (4 * m + 2) * step, m % 2 == 0⟩

/-- Whether the quotient `num / den` lies in the interval. -/
def Interval.holds (i : Interval) (num den : Nat) : Bool :=
  if i.closed then decide (i.low * den ≤ num ∧ num ≤ i.high * den)
  else decide (i.low * den < num ∧ num < i.high * den)

/-! ## §2 The search -/

/-- The multiple of `10 ^ p` that reads back and is nearest to the value, if one reads back. -/
def Interval.onGrid? (i : Interval) (tie : Tie) (p : Int) : Option Nat :=
  -- One step of the grid is `num / den` quarter units.
  let num := Nat.pow 2 1076 * (if 0 ≤ p then Nat.pow 10 p.toNat else 1)
  let den := if 0 ≤ p then 1 else Nat.pow 10 (-p).toNat
  let scaled := i.value * den
  let below := scaled / num
  let above := below + 1
  match i.holds (below * num) den, i.holds (above * num) den with
  | false, false => none
  | true, false => some below
  | false, true => some above
  | true, true =>
    -- What is left below the value decides which neighbour is nearer.
    let r := scaled % num
    if 2 * r < num then some below
    else if num < 2 * r then some above
    else match tie with
      | .away => some above
      | .even => if below % 2 = 0 then some below else some above

/-- An exponent `p` such that the value is below `10 ^ p`, and not much below. -/
def Interval.topExponent (i : Interval) : Int :=
  ((i.value.log2 : Int) - 1075) * 30103 / 100000 + 1

/-- The fewest digits that read back as the absolute value of `x`, a finite number. -/
def shortest (tie : Tie) (x : Binary64) : ScaledDigits :=
  if x.magnitude = 0 then ⟨0, 0⟩
  else
    let i := x.interval
    let top := i.topExponent
    -- Seventeen digits always read back, so the search ends within its range.
    let found := (List.range 22).findSome? fun (k : Nat) =>
      (i.onGrid? tie (top - k)).map fun c => ScaledDigits.mk c (top - k)
    found.getD ⟨0, 0⟩

end Binary64

end TableMapper
