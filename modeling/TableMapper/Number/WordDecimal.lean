import TableMapper.Number.Numeral

/-!
# Decimals with a significand of one word

A decimal `c * 10 ^ e` whose significand `c` fits a word of 64 bits, and the double that it becomes.

- `WordDecimal.ofDigits` keeps as many of the digits of a number as the word holds.  Digits of the
  whole part that are left out still count for the size of the number, those of the fraction do not
  count at all;
- `WordDecimal.toBinary64` rounds the significand to a double, then multiplies it with a power of
  ten or divides it by one.

Powers of ten are doubles, too, and each step rounds, so the answer may lie beside the double that
is nearest to the number: the quotient of 1 and `10 ^ 23` is the double next to the one nearest to
`10 ^ (-23)`.
-/

namespace TableMapper

/-- The decimal `significand * 10 ^ exponent`. -/
structure WordDecimal where
  significand : UInt64
  exponent : Int
  deriving DecidableEq, Repr

namespace WordDecimal

/-! ## §1 Digits -/

/-- The word `w` followed by those of the digits that fit, and the digits from the first one that
does not. -/
def takeFitting (w : UInt64) : List Char → UInt64 × List Char
  | [] => (w, [])
  | c :: rest =>
    match Word.uint64? (w.toNat * 10 + (Numeral.digit? c).getD 0) with
    | some next => takeFitting next rest
    | none => (w, c :: rest)

/-- The decimal of a number without sign, given by the digits before and after its point and its
exponent. -/
def ofDigits (whole fraction : List Char) (exponent : Int) : WordDecimal :=
  let (significand, dropped) := takeFitting 0 whole
  -- A digit of the fraction may fit where a larger one of the whole part did not.
  let (significand, ignored) := takeFitting significand fraction
  ⟨significand, exponent + dropped.length - (fraction.length - ignored.length : Nat)⟩

/-! ## §2 The double -/

/-- The largest power of ten that is a finite double. -/
def maxPower : Nat := 308

/-- The double of a decimal, with the given sign; it is infinite if the decimal is too large. -/
def toBinary64 (negative : Bool) (d : WordDecimal) : Binary64 :=
  let x := Binary64.ofRatio negative d.significand.toNat 1
  let k := d.exponent.natAbs
  if d.significand = 0 then x
  else if 0 ≤ d.exponent then
    if k ≤ maxPower then x.mul (Binary64.powerOfTen k) else Binary64.infinity negative
  else if k ≤ maxPower then x.div (Binary64.powerOfTen k)
  -- Beyond the powers there are, the division takes two steps.  A significand is less than
  -- `2 ^ 64`, so after two such steps nothing is left of it.
  else if k ≤ 2 * maxPower then
    (x.div (Binary64.powerOfTen maxPower)).div (Binary64.powerOfTen (k - maxPower))
  else Binary64.ofWord negative 0

end WordDecimal

end TableMapper
