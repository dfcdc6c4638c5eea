/-!
# Double-precision numbers

A double is its 64 bits.  A finite one is an exact multiple of the unit `2 ^ -1074`, so each
question about its value (is it whole, which integer does it truncate to, which decimal lies
nearest) becomes a question about natural numbers.

- `Binary64.magnitude` is the absolute value counted in units;
- `Binary64.ofRatio` is the double nearest to a quotient, ties to the even neighbour;
- `Binary64.ofDecimal` is the double nearest to a decimal `c * 10 ^ e`;
- `Binary64.mul` and `Binary64.div` are the doubles nearest to a product and to a quotient;
- `Binary64.toInt64` and `Binary64.toUInt64` truncate and saturate.

Powers are written `Nat.pow`, whose meaning does not depend on the instances in scope.
-/

namespace TableMapper

/-- A double-precision number, given by its bits. -/
structure Binary64 where
  bits : UInt64
  deriving DecidableEq, Repr

namespace Binary64

/-! ## §1 Fields -/

def word (x : Binary64) : Nat := x.bits.toNat

/-- Whether the sign bit is set. -/
def isNegative (x : Binary64) : Bool := decide (Nat.pow 2 63 ≤ x.word)

def exponentField (x : Binary64) : Nat := x.word / Nat.pow 2 52 % 2048

def fractionField (x : Binary64) : Nat := x.word % Nat.pow 2 52

/-- Neither infinite nor a NaN. -/
def isFinite (x : Binary64) : Bool := x.exponentField != 2047

def isNaN (x : Binary64) : Bool := x.exponentField == 2047 && x.fractionField != 0

/-- The significand with its leading bit, which only subnormal numbers lack. -/
def significand (x : Binary64) : Nat :=
  if x.exponentField = 0 then x.fractionField else Nat.pow 2 52 + x.fractionField

/-- The power of two of the significand's last bit, counted from the unit. -/
def shift (x : Binary64) : Nat := x.exponentField - 1

/-- The absolute value of a finite number, counted in units of `2 ^ -1074`. -/
def magnitude (x : Binary64) : Nat := x.significand * Nat.pow 2 x.shift

/-- Either of the two zeros. -/
def isZero (x : Binary64) : Bool := x.isFinite && x.magnitude == 0

/-! ## §2 Rounding -/

/-- The natural number nearest to `a / d`, the even one if two are equally near. -/
def roundHalfEven (a d : Nat) : Nat :=
  let q := a / d
  let r := a % d
  if 2 * r < d then q
  else if d < 2 * r then q + 1
  else if q % 2 = 0 then q
  else q + 1

/-- The bits of positive infinity. -/
def infinityWord : Nat := 2047 * Nat.pow 2 52

/-- The number with the given sign and the given bits below the sign. -/
def ofWord (negative : Bool) (word : Nat) : Binary64 :=
  ⟨UInt64.ofNat ((if negative then Nat.pow 2 63 else 0) + word)⟩

/-- The number nearest to `num / den` with the given sign: ties go to the even neighbour, and
values beyond the range become infinite. -/
def ofRatio (negative : Bool) (num den : Nat) : Binary64 :=
  let units := num * Nat.pow 2 1074
  -- The power of two of the last bit that can be kept.
  let k := (units / den).log2 - 52
  -- The bits of significand `m` at power `k` are `k * 2 ^ 52 + m`, also when rounding carries into
  -- the next power.
  let word := k * Nat.pow 2 52 + roundHalfEven units (den * Nat.pow 2 k)
  ofWord negative (if word < infinityWord then word else infinityWord)

/-- The number nearest to `c * 10 ^ e`. -/
def ofDecimal (negative : Bool) (c : Nat) (e : Int) : Binary64 :=
  if c = 0 then ofWord negative 0
  -- Exponents that leave the range are settled without raising ten to them: the largest double is
  -- below 10 ^ 309 and the least positive one above 2 ^ -1075, and 8 < 10.
  else if 400 < e then ofWord negative infinityWord
  else if (c.log2 : Int) + 1 + 3 * e < -1100 then ofWord negative 0
  else if 0 ≤ e then ofRatio negative (c * Nat.pow 10 e.toNat) 1
  else ofRatio negative c (Nat.pow 10 (-e).toNat)

/-- The number nearest to an integer. -/
def ofInt (i : Int) : Binary64 := ofRatio (decide (i < 0)) i.natAbs 1

def nan : Binary64 := ⟨0x7FF8000000000000⟩

/-- The infinity of the given sign. -/
def infinity (negative : Bool) : Binary64 := ofWord negative infinityWord

/-- The double with the value of a single-precision number, given by its bits. -/
def ofBinary32 (bits : UInt32) : Binary64 :=
  let word := bits.toNat
  let negative := decide (Nat.pow 2 31 ≤ word)
  let exponent := word / Nat.pow 2 23 % 256
  let fraction := word % Nat.pow 2 23
  if exponent = 255 then
    if fraction = 0 then infinity negative else nan
  else
    let significand := if exponent = 0 then fraction else Nat.pow 2 23 + fraction
    ofRatio negative (significand * Nat.pow 2 (exponent - 1)) (Nat.pow 2 149)

/-! ## §3 Arithmetic -/

/-- The double nearest to the product of two finite numbers. -/
def mul (x y : Binary64) : Binary64 :=
  ofRatio (x.isNegative != y.isNegative) (x.magnitude * y.magnitude) (Nat.pow 2 2148)

/-- The double nearest to the quotient of two finite numbers, of which the second is not zero. -/
def div (x y : Binary64) : Binary64 :=
  ofRatio (x.isNegative != y.isNegative) x.magnitude y.magnitude

/-- The double nearest to `10 ^ k`. -/
def powerOfTen (k : Nat) : Binary64 := ofRatio false (Nat.pow 10 k) 1

/-! ## §4 Truncation -/

/-- Whether the value is a whole number. -/
def isWhole (x : Binary64) : Bool := x.isFinite && x.magnitude % Nat.pow 2 1074 == 0

/-- The value of a finite number without its fractional part. -/
def truncate (x : Binary64) : Int :=
  let n : Int := (x.magnitude / Nat.pow 2 1074 : Nat)
  if x.isNegative then -n else n

/-- The truncated value, held within `low` and `high`; a NaN gives zero. -/
def clamp (low high : Int) (x : Binary64) : Int :=
  if x.isNaN then 0
  else if x.isFinite then max low (min high x.truncate)
  else if x.isNegative then low
  else high

/-- The nearest signed word towards zero: too large values saturate and a NaN gives zero. -/
def toInt64 (x : Binary64) : Int64 :=
  Int64.ofInt (x.clamp Int64.minValue.toInt Int64.maxValue.toInt)

/-- The nearest unsigned word towards zero: too large values saturate, negative ones and a NaN give
zero. -/
def toUInt64 (x : Binary64) : UInt64 :=
  UInt64.ofNat (x.clamp 0 (UInt64.size - 1)).toNat

/-- Whether the value is at least zero; the negative zero is, a NaN is not. -/
def isNonNegative (x : Binary64) : Bool :=
  !x.isNaN && (!x.isNegative || x.isZero)

end Binary64

end TableMapper
