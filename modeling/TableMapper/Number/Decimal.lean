/-!
# Decimal numerals

A `Decimal` is what stands on paper: a sign, the whole part and the digits of the fraction.  It is
the form in which numbers stand bare in statements.

- `Decimal.chars` is its text: a minus sign if negative, the whole part without leading zeros, and a
  point with the fraction's digits if there are any;
- `Decimal.ofInt` and `Decimal.ofScaled` give the numerals of an integer and of `c * 10 ^ e`.
-/

namespace TableMapper

/-- A decimal numeral. -/
structure Decimal where
  negative : Bool
  whole : Nat
  fraction : List (Fin 10)
  deriving DecidableEq, Repr

namespace Decimal

def digitChar (d : Fin 10) : Char := Nat.digitChar d

/-- The decimal digits of a natural number, without leading zeros. -/
def natChars (n : Nat) : List Char := Nat.toDigits 10 n

/-- The last `k` decimal digits of `n`, with leading zeros. -/
def lastDigits : (k n : Nat) → List (Fin 10)
  | 0, _ => []
  | k + 1, n => lastDigits k (n / 10) ++ [⟨n % 10, Nat.mod_lt n (by decide)⟩]

/-- The last `k` decimal digits of `n` as characters. -/
def paddedChars (k n : Nat) : List Char := (lastDigits k n).map digitChar

/-- The decimal digits of `n`, with leading zeros if they are fewer than `k`. -/
def atLeastChars (k n : Nat) : List Char :=
  let digits := natChars n
  List.replicate (k - digits.length) '0' ++ digits

/-- The text of a numeral. -/
def chars (d : Decimal) : List Char :=
  (if d.negative then ['-'] else []) ++ natChars d.whole ++
    (if d.fraction.isEmpty then [] else '.' :: d.fraction.map digitChar)

def text (d : Decimal) : String := String.ofList d.chars

/-- The numeral of an integer. -/
def ofInt (i : Int) : Decimal := ⟨decide (i < 0), i.natAbs, []⟩

/-- The numeral of `c * 10 ^ e`, written without an exponent. -/
def ofScaled (negative : Bool) (c : Nat) (e : Int) : Decimal :=
  if 0 ≤ e then
    ⟨negative, c * Nat.pow 10 e.toNat, []⟩
  else
    let places := (-e).toNat
    ⟨negative, c / Nat.pow 10 places, lastDigits places c⟩

/-- The value of a numeral, as a numerator over a power of ten. -/
def numerator (d : Decimal) : Int :=
  let n := d.fraction.foldl (fun (acc : Nat) (digit : Fin 10) => acc * 10 + digit.val) d.whole
  if d.negative then -(n : Int) else n

/-- The number of digits after the point, which is the power of ten under `numerator`. -/
def places (d : Decimal) : Nat := d.fraction.length

end Decimal

def natText (n : Nat) : String := String.ofList (Decimal.natChars n)

def intText (i : Int) : String := (Decimal.ofInt i).text

end TableMapper
