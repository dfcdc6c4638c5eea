import TableMapper.Number.Binary64
import TableMapper.Number.Word

/-!
# Reading numbers from text

The readers take a whole text: nothing may stand before or after the number, and only ASCII digits
count.

- `readNat?` reads digits with an optional plus sign, `readInt?` also a minus sign;
- `readWord64?`, `readInt64?` and `readWord32?` also ask that the number fits;
- `readDouble?` reads digits with an optional point and exponent, or the name of an infinity or a
  NaN.
-/

namespace TableMapper.Numeral

/-! ## §1 Digits -/

/-- The value of a decimal digit. -/
def digit? (c : Char) : Option Nat :=
  if '0' ≤ c ∧ c ≤ '9' then some (c.toNat - '0'.toNat) else none

/-- Whether a character is a decimal digit. -/
def isDigit (c : Char) : Bool := (digit? c).isSome

/-- The value of a run of digits, read after the digits worth `acc`. -/
def digitsValue (acc : Nat) : List Char → Nat
  | [] => acc
  | c :: rest => digitsValue (acc * 10 + (digit? c).getD 0) rest

/-- The digits at the beginning of a text, and the rest. -/
def takeDigits (s : List Char) : List Char × List Char :=
  (s.takeWhile isDigit, s.dropWhile isDigit)

/-- The value of a text of one or more digits. -/
def readDigits? (s : List Char) : Option Nat :=
  if s.isEmpty then none
  else if s.all isDigit then some (digitsValue 0 s)
  else none

/-! ## §2 Integers -/

/-- The value of digits with an optional plus sign. -/
def readNat? : List Char → Option Nat
  | '+' :: rest => readDigits? rest
  | s => readDigits? s

/-- The value of digits with an optional sign. -/
def readInt? : List Char → Option Int
  | '-' :: rest => (readDigits? rest).map fun n => -(n : Int)
  -- A plus sign is left to the reader of natural numbers.
  | s => (readNat? s).map fun n => (n : Int)

def readInt64? (s : List Char) : Option Int64 :=
  (readInt? s).bind Word.int64?

def readWord64? (s : List Char) : Option UInt64 :=
  (readNat? s).bind Word.uint64?

def readWord32? (s : List Char) : Option UInt32 :=
  (readNat? s).bind Word.uint32?

/-! ## §3 Doubles -/

/-- A sign at the beginning of a text, and the rest. -/
def takeSign : List Char → Bool × List Char
  | '-' :: rest => (true, rest)
  | '+' :: rest => (false, rest)
  | s => (false, s)

/-- The exponent at the end of a number: nothing, or `e` with an optional sign and digits. -/
def readExponent? : List Char → Option Int
  | [] => some 0
  | c :: rest =>
    if c = 'e' ∨ c = 'E' then
      let (negative, digits) := takeSign rest
      (readDigits? digits).map fun n => if negative then -(n : Int) else n
    else none

/-- The double of a number without sign: digits on at least one side of an optional point, then an
optional exponent. -/
def readUnsigned? (negative : Bool) (s : List Char) : Option Binary64 :=
  let (whole, rest) := takeDigits s
  let (fraction, rest) := match rest with
    | '.' :: rest => takeDigits rest
    | rest => ([], rest)
  -- `1.` and `.5` are numbers, a point alone is not.
  if whole.isEmpty && fraction.isEmpty then none
  else
    (readExponent? rest).map fun e =>
      Binary64.ofDecimal negative (digitsValue 0 (whole ++ fraction)) (e - fraction.length)

/-- The double of a text: a number, or `inf`, `infinity` or `nan` in any letter case. -/
def readDouble? (s : List Char) : Option Binary64 :=
  let (negative, rest) := takeSign s
  let name := String.ofList (rest.map Char.toLower)
  if name = "inf" ∨ name = "infinity" then some (Binary64.infinity negative)
  else if name = "nan" then some Binary64.nan
  else readUnsigned? negative rest

end TableMapper.Numeral
