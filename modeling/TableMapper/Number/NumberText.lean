import TableMapper.Number.Decimal
import TableMapper.Number.Shortest

/-!
# How doubles are written

All formats write the shortest digits of a double; a `NumberFormat` says the rest: which values are
written without an exponent, whether whole numbers keep `.0`, how an exponent looks and how ties
between digits go.  The program uses three formats.
-/

namespace TableMapper

structure NumberFormat where
  /-- How ties between two shortest decimals go. -/
  tie : Tie
  /-- The decimal exponents of the leading digit written without an exponent; all, if absent. -/
  positional : Option (Int × Int)
  /-- Whether a number without fraction is followed by `.0` when it has no exponent. -/
  keepsPoint : Bool
  /-- Whether a positive exponent has a plus sign. -/
  exponentPlus : Bool
  deriving DecidableEq, Repr

namespace NumberFormat

/-- Plain text: never an exponent, and no `.0`. -/
def plain : NumberFormat := ⟨.away, none, false, false⟩

/-- The text of JSON documents: no exponent from 1e-5 to 1e16, and whole numbers keep `.0`. -/
def json : NumberFormat := ⟨.even, some (-5, 15), true, true⟩

/-- The text in messages that show a value: no exponent from 1e-4 to 1e16, and whole numbers keep
`.0`. -/
def display : NumberFormat := ⟨.away, some (-4, 15), true, false⟩

/-- The text of a finite number's absolute value, given its digits. -/
def magnitudeChars (f : NumberFormat) (d : ScaledDigits) : List Char :=
  let digits := Decimal.natChars d.coefficient
  let lead : Int := d.exponent + digits.length - 1
  let fits := match f.positional with
    | none => true
    -- Zero has no leading digit that could lie too far out.
    | some (low, high) => d.coefficient = 0 || (decide (low ≤ lead) && decide (lead ≤ high))
  if fits then
    let numeral := Decimal.ofScaled false d.coefficient d.exponent
    numeral.chars ++ (if f.keepsPoint && numeral.fraction.isEmpty then ['.', '0'] else [])
  else
    let mantissa := match digits with
      | [] => []
      | [first] => [first]
      | first :: rest => first :: '.' :: rest
    -- The exponent's own sign; it is followed by the digits of its size.
    let sign := if lead < 0 then ['-'] else if f.exponentPlus then ['+'] else []
    mantissa ++ 'e' :: sign ++ Decimal.natChars lead.natAbs

def render (f : NumberFormat) (x : Binary64) : String :=
  if x.isNaN then "NaN"
  else
    let sign := if x.isNegative then ['-'] else []
    if x.isFinite then String.ofList (sign ++ f.magnitudeChars (x.shortest f.tie))
    else String.ofList (sign ++ ['i', 'n', 'f'])

end NumberFormat

/-- The numeral of a finite number with its shortest digits, without an exponent. -/
def Binary64.toDecimal (x : Binary64) : Decimal :=
  let d := x.shortest NumberFormat.plain.tie
  Decimal.ofScaled x.isNegative d.coefficient d.exponent

end TableMapper
