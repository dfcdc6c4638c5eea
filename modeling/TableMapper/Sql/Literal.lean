import TableMapper.Number.NumberText
import TableMapper.Sql.Quoting

/-!
# Literals

What a value becomes in a statement: `NULL`, a bare number or a quoted text.
-/

namespace TableMapper.Sql

inductive Literal where
  | null
  | number (d : Decimal)
  | quoted (s : String)
  deriving DecidableEq, Repr

namespace Literal

def ofInt (i : Int) : Literal := .number (Decimal.ofInt i)

/-- The literal of a truth value: `1` or `0`. -/
def ofBool (b : Bool) : Literal := ofInt (if b then 1 else 0)

def chars : Literal → List Char
  | .null => ['N', 'U', 'L', 'L']
  | .number d => d.chars
  | .quoted s => stringChars s.toList

def text (l : Literal) : String := String.ofList l.chars

end Literal

end TableMapper.Sql
