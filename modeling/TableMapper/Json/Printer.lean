import TableMapper.Json.Basic
import TableMapper.Number.NumberText

/-!
# Writing JSON

The compact text of a document: no blanks, the entries of objects in their order, and only those
characters of strings escaped that have to be.
-/

namespace TableMapper

namespace Json

/-- A hexadecimal digit in lower case. -/
def hexDigit (n : Nat) : Char := Nat.digitChar (n % 16)

/-- A character inside a string. -/
def escapeChar (c : Char) : List Char :=
  if c = '"' then ['\\', '"']
  else if c = '\\' then ['\\', '\\']
  else if c = '\x08' then ['\\', 'b']
  else if c = '\x0c' then ['\\', 'f']
  else if c = '\n' then ['\\', 'n']
  else if c = '\r' then ['\\', 'r']
  else if c = '\t' then ['\\', 't']
  else if c.toNat < 0x20 then ['\\', 'u', '0', '0', hexDigit (c.toNat / 16), hexDigit c.toNat]
  else [c]

/-- A string with its quotes. -/
def quoteChars (s : String) : List Char :=
  '"' :: s.toList.flatMap escapeChar ++ ['"']

end Json

def JsonNumber.chars : JsonNumber → List Char
  | .natural n => Decimal.natChars n.toNat
  | .negative i _ => (Decimal.ofInt i.toInt).chars
  | .real x _ => (NumberFormat.json.render x).toList

namespace Json

mutual

def chars : Json → List Char
  | .null => ['n', 'u', 'l', 'l']
  | .bool true => ['t', 'r', 'u', 'e']
  | .bool false => ['f', 'a', 'l', 's', 'e']
  | .number n => n.chars
  | .string s => quoteChars s
  | .array items => '[' :: itemChars true items ++ [']']
  | .object entries => '{' :: entryChars true entries ++ ['}']

/-- The items of an array, with a comma before each but the first. -/
def itemChars (first : Bool) : List Json → List Char
  | [] => []
  | item :: rest => (if first then [] else [',']) ++ chars item ++ itemChars false rest

/-- The entries of an object, with a comma before each but the first. -/
def entryChars (first : Bool) : List (String × Json) → List Char
  | [] => []
  | (key, value) :: rest =>
    (if first then [] else [',']) ++ quoteChars key ++ ':' :: chars value ++ entryChars false rest

end

def text (j : Json) : String := String.ofList j.chars

end Json

end TableMapper
