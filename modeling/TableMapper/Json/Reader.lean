import TableMapper.Json.Basic
import TableMapper.Json.Syntax
import TableMapper.Number.WordDecimal

/-!
# Reading JSON

`Json.read?` reads a document from its text.  Beyond the grammar it asks that escapes name
characters (a pair of surrogates names one), that numbers fit a double, and that arrays and objects
nest at most `maxDepth` deep.  A repeated key keeps its first place and takes its last value.

Integers that fit a word are read exactly.  Other numbers become doubles in a few steps that round
(`WordDecimal`), so with many digits or a large exponent the answer may lie beside the nearest
double.
-/

namespace TableMapper

/-- The deepest nesting of arrays and objects that is read. -/
def maxDepth : Nat := 127

namespace StringUnit

/-- The text of the units of a string; surrogates must come in pairs. -/
def decode? : List StringUnit → Option (List Char)
  | [] => some []
  | .char c :: rest => (decode? rest).map (c :: ·)
  | .code n :: rest =>
    -- A high surrogate needs a low one behind it, and together they name one character.
    if 0xD800 ≤ n ∧ n < 0xDC00 then
      match rest with
      | .code m :: rest =>
        if 0xDC00 ≤ m ∧ m < 0xE000 then
          (decode? rest).map (Char.ofNat (0x10000 + (n - 0xD800) * 0x400 + (m - 0xDC00)) :: ·)
        else none
      | _ => none
    else if 0xDC00 ≤ n ∧ n < 0xE000 then none
    else (decode? rest).map (Char.ofNat n :: ·)

def text? (s : List StringUnit) : Option String := (decode? s).map String.ofList

end StringUnit

namespace NumberSyntax

/-- Whether the number has neither fraction nor exponent. -/
def isInteger (n : NumberSyntax) : Bool := n.fraction.isEmpty && n.exponent.isNone

/-- The double of the number, which may be infinite: that of the decimal that keeps as many of its
digits as fit a word. -/
def toBinary64 (n : NumberSyntax) : Binary64 :=
  (WordDecimal.ofDigits n.whole n.fraction (n.exponent.getD 0)).toBinary64 n.negative

/-- The number as a word, if it is an integer that fits one. -/
def toWord? (n : NumberSyntax) : Option JsonNumber :=
  let value := Numeral.digitsValue 0 n.whole
  if !n.isInteger then none
  else if n.negative then
    -- A zero with a sign is left to the doubles, which can keep it.
    if value = 0 then none else (Word.int64? (-(value : Int))).map JsonNumber.ofInt64
  else (Word.uint64? value).map .natural

/-- The number: integers that fit a word are words, all else is a double, which must be finite. -/
def toNumber? (n : NumberSyntax) : Option JsonNumber :=
  match n.toWord? with
  | some word => some word
  | none => JsonNumber.ofBinary64? n.toBinary64

end NumberSyntax

namespace JsonSyntax

mutual

/-- The document of a tree that nests at most `depth` deep. -/
def toJson? (depth : Nat) : JsonSyntax → Option Json
  | .null => some .null
  | .bool b => some (.bool b)
  | .number n => n.toNumber?.map .number
  | .string s => (StringUnit.text? s).map .string
  | .array items => if depth = 0 then none else (toItems? (depth - 1) items).map .array
  | .object entries => if depth = 0 then none else (toEntries? (depth - 1) [] entries).map .object

def toItems? (depth : Nat) : List JsonSyntax → Option (List Json)
  | [] => some []
  | item :: rest => do
    let item ← toJson? depth item
    let rest ← toItems? depth rest
    some (item :: rest)

/-- The entries of an object, put one after another into those `done`. -/
def toEntries? (depth : Nat) (done : List (String × Json)) :
    List (List StringUnit × JsonSyntax) → Option (List (String × Json))
  | [] => some done
  | (key, value) :: rest => do
    let key ← StringUnit.text? key
    let value ← toJson? depth value
    -- A repeated key keeps its first place and takes its last value.
    toEntries? depth (Json.put key value done) rest

end

end JsonSyntax

/-- The document of a text. -/
def Json.read? (s : String) : Option Json :=
  (JsonSyntax.read? s).bind (·.toJson? maxDepth)

end TableMapper
