import TableMapper.Calendar.InstantReader
import TableMapper.Model.Basic
import TableMapper.Sql.Literal
import TableMapper.Text.Blank

/-!
# Encoding values

How a value becomes a literal in the column of its key.  The declared type of the property decides,
with two exceptions: null is always `NULL`, and an id that is a UUID is always written as text.  A
key that is not declared is written by the value's own kind.

- `Model.encode` gives one literal, or one for each item of an array;
- `Model.literal` asks for exactly one.
-/

namespace TableMapper

/-- What a value is encoded to. -/
inductive Encoded where
  | single (literal : Sql.Literal)
  | list (literals : List Sql.Literal)
  deriving DecidableEq, Repr

/-- The literals' text, with `separator` between those of a list. -/
def Encoded.text (separator : String) : Encoded → String
  | .single literal => literal.text
  | .list literals => String.intercalate separator (literals.map Sql.Literal.text)

namespace Encoding

/-! ## §1 Numbers and texts -/

/-- The numeral of a finite double: whole numbers below 10^15 as integers, without a sign on
zero. -/
def decimalOf (x : Binary64) : Decimal :=
  if x.isWhole ∧ x.truncate.natAbs < Nat.pow 10 15 then Decimal.ofInt x.truncate else x.toDecimal

/-- The text of a double: its numeral, or `inf`, `-inf` or `NaN`. -/
def numberText (x : Binary64) : String :=
  if x.isFinite then (decimalOf x).text else NumberFormat.plain.render x

/-- The text of a value in a column of texts. -/
def textOf : Value → String
  | .null => ""
  | .bool b => if b then "true" else "false"
  | .int i => intText i.toInt
  | .float x => numberText x
  | .string s => s
  | .date t => t.columnText
  | .json j => j.text
  | .array items => (Value.array items).toJson.text

/-! ## §2 Literals by type -/

/-- The literal of a value in a column that is not declared. -/
def undeclared : Value → Sql.Literal
  | .null => .null
  | .bool b => .ofBool b
  | .int i => .ofInt i.toInt
  -- No numeral stands for infinity or for no number.
  | .float x => if x.isFinite then .number (decimalOf x) else .quoted (textOf (.float x))
  | .date t => .quoted t.columnText
  | v => .quoted (textOf v)

/-- The numeral of a text: an integer if it fits a word, else a finite double. -/
def readDecimal? (s : String) : Option Decimal :=
  let trimmed := Text.trim s.toList
  -- An integer is kept digit by digit; only what does not fit a word goes through a double.
  match Numeral.readInt64? trimmed with
  | some i => some (Decimal.ofInt i.toInt)
  | none => ((Numeral.readDouble? trimmed).filter Binary64.isFinite).map decimalOf

def number (key : String) : Value → Except Error Sql.Literal
  | .int i => .ok (.ofInt i.toInt)
  | .float x =>
    if x.isFinite then .ok (.number (decimalOf x)) else .error (.invalidValue key (.notFinite x))
  | .bool b => .ok (.ofBool b)
  | .string s =>
    match readDecimal? s with
    | some d => .ok (.number d)
    | none => .error (.invalidValue key (.textNotNumber s))
  | .date t => .ok (.ofInt t.toMillis)
  | v => .error (.invalidValue key (.notNumber v))

def instant (key : String) : Value → Except Error Instant
  | .date t => .ok t
  | .string s =>
    match Instant.read? s with
    | some t => .ok t
    | none => .error (.invalidValue key (.textNotDate s))
  | .int millis =>
    match Instant.ofMillis? millis.toInt with
    | some t => .ok t
    | none => .error (.invalidValue key (.millisOutOfRange millis))
  | v => .error (.invalidValue key (.notDate v))

def date (key : String) (v : Value) : Except Error Sql.Literal :=
  match instant key v with
  | .error e => .error e
  | .ok t => .ok (.quoted t.columnText)

/-- The literal of a value in a column of the given type that is not stored as JSON text. -/
def typed (key : String) (type : PropertyType) (v : Value) : Except Error Sql.Literal :=
  match type with
  | .number => number key v
  | .date => date key v
  | .boolean => .ok (.ofBool v.isTruthy)
  | _ => .ok (.quoted (textOf v))

/-- The literal of a value, null excepted from all rules. -/
def scalar (key : String) (property : Option Property) (v : Value) : Except Error Sql.Literal :=
  if v.isNull then .ok .null
  else
    match property with
    | none => .ok (undeclared v)
    | some p => typed key p.type v

end Encoding

/-! ## §3 Encoding -/

namespace Model

/-- Whether a key is the id of a model whose ids are UUIDs. -/
def isUuidId (m : Model) (key : String) : Bool := key == idColumn && m.idMode.isUuid

/-- The literal of a value that is not written as JSON text. -/
def itemLiteral (m : Model) (key : String) (v : Value) : Except Error Sql.Literal :=
  -- An id that is made here is a text, whatever the model declares it to be.
  if m.isUuidId key ∧ !v.isNull then .ok (.quoted (Encoding.textOf v))
  else Encoding.scalar key (m.property? key) v

/-- Whether the values of a key are written as JSON text. -/
def isSerializedKey (m : Model) (key : String) : Bool :=
  !m.isUuidId key && (m.property? key).any fun p => p.type.isSerialized

/-- Encodes a value for the column of its key. -/
def encode (m : Model) (key : String) (v : Value) : Except Error Encoded :=
  if v.isNull then .ok (.single .null)
  -- An array in a column of documents is one document, not a list of values.
  else if m.isSerializedKey key then .ok (.single (.quoted v.toJson.text))
  else
    match v with
    | .array items =>
      match tryMap (m.itemLiteral key) items with
      | .error e => .error e
      | .ok literals => .ok (.list literals)
    | v =>
      match m.itemLiteral key v with
      | .error e => .error e
      | .ok literal => .ok (.single literal)

/-- Encodes a value that must have a single literal. -/
def literal (m : Model) (key : String) (v : Value) : Except Error Sql.Literal :=
  match m.encode key v with
  | .error e => .error e
  | .ok (.single literal) => .ok literal
  | .ok (.list _) => .error (.invalidFilter (.listForSingle key))

end Model

end TableMapper
