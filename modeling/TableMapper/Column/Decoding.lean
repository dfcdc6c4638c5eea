import TableMapper.Calendar.InstantReader
import TableMapper.Json.Reader
import TableMapper.Model.Basic

/-!
# Decoding values

How a value that comes back from the server becomes a value of the model.  Dates are read from text
or milliseconds, truth values by loose truth, and documents from their text; what cannot be read
becomes null.  All other values, and those of columns that are not declared, stay as they are.
-/

namespace TableMapper

namespace Decoding

def date : Value → Value
  | .string s =>
    match Instant.read? s with
    | some t => .date t
    | none => .null
  | .int millis =>
    match Instant.ofMillis? millis.toInt with
    | some t => .date t
    | none => .null
  | v => v

/-- The value of a raw text through its document, made by `ofDocument`. -/
def document (ofDocument : Json → Value) : Value → Value
  | .string s =>
    match Json.read? s with
    | some j => ofDocument j
    | none => .null
  | v => v

/-- The value of a raw one that is not null, by the property's type. -/
def typed (type : PropertyType) (raw : Value) : Value :=
  match type with
  | .date => date raw
  | .boolean => .bool raw.isTruthy
  | .json => document .json raw
  | .array _ => document .ofJson raw
  | _ => raw

end Decoding

namespace Model

def decode (m : Model) (key : String) (raw : Value) : Value :=
  if raw.isNull then raw
  else
    match m.property? key with
    | none => raw
    | some p => Decoding.typed p.type raw

def decodeRow (m : Model) (row : Row) : Row :=
  row.map fun column => (column.1, m.decode column.1 column.2)

end Model

end TableMapper
