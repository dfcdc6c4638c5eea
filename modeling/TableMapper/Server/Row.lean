import TableMapper.Calendar.Instant
import TableMapper.Number.Decimal
import TableMapper.Number.Numeral
import TableMapper.Text.Utf8
import TableMapper.Value.Basic

/-!
# Rows from the server

A server gives values in a binary form or as text.  Text is turned into numbers where the column's
type says so; dates become instants, and times of day stay text.
-/

namespace TableMapper

/-! ## §1 Raw values -/

/-- What a column's type says about values that come as text. -/
inductive ServerType where
  | integer
  | floating
  | other
  deriving DecidableEq, Repr

/-- The type of a name in the server's protocol. -/
def ServerType.ofName (name : String) : ServerType :=
  if name ∈ ["TINY", "SHORT", "LONG", "INT24", "LONGLONG", "YEAR"] then .integer
  else if name ∈ ["FLOAT", "DOUBLE"] then .floating
  else .other

/-- A date and time of day as the server sends it, valid or not. -/
structure RawDate where
  year : Nat
  month : Nat
  day : Nat
  hour : Nat
  minute : Nat
  second : Nat
  micros : Nat
  deriving DecidableEq, Repr

/-- A span of time as the server sends it. -/
structure RawTime where
  negative : Bool
  days : Nat
  hours : Nat
  minutes : Nat
  seconds : Nat
  micros : Nat
  deriving DecidableEq, Repr

/-- A value as the server sends it. -/
inductive RawValue where
  | null
  | bytes (bytes : List UInt8)
  | int (i : Int64)
  | uint (n : UInt64)
  | float (bits : UInt32)
  | double (x : Binary64)
  | date (d : RawDate)
  | time (t : RawTime)
  deriving DecidableEq, Repr

namespace RawValue

/-! ## §2 Conversion -/

/-- The value of a text in a column of a type.  A number must fill the whole text. -/
def ofText (type : ServerType) (s : List Char) : Value :=
  match type with
  | .integer =>
    -- What does not fit a word stays text, so no digit is lost.
    match Numeral.readInt64? s with
    | some i => .int i
    | none => .string (String.ofList s)
  | .floating =>
    match Numeral.readDouble? s with
    | some x => .float x
    | none => .string (String.ofList s)
  | .other => .string (String.ofList s)

/-- The instant of a date and time of day. -/
def instant? (d : RawDate) : Option Instant :=
  let date : CivilDate := ⟨d.year, d.month, d.day⟩
  if date.isValid ∧ d.hour < 24 ∧ d.minute < 60 ∧ d.second < 60 then
    -- So many microseconds that they make a leap second are allowed in the last second of a minute.
    Instant.of? (date.toDays * 86400 + ((d.hour * 60 + d.minute) * 60 + d.second : Nat))
      (d.micros * 1000)
  else none

def ofDate (d : RawDate) : Value :=
  match instant? d with
  | some t => .date t
  | none => .null

/-- The text of a span of time: hours, with those of whole days, minutes, seconds and
microseconds. -/
def timeText (t : RawTime) : String :=
  String.ofList ((if t.negative then ['-'] else []) ++
    Decimal.atLeastChars 2 (t.days * 24 + t.hours) ++ ':' :: Decimal.atLeastChars 2 t.minutes ++
    ':' :: Decimal.atLeastChars 2 t.seconds ++ '.' :: Decimal.atLeastChars 6 t.micros)

/-- The value of a raw one in a column of a type. -/
def toValue (type : ServerType) : RawValue → Value
  | .null => .null
  | .bytes octets => ofText type (Text.decodeLossy octets)
  | .int i => .int i
  | .uint n => .ofUInt64 n
  | .float bits => .float (Binary64.ofBinary32 bits)
  | .double x => .float x
  | .date d => ofDate d
  | .time t => .string (timeText t)

end RawValue

/-- A column of a row as the server sends it. -/
structure RawColumn where
  name : String
  type : ServerType
  value : RawValue
  deriving DecidableEq, Repr

/-- The row of raw columns. -/
def Row.ofColumns (columns : List RawColumn) : Row :=
  columns.map fun c => (c.name, c.value.toValue c.type)

end TableMapper
