import TableMapper.Calendar.InstantText
import TableMapper.Json.Basic

/-!
# Values and rows

A `Value` is what callers put into conditions and data and what rows bring back.  A row is a list of
columns with their values; names may repeat, and the first one counts.

- `Value.ofJson` and `Value.toJson` connect values with documents: arrays become lists of values,
  objects stay documents, and dates become text;
- `Value.isTruthy` is the loose notion of truth by which boolean columns are written and read.
-/

namespace TableMapper

/-- A value of a model's property. -/
inductive Value where
  | null
  | bool (b : Bool)
  | int (i : Int64)
  | float (x : Binary64)
  | string (s : String)
  | date (t : Instant)
  | json (j : Json)
  | array (items : List Value)
  deriving Repr, Inhabited

/-- Columns and their values, in order. -/
abbrev Row := List (String × Value)

/-- The value of the first column with the given name. -/
def Row.get? (column : String) : Row → Option Value
  | [] => none
  | (name, value) :: rest => if name = column then some value else Row.get? column rest

namespace Value

/-! ## §1 Views -/

def isNull : Value → Bool
  | .null => true
  | _ => false

def asBool? : Value → Option Bool
  | .bool b => some b
  | _ => none

def asInt? : Value → Option Int64
  | .int i => some i
  | _ => none

/-- The double of a number; integers are widened to the nearest one. -/
def asFloat? : Value → Option Binary64
  | .float x => some x
  | .int i => some (Binary64.ofInt i.toInt)
  | _ => none

def asString? : Value → Option String
  | .string s => some s
  | _ => none

def asDate? : Value → Option Instant
  | .date t => some t
  | _ => none

/-- Loose truth: null, false, zero, a NaN, the empty text and the text `0` are false. -/
def isTruthy : Value → Bool
  | .null => false
  | .bool b => b
  | .int i => i != 0
  | .float x => !x.isNaN && !x.isZero
  -- Small integer columns may come back as text.
  | .string s => s != "" && s != "0"
  | .date _ => true
  | .json _ => true
  | .array _ => true

/-! ## §2 Making values -/

/-- The value of a word without sign: an integer if it fits, else the nearest double. -/
def ofUInt64 (n : UInt64) : Value :=
  match Word.int64? n.toNat with
  | some i => .int i
  | none => .float (Binary64.ofInt n.toNat)

/-- The value of an optional one, null if it is absent. -/
def ofOption : Option Value → Value
  | none => .null
  | some v => v

/-! ## §3 Documents -/

/-- The value of a number: an integer if it fits, else the nearest double. -/
def ofNumber (n : JsonNumber) : Value :=
  match n.toInt64? with
  | some i => .int i
  | none => .float n.toBinary64

mutual

def ofJson : Json → Value
  | .null => .null
  | .bool b => .bool b
  | .number n => ofNumber n
  | .string s => .string s
  | .array items => .array (ofJsonItems items)
  -- An object stays a document as a whole, its items included.
  | .object entries => .json (.object entries)

def ofJsonItems : List Json → List Value
  | [] => []
  | item :: rest => ofJson item :: ofJsonItems rest

end

mutual

/-- The document of a value.  Doubles that are not finite become null. -/
def toJson : Value → Json
  | .null => .null
  | .bool b => .bool b
  | .int i => .number (JsonNumber.ofInt64 i)
  -- Documents have no numeral for infinity or for no number.
  | .float x => match JsonNumber.ofBinary64? x with
    | some n => .number n
    | none => .null
  | .string s => .string s
  | .date t => .string t.jsonText
  | .json j => j
  | .array items => .array (toJsonItems items)

def toJsonItems : List Value → List Json
  | [] => []
  | item :: rest => toJson item :: toJsonItems rest

end

/-- The value of a list of values is an array of their values, item by item. -/
theorem ofJsonItems_eq_map (items : List Json) : ofJsonItems items = items.map ofJson := by
  induction items with
  | nil => rfl
  | cons item rest ih => simp [ofJsonItems, ih]

/-- The documents of a list of values, item by item. -/
theorem toJsonItems_eq_map (items : List Value) : toJsonItems items = items.map toJson := by
  induction items with
  | nil => rfl
  | cons item rest ih => simp [toJsonItems, ih]

end Value

end TableMapper
