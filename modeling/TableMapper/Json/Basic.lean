import TableMapper.Number.Binary64
import TableMapper.Number.Word

/-!
# JSON documents

A document as it is held in memory: numbers are words or finite doubles, and objects keep the order
of their entries.

- `JsonNumber.ofInt` and `JsonNumber.toInt64?` connect numbers with integers;
- `Json.get?` looks up an entry of an object, `Json.put` sets one in place or at the end.
-/

namespace TableMapper

/-! ## §1 Numbers -/

/-- A number of a document: a word without sign, a negative word, or a finite double. -/
inductive JsonNumber where
  | natural (n : UInt64)
  | negative (i : Int64) (below : i < 0)
  | real (x : Binary64) (finite : x.isFinite = true)
  deriving DecidableEq, Repr

namespace JsonNumber

/-- The number of a signed word. -/
def ofInt64 (i : Int64) : JsonNumber :=
  if below : i < 0 then .negative i below else .natural (UInt64.ofNat i.toInt.toNat)

/-- The number of a double, if it is finite. -/
def ofBinary64? (x : Binary64) : Option JsonNumber :=
  if finite : x.isFinite = true then some (.real x finite) else none

/-- The number as a signed word, if it is an integer that fits. -/
def toInt64? : JsonNumber → Option Int64
  | .natural n => Word.int64? n.toNat
  | .negative i _ => some i
  | .real _ _ => none

/-- The number as a word without sign, if it is one. -/
def toUInt64? : JsonNumber → Option UInt64
  | .natural n => some n
  | .negative _ _ => none
  | .real _ _ => none

/-- The double nearest to the number. -/
def toBinary64 : JsonNumber → Binary64
  | .natural n => Binary64.ofInt n.toNat
  | .negative i _ => Binary64.ofInt i.toInt
  | .real x _ => x

end JsonNumber

/-! ## §2 Documents -/

inductive Json where
  | null
  | bool (b : Bool)
  | number (n : JsonNumber)
  | string (s : String)
  | array (items : List Json)
  | object (entries : List (String × Json))
  deriving Repr, Inhabited

namespace Json

/-- The value of the first entry with the given key. -/
def lookup? (key : String) : List (String × Json) → Option Json
  | [] => none
  | (k, value) :: rest => if k = key then some value else lookup? key rest

/-- The entry of an object; other documents have none. -/
def get? (key : String) : Json → Option Json
  | .object entries => lookup? key entries
  | _ => none

def isNull : Json → Bool
  | .null => true
  | _ => false

/-- The entries with `key` set to `value`: a key that is there keeps its place, a new one comes
last. -/
def put (key : String) (value : Json) : List (String × Json) → List (String × Json)
  | [] => [(key, value)]
  | (k, old) :: rest => if k = key then (k, value) :: rest else (k, old) :: put key value rest

def asString? : Json → Option String
  | .string s => some s
  | _ => none

/-- The document of an optional string. -/
def ofOption (text : Option String) : Json :=
  match text with
  | none => .null
  | some s => .string s

/-- The document of a natural number below `2 ^ 64`. -/
def ofNat (n : Nat) : Json := .number (.natural (UInt64.ofNat n))

mutual

/-- How deep arrays and objects nest. -/
def nesting : Json → Nat
  | .array items => nestingOfItems items + 1
  | .object entries => nestingOfEntries entries + 1
  | _ => 0

def nestingOfItems : List Json → Nat
  | [] => 0
  | item :: rest => max (nesting item) (nestingOfItems rest)

def nestingOfEntries : List (String × Json) → Nat
  | [] => 0
  | (_, value) :: rest => max (nesting value) (nestingOfEntries rest)

end

end Json

end TableMapper
