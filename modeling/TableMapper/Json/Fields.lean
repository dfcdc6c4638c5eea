import TableMapper.Json.Reader

/-!
# Records in documents

A record is written as an object with an entry for each field, or as an array of its fields in
order.  In an object, entries of other names do not count, and no field may be given twice; in an
array, fields may be missing at the end but none may be added.  What a missing field means is up to
the record.

Records are read from documents in memory and straight from the trees of texts, where what does not
count may hold whatever the grammar allows: numbers out of range, escapes that name no character,
any nesting.  `DocumentView` is what the readers of records ask of either.

The readers of fields take what was found, if anything, and give the field's value or nothing if the
document does not fit.
-/

namespace TableMapper

/-! ## §1 Documents to read records from -/

/-- A kind of document that records are read from. -/
class DocumentView (δ : Type) where
  /-- The entries of an object, repeated keys included. -/
  entries? : δ → Option (List (String × δ))
  /-- The items of an array. -/
  items? : δ → Option (List δ)
  /-- The document, where it holds no records. -/
  whole? : δ → Option Json

instance : DocumentView Json where
  entries?
    | .object entries => some entries
    | _ => none
  items?
    | .array items => some items
    | _ => none
  whole? := some

namespace JsonSyntax

mutual

/-- The document of a tree without records.  Its objects are cases with contents, which have one
entry. -/
def caseDocument? : JsonSyntax → Option Json
  | .null => some .null
  | .bool b => some (.bool b)
  | .number n => n.toNumber?.map .number
  | .string s => (StringUnit.text? s).map .string
  | .array items => (caseDocuments? items).map .array
  -- The one object that a record's fields hold is a case with contents.
  | .object [(key, contents)] => do
    let key ← StringUnit.text? key
    let contents ← caseDocument? contents
    some (.object [(key, contents)])
  | .object _ => none

def caseDocuments? : List JsonSyntax → Option (List Json)
  | [] => some []
  | item :: rest => do
    let item ← caseDocument? item
    let rest ← caseDocuments? rest
    some (item :: rest)

end

/-- A tree that is being read, with the number of levels that arrays and objects in it may nest. -/
structure Node where
  room : Nat
  tree : JsonSyntax

/-- The entries of an object with `room` for what they hold, if the keys can be read. -/
def nodes? (room : Nat) (entries : List (List StringUnit × JsonSyntax)) :
    Option (List (String × Node)) :=
  entries.mapM fun entry => (StringUnit.text? entry.1).map fun key => (key, ⟨room, entry.2⟩)

end JsonSyntax

instance : DocumentView JsonSyntax.Node where
  entries?
    | ⟨room + 1, .object entries⟩ => JsonSyntax.nodes? room entries
    | _ => none
  items?
    | ⟨room + 1, .array items⟩ => some (items.map fun item => ⟨room, item⟩)
    | _ => none
  whole? node := node.tree.caseDocument?.filter fun j => j.nesting ≤ node.room

namespace DocumentView

variable {δ α : Type}

/-! ## §2 Fields -/

/-- The entries that count, by the names of their fields, if no field is given twice.  The field
that a key names is given by `field`. -/
def knownEntries? (field : String → String) (names : List String) :
    List (String × δ) → Option (List (String × δ))
  | [] => some []
  | (key, value) :: rest => do
    let found ← knownEntries? field names rest
    if field key ∈ names then
      -- The rest is read first: a field given twice is a fault wherever it stands.
      if found.any (·.1 == field key) then none else some ((field key, value) :: found)
    else some found

variable [DocumentView δ]

/-- What was found for each field of a record. -/
def fields? (field : String → String) (names : List String) (d : δ) : Option (List (Option δ)) :=
  match entries? d with
  | some entries =>
    (knownEntries? field names entries).map fun found => names.map fun name => found.lookup name
  | none =>
    (items? d).bind fun items =>
      -- The fields that an array leaves out at its end are missing.
      if items.length ≤ names.length then
        some (items.map some ++ List.replicate (names.length - items.length) none)
      else none

omit [DocumentView δ] in
/-- A field that has to be there. -/
def required (read : δ → Option α) : Option δ → Option α
  | none => none
  | some d => read d

omit [DocumentView δ] in
/-- A field with a value to take if it is missing. -/
def withDefault (read : δ → Option α) (default : α) : Option δ → Option α
  | none => some default
  | some d => read d

/-- A document without records. -/
def plain (read : Json → Option α) (d : δ) : Option α := (whole? d).bind read

/-- A document that is null or something to read. -/
def nullable (read : δ → Option α) (d : δ) : Option (Option α) :=
  match whole? d with
  | some .null => some none
  | _ => (read d).map some

/-- A field that may be missing or null. -/
def optional (read : δ → Option α) : Option δ → Option (Option α) :=
  withDefault (nullable read) none

/-- A list of documents to read. -/
def list? (read : δ → Option α) (d : δ) : Option (List α) :=
  (items? d).bind fun items => items.mapM read

end DocumentView

/-! ## §3 Values -/

namespace Json

def bool? : Json → Option Bool
  | .bool b => some b
  | _ => none

/-- A natural number that fits a word. -/
def natural? : Json → Option Nat
  | .number (.natural n) => some n.toNat
  | _ => none

def word16? (j : Json) : Option UInt16 := j.natural?.bind Word.uint16?

def word32? (j : Json) : Option UInt32 := j.natural?.bind Word.uint32?

def word64? (j : Json) : Option UInt64 := j.natural?.bind Word.uint64?

/-- The name of a case without contents: a string, or an object with the name as only key and
null. -/
def caseName? : Json → Option String
  | .string name => some name
  | .object [(name, .null)] => some name
  | _ => none

end Json

end TableMapper
