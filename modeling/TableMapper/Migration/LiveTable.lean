import TableMapper.Error
import TableMapper.Number.Numeral
import TableMapper.Text.Blank
import TableMapper.Text.Search

/-!
# Live tables

A table as the server describes it: its columns, and for each column of each index one entry with
its position.  The entries may be listed in any order.

- `LiveTable.ofRows` reads the two descriptions;
- `LiveTable.indexColumns` puts the entries of each index together, by position.
-/

namespace TableMapper

/-- The most columns of an index. -/
def maxIndexColumns : Nat := 16

/-- A column of a live table. -/
structure LiveField where
  name : String
  /-- The type as the server writes it. -/
  columnType : String
  nullable : Bool
  deriving DecidableEq, Repr

/-- A column of an index of a live table, at a position from 1. -/
structure IndexEntry where
  index : String
  column : String
  position : Nat
  deriving DecidableEq, Repr

/-- A live table; one without columns counts as missing. -/
structure LiveTable where
  fields : List LiveField
  indexes : List IndexEntry
  deriving DecidableEq, Repr

/-! ## §1 Reading descriptions -/

namespace LiveTable

/-- The text of a description's column; integers are written out. -/
def textColumn (row : Row) (column : String) : Except Error String :=
  match row.get? column with
  | some (.string s) => .ok s
  | some (.int i) => .ok (intText i.toInt)
  | _ => .error (.invalidSchema (.textMissing column))

end LiveTable

/-- The column of a description's row. -/
def LiveField.ofRow (row : Row) : Except Error LiveField := do
  let name ← LiveTable.textColumn row "Field"
  let columnType ← LiveTable.textColumn row "Type"
  let nullable ← LiveTable.textColumn row "Null"
  .ok ⟨name, columnType, Text.sameLetters nullable "YES"⟩

namespace IndexEntry

/-- Whether the position is one that an index can have. -/
def isValid (e : IndexEntry) : Bool := decide (1 ≤ e.position ∧ e.position ≤ maxIndexColumns)

def validate (e : IndexEntry) : Except Error Unit :=
  if e.isValid then .ok ()
  else .error (.invalidSchema (.positionOutOfRange e.index e.column e.position maxIndexColumns))

/-- The position in a description's row: an integer or a text that fits 32 bits. -/
def position? (row : Row) : Option Nat :=
  match row.get? "Seq_in_index" with
  | some (.int i) => if 0 ≤ i then (Word.uint32? i.toInt.toNat).map UInt32.toNat else none
  | some (.string s) => (Numeral.readWord32? (Text.trim s.toList)).map UInt32.toNat
  | _ => none

/-- The entry of a description's row. -/
def ofRow (row : Row) : Except Error IndexEntry :=
  match position? row with
  | none => .error (.invalidSchema .positionMissing)
  | some position => do
    let index ← LiveTable.textColumn row "Key_name"
    let column ← LiveTable.textColumn row "Column_name"
    let entry : IndexEntry := ⟨index, column, position⟩
    entry.validate
    .ok entry

end IndexEntry

namespace LiveTable

/-- The table of the rows of its two descriptions. -/
def ofRows (fieldRows indexRows : List Row) : Except Error LiveTable := do
  let fields ← tryMap LiveField.ofRow fieldRows
  let indexes ← tryMap IndexEntry.ofRow indexRows
  .ok ⟨fields, indexes⟩

/-- Checks the entries one after another. -/
def validateEntries : List IndexEntry → Except Error Unit
  | [] => .ok ()
  | e :: rest =>
    match e.validate with
    | .error error => .error error
    | .ok () => validateEntries rest

def validate (t : LiveTable) : Except Error Unit := validateEntries t.indexes

def isEmpty (t : LiveTable) : Bool := t.fields.isEmpty

/-- The first column of a name. -/
def field? (t : LiveTable) (name : String) : Option LiveField :=
  t.fields.find? (·.name == name)

/-! ## §2 Indexes -/

/-- Puts a column at its position among columns that are ordered by position. -/
def placeColumn (position : Nat) (column : String) : List (Nat × String) → List (Nat × String)
  | [] => [(position, column)]
  | (p, c) :: rest =>
    if position < p then (position, column) :: (p, c) :: rest
    -- The last column of a position counts.
    else if position = p then (p, column) :: rest
    else (p, c) :: placeColumn position column rest

/-- Puts an entry into the group of its index; an index met for the first time comes last. -/
def placeEntry (e : IndexEntry) :
    List (String × List (Nat × String)) → List (String × List (Nat × String))
  | [] => [(e.index, [(e.position, e.column)])]
  | (name, columns) :: rest =>
    if name = e.index then (name, placeColumn e.position e.column columns) :: rest
    else (name, columns) :: placeEntry e rest

/-- The indexes in the order in which they are first listed, each with its columns by position. -/
def indexColumns (t : LiveTable) : List (String × List String) :=
  -- Entries at impossible positions do not count.
  let groups := (t.indexes.filter (·.isValid)).foldl (fun groups e => placeEntry e groups) []
  groups.map fun group => (group.1, group.2.map (·.2))

end LiveTable

end TableMapper
