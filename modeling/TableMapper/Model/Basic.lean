import TableMapper.Error
import TableMapper.Model.Property

/-!
# Models

A model declares a table: its properties, its indexes over several columns and its settings.  Every
table has a column `id` for its primary key, declared or not.

`Model.validate` checks that names are there and do not repeat and that indexes have columns; its
verdict is the first fault in the order of the declaration.
-/

namespace TableMapper

/-- The column of the primary key. -/
def idColumn : String := "id"

/-- The name of the primary key's index. -/
def primaryIndex : String := "PRIMARY"

/-- How ids come about. -/
inductive IdMode where
  /-- The server counts, or the caller names the id. -/
  | server
  /-- A time-based UUID is made for each row. -/
  | timeBased
  /-- A random UUID is made for each row. -/
  | random
  deriving DecidableEq, Repr

/-- Whether ids are UUIDs made here. -/
def IdMode.isUuid : IdMode → Bool
  | .server => false
  | .timeBased => true
  | .random => true

/-- An index over several columns. -/
structure TableIndex where
  name : String
  columns : List String
  kind : Option IndexKind
  method : Option IndexMethod
  deriving DecidableEq, Repr

/-- An index of no particular kind. -/
def TableIndex.ofColumns (name : String) (columns : List String) : TableIndex :=
  ⟨name, columns, none, none⟩

/-- The settings of a table. -/
structure ModelSettings where
  engine : Option String
  idMode : IdMode
  deriving DecidableEq, Repr

/-- A declared model. -/
structure Model where
  name : String
  /-- The table, if its name is not the model's. -/
  table : Option String
  /-- The properties, in the order of their columns. -/
  properties : List Property
  indexes : List TableIndex
  settings : ModelSettings
  deriving DecidableEq, Repr

namespace Model

/-! ## §1 Parts of a model -/

def ofName (name : String) : Model := ⟨name, none, [], [], ⟨none, .server⟩⟩

def tableName (m : Model) : String := m.table.getD m.name

def idMode (m : Model) : IdMode := m.settings.idMode

/-- The first property of a name. -/
def property? (m : Model) (name : String) : Option Property :=
  m.properties.find? (·.name == name)

def index? (m : Model) (name : String) : Option TableIndex :=
  m.indexes.find? (·.name == name)

/-- The declared `id` property. -/
def idProperty? (m : Model) : Option Property := m.property? idColumn

/-- Whether ids are texts that the caller names. -/
def hasStringId (m : Model) : Bool :=
  !m.idMode.isUuid && (m.idProperty?.any fun p => decide (p.type = .string))

/-- The properties other than `id`, in order. -/
def columnProperties (m : Model) : List Property :=
  m.properties.filter (·.name != idColumn)

/-- Whether a key of data belongs to the model: it is `id` or a declared property. -/
def knows (m : Model) (key : String) : Bool :=
  key == idColumn || (m.property? key).isSome

/-! ## §2 Validity -/

/-- Checks that properties have names, none of those `seen` and no two the same. -/
def checkProperties (model : String) (seen : List String) : List Property → Except Error Unit
  | [] => .ok ()
  | p :: rest =>
    if p.name = "" then .error (.invalidSchema (.emptyPropertyName model))
    else if p.name ∈ seen then .error (.invalidSchema (.repeatedProperty model p.name))
    else checkProperties model (p.name :: seen) rest

/-- Checks that indexes have columns, and names that are not reserved, not those `seen` and no two
the same. -/
def checkIndexes (model : String) (seen : List String) : List TableIndex → Except Error Unit
  | [] => .ok ()
  | index :: rest =>
    if index.columns.isEmpty then .error (.invalidSchema (.indexWithoutColumns index.name model))
    -- The server keeps this name for the primary key, in any case of its letters.
    else if Text.sameLetters index.name primaryIndex then
      .error (.invalidSchema (.reservedIndexName index.name))
    -- Names are compared among these indexes only, not with those of single properties.
    else if index.name ∈ seen then .error (.invalidSchema (.repeatedIndex model index.name))
    else checkIndexes model (index.name :: seen) rest

/-- Checks a model: it has a name, and its properties and indexes pass. -/
def validate (m : Model) : Except Error Unit :=
  if m.name = "" then .error (.invalidSchema .emptyModelName)
  else
    match checkProperties m.name [] m.properties with
    | .error e => .error e
    | .ok () => checkIndexes m.name [] m.indexes

end Model

end TableMapper
