import TableMapper.Json.Fields
import TableMapper.Json.Printer
import TableMapper.Model.Basic

/-!
# Models as documents

Models and properties are written as records with all their fields in order, null for what is not
given.  Reading is more generous: fields that have a default may be missing, and unknown ones do not
count.  `Model.ofJson?` reads a document in memory, `Model.read?` a text; both are
`Model.ofDocument?`.
-/

namespace TableMapper

open DocumentView

/-! ## §1 Cases -/

def IndexKind.name : IndexKind → String
  | .unique => "unique"
  | .fulltext => "fulltext"
  | .spatial => "spatial"

def IndexKind.ofJson? (j : Json) : Option IndexKind :=
  j.caseName?.bind fun name =>
    if name = "unique" then some .unique
    else if name = "fulltext" then some .fulltext
    else if name = "spatial" then some .spatial
    else none

def IndexMethod.name : IndexMethod → String
  | .btree => "btree"
  | .hash => "hash"

def IndexMethod.ofJson? (j : Json) : Option IndexMethod :=
  j.caseName?.bind fun name =>
    if name = "btree" then some .btree
    else if name = "hash" then some .hash
    else none

def IdMode.name : IdMode → String
  | .server => "none"
  | .timeBased => "v1"
  | .random => "v4"

def IdMode.ofJson? (j : Json) : Option IdMode :=
  j.caseName?.bind fun name =>
    if name = "none" then some .server
    else if name = "v1" then some .timeBased
    else if name = "v4" then some .random
    else none

namespace PropertyType

/-- The document of a type: its name, or an object with the name as key for a type with contents. -/
def toJson : PropertyType → Json
  | .string => .string "string"
  | .text => .string "text"
  | .number => .string "number"
  | .boolean => .string "boolean"
  | .date => .string "date"
  | .json => .string "json"
  | .enumeration values => .object [("enum", .array (values.map .string))]
  | .point => .string "point"
  | .array inner => .object [("array", inner.toJson)]

/-- The type without contents of a name. -/
def ofName? (name : String) : Option PropertyType :=
  if name = "string" then some .string
  else if name = "text" then some .text
  else if name = "number" then some .number
  else if name = "boolean" then some .boolean
  else if name = "date" then some .date
  else if name = "json" then some .json
  else if name = "point" then some .point
  else none

def ofJson? : Json → Option PropertyType
  | .string name => ofName? name
  -- A case without contents may also be an object, with null under its name.
  | .object [(name, contents)] =>
    if name = "array" then (ofJson? contents).map .array
    else if name = "enum" then (list? Json.asString? contents).map .enumeration
    else if contents.isNull then ofName? name
    else none
  | _ => none

end PropertyType

/-! ## §2 Properties -/

variable {δ : Type} [DocumentView δ]

def Json.ofWord32? (n : Option UInt32) : Json :=
  match n with
  | none => .null
  | some n => .ofNat n.toNat

/-- The entries by which an index says its kind and method. -/
def kindAndMethod (kind : Option IndexKind) (method : Option IndexMethod) :
    List (String × Json) :=
  [("kind", .ofOption (kind.map IndexKind.name)), ("type", .ofOption (method.map IndexMethod.name))]

namespace PropertyIndex

def toJson (index : PropertyIndex) : Json := .object (kindAndMethod index.kind index.method)

def fieldNames : List String := ["kind", "type"]

def ofDocument? (d : δ) : Option PropertyIndex := do
  match ← fields? id fieldNames d with
  | [kind, method] =>
    let kind ← optional (plain IndexKind.ofJson?) kind
    let method ← optional (plain IndexMethod.ofJson?) method
    some ⟨kind, method⟩
  | _ => none

end PropertyIndex

namespace Property

def toJson (p : Property) : Json :=
  .object [
    ("name", .string p.name),
    ("type", p.type.toJson),
    ("nullable", p.nullable.elim .null .bool),
    ("data_type", .ofOption p.dataType),
    ("limit", .ofWord32? p.limit),
    ("length", .ofWord32? p.length),
    ("display", .ofWord32? p.display),
    ("precision", .ofWord32? p.precision),
    ("scale", .ofWord32? p.scale),
    ("unsigned", .bool p.unsigned),
    ("charset", .ofOption p.charset),
    ("collation", .ofOption p.collation),
    ("index", p.index.elim .null PropertyIndex.toJson)]

/-- The names of a property's fields, in order. -/
def fieldNames : List String :=
  ["name", "type", "nullable", "data_type", "limit", "length", "display", "precision", "scale",
    "unsigned", "charset", "collation", "index"]

def ofDocument? (d : δ) : Option Property := do
  match ← fields? id fieldNames d with
  | [name, type, nullable, dataType, limit, length, display, precision, scale, unsigned, charset,
      collation, index] =>
    let name ← required (plain Json.asString?) name
    let type ← required (plain PropertyType.ofJson?) type
    let nullable ← optional (plain Json.bool?) nullable
    let dataType ← optional (plain Json.asString?) dataType
    let limit ← optional (plain Json.word32?) limit
    let length ← optional (plain Json.word32?) length
    let display ← optional (plain Json.word32?) display
    let precision ← optional (plain Json.word32?) precision
    let scale ← optional (plain Json.word32?) scale
    let unsigned ← withDefault (plain Json.bool?) false unsigned
    let charset ← optional (plain Json.asString?) charset
    let collation ← optional (plain Json.asString?) collation
    let index ← optional PropertyIndex.ofDocument? index
    some ⟨name, type, nullable, dataType, limit, length, display, precision, scale, unsigned,
      charset, collation, index⟩
  | _ => none

def text (p : Property) : String := p.toJson.text

def ofJson? (j : Json) : Option Property := ofDocument? j

/-- The property of a text. -/
def read? (s : String) : Option Property :=
  (JsonSyntax.read? s).bind fun tree => ofDocument? (⟨maxDepth, tree⟩ : JsonSyntax.Node)

end Property

/-! ## §3 Models -/

namespace TableIndex

def toJson (index : TableIndex) : Json :=
  .object ([("name", .string index.name), ("columns", .array (index.columns.map .string))] ++
    kindAndMethod index.kind index.method)

def fieldNames : List String := ["name", "columns", "kind", "type"]

def ofDocument? (d : δ) : Option TableIndex := do
  match ← fields? id fieldNames d with
  | [name, columns, kind, method] =>
    let name ← required (plain Json.asString?) name
    let columns ← required (list? (plain Json.asString?)) columns
    let kind ← optional (plain IndexKind.ofJson?) kind
    let method ← optional (plain IndexMethod.ofJson?) method
    some ⟨name, columns, kind, method⟩
  | _ => none

end TableIndex

namespace ModelSettings

def toJson (settings : ModelSettings) : Json :=
  .object [("engine", .ofOption settings.engine), ("uuid", .string settings.idMode.name)]

def fieldNames : List String := ["engine", "uuid"]

def ofDocument? (d : δ) : Option ModelSettings := do
  match ← fields? id fieldNames d with
  | [engine, idMode] =>
    let engine ← optional (plain Json.asString?) engine
    let idMode ← withDefault (plain IdMode.ofJson?) .server idMode
    some ⟨engine, idMode⟩
  | _ => none

end ModelSettings

namespace Model

def toJson (m : Model) : Json :=
  .object [
    ("name", .string m.name),
    ("table", .ofOption m.table),
    ("properties", .array (m.properties.map Property.toJson)),
    ("indexes", .array (m.indexes.map TableIndex.toJson)),
    ("settings", m.settings.toJson)]

def fieldNames : List String := ["name", "table", "properties", "indexes", "settings"]

def ofDocument? (d : δ) : Option Model := do
  match ← fields? id fieldNames d with
  | [name, table, properties, indexes, settings] =>
    let name ← required (plain Json.asString?) name
    let table ← optional (plain Json.asString?) table
    let properties ← withDefault (list? Property.ofDocument?) [] properties
    let indexes ← withDefault (list? TableIndex.ofDocument?) [] indexes
    let settings ← withDefault ModelSettings.ofDocument? ⟨none, .server⟩ settings
    some ⟨name, table, properties, indexes, settings⟩
  | _ => none

def text (m : Model) : String := m.toJson.text

def ofJson? (j : Json) : Option Model := ofDocument? j

/-- The model of a text. -/
def read? (s : String) : Option Model :=
  (JsonSyntax.read? s).bind fun tree => ofDocument? (⟨maxDepth, tree⟩ : JsonSyntax.Node)

end Model

end TableMapper
