import TableMapper.Sql.ColumnType
import TableMapper.Sql.Predicate

/-!
# Making and changing tables

The statement that makes a table and the clauses that change one, as data with one text each.
-/

namespace TableMapper.Sql

/-! ## §1 Ids and indexes -/

/-- The column of the primary key. -/
inductive IdColumn where
  /-- A UUID. -/
  | uuid
  /-- A text that the caller names. -/
  | text
  /-- A number that the server counts. -/
  | serial
  deriving DecidableEq, Repr

def IdColumn.type : IdColumn → String
  | .uuid => "CHAR(36)"
  | .text => "VARCHAR(100)"
  | .serial => "INT(11)"

/-- The type of an id column, and that the server counts if it does. -/
def IdColumn.definition (id : IdColumn) : String :=
  match id with
  | .serial => id.type ++ " NOT NULL AUTO_INCREMENT"
  | _ => id.type ++ " NOT NULL"

/-- The definition of an index. -/
def indexChars (index : TableIndex) : List Char :=
  (match index.kind with
    | none => []
    | some kind => kind.keyword.toList ++ [' ']) ++
  "INDEX ".toList ++ identifierChars index.name.toList ++ " (".toList ++
  joined ", " (index.columns.map fun c => identifierChars c.toList) ++ [')'] ++
  (match index.method with
    | none => []
    | some method => " USING ".toList ++ method.keyword.toList)

/-! ## §2 New tables -/

/-- A new table. -/
structure CreateTable where
  table : String
  /-- The name of the primary key's column. -/
  idName : String
  id : IdColumn
  columns : List (String × ColumnDefinition)
  indexes : List TableIndex
  engine : Option String
  deriving DecidableEq, Repr

namespace CreateTable

/-- The definitions of a new table: the id, the columns and the indexes. -/
def definitions (t : CreateTable) : List (List Char) :=
  (identifierChars t.idName.toList ++ ' ' :: t.id.definition.toList ++ " PRIMARY KEY".toList) ::
    (t.columns.map fun c => identifierChars c.1.toList ++ ' ' :: c.2.chars) ++
    t.indexes.map indexChars

def chars (t : CreateTable) : List Char :=
  "CREATE TABLE ".toList ++ identifierChars t.table.toList ++ " (\n  ".toList ++
    joined ",\n  " t.definitions ++ "\n)".toList ++
    (match t.engine with
      | none => []
      -- The engine stands as the model gives it, without quotes.
      | some engine => " ENGINE ".toList ++ engine.toList)

def text (t : CreateTable) : String := String.ofList t.chars

end CreateTable

/-! ## §3 Changes -/

/-- A change of a table. -/
inductive AlterClause where
  | changeId (name : String) (id : IdColumn)
  | addColumn (name : String) (definition : ColumnDefinition)
  | changeColumn (name : String) (definition : ColumnDefinition)
  | dropColumn (name : String)
  | dropIndex (name : String)
  | addIndex (index : TableIndex)
  deriving DecidableEq, Repr

namespace AlterClause

def chars : AlterClause → List Char
  | .changeId name id =>
    "CHANGE COLUMN ".toList ++ identifierChars name.toList ++ ' ' :: identifierChars name.toList ++
      ' ' :: id.definition.toList
  | .addColumn name definition =>
    "ADD COLUMN ".toList ++ identifierChars name.toList ++ ' ' :: definition.chars
  | .changeColumn name definition =>
    -- The old name and the new one are the same.
    "CHANGE COLUMN ".toList ++ identifierChars name.toList ++ ' ' :: identifierChars name.toList ++
      ' ' :: definition.chars
  | .dropColumn name => "DROP COLUMN ".toList ++ identifierChars name.toList
  | .dropIndex name => "DROP INDEX ".toList ++ identifierChars name.toList
  | .addIndex index => "ADD ".toList ++ indexChars index

def text (c : AlterClause) : String := String.ofList c.chars

end AlterClause

end TableMapper.Sql
