import TableMapper.Migration.Change
import TableMapper.Migration.LiveTable

/-!
# From a live table to its model

What has to change so that a live table agrees with its model.  A missing table, or one without
columns, is made; otherwise columns are added, changed and dropped, and indexes are dropped and
added.  Only the id column and the primary key's index are never dropped.

Types are compared in a normal form (`normalizeType`), since servers write the type of a column they
have made in more than one way.
-/

namespace TableMapper

/-! ## §1 Comparing columns -/

namespace Reconcile

/-- The integer types whose display width does not count. -/
def integerTypes : List (List Char) :=
  ["tinyint".toList, "smallint".toList, "mediumint".toList, "bigint".toList, "integer".toList,
    "int".toList]

/-- The rest of a type that begins with one of the names and an opening parenthesis, with that
name. -/
def integerArguments? (names : List (List Char)) (type : List Char) :
    Option (List Char × List Char) :=
  names.findSome? fun name => (Text.after? (name ++ ['(']) type).map fun rest => (name, rest)

/-- The type without the display width of an integer. -/
def withoutWidth (type : List Char) : List Char :=
  match integerArguments? integerTypes type with
  | none => type
  | some (name, rest) =>
    let width := rest.takeWhile (· != ')')
    match rest.dropWhile (· != ')') with
    -- The parenthesis is never closed.
    | [] => type
    | _ :: after => if width.all Numeral.isDigit then name ++ after else type

/-- The normal form of a type: in lower case, quotes inside texts doubled, and integers without
display width. -/
def normalizeType (type : String) : List Char :=
  withoutWidth (Text.replacePair '\\' '\'' ['\'', '\''] (Text.lower (Text.trim type.toList)))

/-- Whether a live column takes NULL otherwise than its property says. -/
def nullabilityDiffers (live : Bool) (declared : Option Bool) : Bool :=
  match live, declared with
  | true, some false => true
  | false, some true => true
  -- A property that does not say is made to take NULL, but a column that takes it may stay.
  | false, none => true
  | _, _ => false

/-- Whether a live column differs from its property. -/
def columnDiffers (p : Property) (field : LiveField) : Bool :=
  nullabilityDiffers field.nullable p.nullable ||
    normalizeType field.columnType != normalizeType (Sql.ColumnType.ofProperty p).text

/-- The change that a property needs, if any. -/
def columnClauses (live : LiveTable) (p : Property) : List Sql.AlterClause :=
  match live.field? p.name with
  | none => [.addColumn p.name (.ofProperty p)]
  | some field =>
    if columnDiffers p field then [.changeColumn p.name (.ofProperty p)] else []

/-- Whether an index has the name of the primary key's index or column, which are left alone. -/
def isKeyIndex (name : String) : Bool := name == primaryIndex || name == idColumn

/-- Whether a live index is the first declared one of its name, column by column. -/
def isDeclared (declared : List TableIndex) (live : String × List String) : Bool :=
  (declared.find? (·.name == live.1)).any (·.columns == live.2)

end Reconcile

namespace Model

/-! ## §2 What the model declares -/

def idKind (m : Model) : Sql.IdColumn :=
  if m.idMode.isUuid then .uuid else if m.hasStringId then .text else .serial

/-- The indexes of a model: those of single properties first, then those over several columns. -/
def declaredIndexes (m : Model) : List TableIndex :=
  ((m.columnProperties.filter Property.wantsIndex).map fun p =>
    ⟨p.name, [p.name], p.index.bind (·.kind), p.index.bind (·.method)⟩) ++ m.indexes

def createTable (m : Model) : Sql.CreateTable where
  table := m.tableName
  idName := idColumn
  id := m.idKind
  columns := m.columnProperties.map fun p => (p.name, Sql.ColumnDefinition.ofProperty p)
  indexes := m.declaredIndexes
  engine := m.settings.engine

/-! ## §3 Changes -/

/-- The change of the id column, if its type differs. -/
def idClauses (m : Model) (live : LiveTable) : List Sql.AlterClause :=
  match live.field? idColumn with
  | none => []
  | some field =>
    if Reconcile.normalizeType field.columnType != Reconcile.normalizeType m.idKind.type then
      [.changeId idColumn m.idKind]
    else []

/-- The columns that the model does not have. -/
def droppedColumns (m : Model) (live : LiveTable) : List Sql.AlterClause :=
  (live.fields.filter fun f => !m.knows f.name).map fun f => .dropColumn f.name

/-- The indexes to drop and to add. -/
def indexClauses (m : Model) (live : LiveTable) : List Sql.AlterClause :=
  let declared := m.declaredIndexes
  -- The primary key's index is neither compared nor dropped.
  let others := live.indexColumns.filter fun index => !Reconcile.isKeyIndex index.1
  let kept := (others.filter (Reconcile.isDeclared declared)).map (·.1)
  -- An index that differs from the declared one of its name is dropped and added again.
  ((others.filter fun index => !Reconcile.isDeclared declared index).map
      fun index => .dropIndex index.1) ++
    (declared.filter fun index => !kept.contains index.name).map .addIndex

/-- The changes that make a live table agree with its model, in the order in which they are carried
out. -/
def alterClauses (m : Model) (live : LiveTable) : List Sql.AlterClause :=
  m.idClauses live ++ m.columnProperties.flatMap (Reconcile.columnClauses live) ++
    m.droppedColumns live ++ m.indexClauses live

/-- What makes a live table, if there is one, agree with its model. -/
def reconcile (m : Model) (live : Option LiveTable) : Except Error TableChange :=
  match m.validate with
  | .error e => .error e
  | .ok () =>
    match live with
    | none => .ok (.create m.createTable)
    | some live =>
      match live.validate with
      | .error e => .error e
      | .ok () =>
        -- A table without columns is made anew.
        if live.isEmpty then .ok (.create m.createTable)
        else .ok (.alter m.tableName (m.alterClauses live))

/-- The plan that makes a live table, if there is one, agree with its model. -/
def plan (m : Model) (live : Option LiveTable) : Except Error MigrationPlan :=
  (m.reconcile live).map TableChange.plan

end Model

end TableMapper
