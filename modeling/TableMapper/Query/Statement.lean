import TableMapper.Query.Filter
import TableMapper.Query.Predicate
import TableMapper.Sql.Statement

/-!
# The statements of a model

From filters and data to statements for a model's table.

- `Model.select` and `Model.count` query it;
- `Model.insert`, `Model.upsert` and `Model.update` write to it.  The first two leave out columns
  that the model does not know; an update takes them all.
-/

namespace TableMapper

/-! ## §1 Queries -/

namespace Filter

/-- A number that counts: present and not zero. -/
def effective (n : Option UInt64) : Option Nat :=
  (n.map UInt64.toNat).filter (0 < ·)

/-- The window of a filter.  Without an effective limit nothing is left out either. -/
def window (f : Filter) : Option Sql.Window :=
  (effective f.limit).map fun limit => ⟨limit, effective f.skip⟩

end Filter

namespace Model

/-- The query of a filter.  A tree that is there must not be empty. -/
def select (m : Model) (f : Filter) : Except Error Sql.Select :=
  let statement (predicate : Option (List Sql.Predicate)) : Sql.Select :=
    ⟨f.attributes.getD [], m.tableName, predicate, f.group, f.order, f.window⟩
  match f.condition with
  | none => .ok (statement none)
  | some tree =>
    if tree.isEmpty then .error (.invalidFilter .emptyWhere)
    else
      match m.predicates tree with
      | .error e => .error e
      | .ok predicates => .ok (statement (some predicates))

/-- The query for the number of rows of a tree; without conditions all rows count. -/
def count (m : Model) (tree : Option ConditionTree) : Except Error Sql.Count :=
  match tree with
  | none => .ok ⟨m.tableName, none⟩
  | some tree =>
    if tree.isEmpty then .ok ⟨m.tableName, none⟩
    else
      match m.predicates tree with
      | .error e => .error e
      | .ok predicates => .ok ⟨m.tableName, some predicates⟩

/-! ## §2 Data -/

def assignment (m : Model) (column : String × Value) : Except Error Sql.Assignment :=
  match m.literal column.1 column.2 with
  | .error e => .error e
  | .ok literal => .ok ⟨column.1, literal⟩

/-- The columns of data that belong to the model. -/
def knownColumns (m : Model) (data : Row) : Row :=
  data.filter fun column => m.knows column.1

/-- The assignments of data, of the columns that belong to the model. -/
def assignments (m : Model) (data : Row) : Except Error (List Sql.Assignment) :=
  tryMap m.assignment (m.knownColumns data)

/-- The statement that makes a new row. -/
def insert (m : Model) (data : Row) : Except Error Sql.Insert :=
  match m.assignments data with
  | .error e => .error e
  | .ok assignments => .ok ⟨m.tableName, assignments⟩

/-- The statement that makes a new row or changes the one with its id. -/
def upsert (m : Model) (data : Row) : Except Error Sql.Upsert :=
  match m.assignments data with
  | .error e => .error e
  | .ok assignments =>
    if assignments.isEmpty then .error (.invalidData (.nothingToUpsert m.tableName))
    else
      -- The id itself is never changed.
      .ok ⟨m.tableName, assignments, assignments.filter (·.column != idColumn), idColumn⟩

/-- The statement of an update, of which both parts must be there and not empty. -/
def update (m : Model) (spec : UpdateSpec) : Except Error Sql.Update :=
  match spec.condition.filter (!·.isEmpty), spec.assignments.filter (!·.isEmpty) with
  | some tree, some row =>
    -- All columns count here, declared or not, and they are encoded before the conditions.
    match tryMap m.assignment row with
    | .error e => .error e
    | .ok assignments =>
      match m.predicates tree with
      | .error e => .error e
      | .ok predicates => .ok ⟨m.tableName, assignments, predicates⟩
  | _, _ => .error .missingWhereOrUpdate

/-- The statements of a batch of updates, each with an error of its own. -/
def updates (m : Model) (specs : List UpdateSpec) : List (Except Error Sql.Update) :=
  specs.map m.update

end Model

end TableMapper
