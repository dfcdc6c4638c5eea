import TableMapper.Mapper.Error
import TableMapper.Column.Decoding
import TableMapper.Gateway.Introspection
import TableMapper.Migration.Reconcile
import TableMapper.Model.Registry
import TableMapper.Query.Statement
import TableMapper.Settings.Basic

/-!
# The mapper

The operations on defined models.  Each looks up its model, compiles what it has to send and goes on
according to the reply; errors in its arguments are found before anything is sent.

- `find`, `create`, `updateOrCreate`, `count` and `update` read and write rows;
- `checkMigration`, `autoupdate` and `isActual` compare tables with models.
-/

namespace TableMapper

/-- The models that have been defined, under the settings of the connection. -/
structure Mapper where
  registry : Registry
  settings : Settings
  deriving DecidableEq, Repr

namespace Mapper

/-! ## §1 Models -/

def ofSettings (settings : Settings) : Mapper := ⟨Registry.empty, settings⟩

/-- The model with the default engine if it names none. -/
def withEngine (mapper : Mapper) (model : Model) : Model :=
  match model.settings.engine with
  | some _ => model
  | none => { model with settings := { model.settings with engine := mapper.settings.engine } }

/-- Defines a model that passes its checks, and gives it as it is registered. -/
def define (mapper : Mapper) (model : Model) : Except MapperError (Model × Mapper) :=
  match model.validate with
  | .error e => .error (.core e)
  | .ok () =>
    -- The engine is filled in once; a change of the settings does not reach models defined before.
    let model := mapper.withEngine model
    .ok (model, { mapper with registry := mapper.registry.insert model })

def model (mapper : Mapper) (name : String) : Except MapperError Model :=
  match mapper.registry.get? name with
  | none => .error (.unknownModel name)
  | some model => .ok model

/-- All models, in the order of their first definition. -/
def models (mapper : Mapper) : List Model := mapper.registry.models

/-! ## §2 Replies -/

def rowsOf : Reply → Except MapperError (List Row)
  | .error e => .error (.execution e)
  | .ok (.rows rows) => .ok rows
  | .ok (.affected _) => .error (.unexpectedOutput .rows)

/-- What a writing statement did, by its reply. -/
def infoOf : Reply → Except MapperError ExecInfo
  | .error e => .error (.execution e)
  | .ok (.affected info) => .ok info
  | .ok (.rows _) => .error (.unexpectedOutput .affectedCount)

/-- The number of a value that counts rows: an integer or a double that is not negative, or a text
that holds a natural number between blanks. -/
def countOf : Value → Option UInt64
  | .int i => if 0 ≤ i.toInt then some (UInt64.ofNat i.toInt.toNat) else none
  | .float x => if x.isNonNegative then some x.toUInt64 else none
  | .string s => Numeral.readWord64? (Text.trim s.toList)
  | _ => none

def countColumn : String := "cnt"

def countReply (reply : Reply) : Except MapperError UInt64 :=
  match rowsOf reply with
  | .error e => .error e
  | .ok rows =>
    -- Only the first row counts, and only its column of this name.
    match (rows.head?.bind (Row.get? countColumn)).bind countOf with
    | none => .error (.unexpectedOutput .countRow)
    | some n => .ok n

/-! ## §3 Rows -/

/-- Sends the statement that was compiled for a model, and goes on with the reply; an unknown model
or an error of the compilation ends the operation before. -/
def perform {α : Type} (mapper : Mapper) (name : String) (compile : Model → Except Error String)
    (next : Model → Reply → Except MapperError α) : Exchange (Except MapperError α) :=
  match mapper.model name with
  | .error e => .done (.error e)
  | .ok model =>
    match compile model with
    | .error e => .done (.error (.core e))
    | .ok sql => .send sql fun reply => .done (next model reply)

def find (mapper : Mapper) (name : String) (filter : Filter) :
    Exchange (Except MapperError (List Row)) :=
  mapper.perform name (fun model => (model.select filter).map Sql.Select.text)
    fun model reply =>
      match rowsOf reply with
      | .error e => .error e
      | .ok rows =>
        -- The values of columns that the filter asks for are given as they come.
        .ok (if filter.isProjected then rows else rows.map model.decodeRow)

/-- The data of a new row, with the id that is made for it if the data has none that counts as
true. -/
def dataWithId (makeId : IdMode → Option String) (model : Model) (data : Row) : Row :=
  if (data.get? idColumn).any Value.isTruthy then data
  else
    match makeId model.idMode with
    -- The server counts, and is told whatever id the data has.
    | none => data
    -- The id that is made comes first, and the data's is left out.
    | some id => (idColumn, .string id) :: data.filter (·.1 != idColumn)

/-- Makes a row and gives its id: the one that the server counted, else the one in the data. -/
def create (mapper : Mapper) (makeId : IdMode → Option String) (name : String) (data : Row) :
    Exchange (Except MapperError Value) :=
  mapper.perform name
    (fun model => (model.insert (dataWithId makeId model data)).map Sql.Insert.text)
    fun model reply =>
      match infoOf reply with
      | .error e => .error e
      | .ok info =>
        match info.insertId with
        | some id => .ok (.ofUInt64 id)
        | none => .ok (.ofOption ((dataWithId makeId model data).get? idColumn))

/-- The data with its first id set, or an id at the end if it has none. -/
def setId (id : Value) : Row → Row
  | [] => [(idColumn, id)]
  | (key, value) :: rest =>
    if key = idColumn then (key, id) :: rest else (key, value) :: setId id rest

/-- Makes a row or changes the one with its id, and gives the data with the id that the server
reported. -/
def updateOrCreate (mapper : Mapper) (name : String) (data : Row) :
    Exchange (Except MapperError Row) :=
  mapper.perform name (fun model => (model.upsert data).map Sql.Upsert.text)
    fun _ reply =>
      match infoOf reply with
      | .error e => .error e
      | .ok info =>
        match info.insertId with
        | some id => .ok (setId (.ofUInt64 id) data)
        | none => .ok data

/-- Counts the rows of a condition, or all rows. -/
def count (mapper : Mapper) (name : String) (condition : Option ConditionTree) :
    Exchange (Except MapperError UInt64) :=
  mapper.perform name (fun model => (model.count condition).map Sql.Count.text)
    fun _ reply => countReply reply

/-! ## §4 Batches of updates -/

/-- One item of a batch: its statement is sent if it was compiled. -/
def updateItem (compiled : Except Error Sql.Update) : Exchange (Except MapperError ExecInfo) :=
  match compiled with
  | .error e => .done (.error (.core e))
  | .ok statement => .send statement.text fun reply => .done (infoOf reply)

def updateItems (model : Model) (specs : List UpdateSpec) :
    List (Exchange (Except MapperError ExecInfo)) :=
  (model.updates specs).map updateItem

def gather (outcomes : List (Except MapperError ExecInfo)) :
    Except BatchFailure (List ExecInfo) :=
  match outcomes.mapM BatchFailure.resultOf? with
  | some results => .ok results
  | none => .error ⟨outcomes⟩

/-- Carries out a batch of updates, of which no item depends on another. -/
def update (mapper : Mapper) (name : String) (specs : List UpdateSpec) :
    Exchange (Except BatchFailure (List ExecInfo)) :=
  if specs.isEmpty then .done (.ok [])
  else
    match mapper.model name with
    -- Without a model every item fails, and nothing is sent.
    | .error e => .done (.error ⟨specs.map fun _ => .error e⟩)
    | .ok model => (Exchange.all (updateItems model specs)).map gather

/-! ## §5 Migration -/

/-- The plan for a model, by the description of its table. -/
def planOf (model : Model) (live : Except GatewayError (Option LiveTable)) :
    Except MapperError MigrationPlan :=
  match live with
  | .error e => .error (.execution e)
  | .ok live =>
    match model.plan live with
    | .error e => .error (.core e)
    | .ok plan => .ok plan

/-- Asks for a model's table and gives the plan that brings it up to date. -/
def planFor (model : Model) : Exchange (Except MapperError MigrationPlan) :=
  (Introspection.table model.tableName).map (planOf model)

/-- The plan that brings the table of a model up to date. -/
def checkMigration (mapper : Mapper) (name : String) :
    Exchange (Except MapperError MigrationPlan) :=
  match mapper.model name with
  | .error e => .done (.error e)
  | .ok model => planFor model

/-- Brings the table of a model up to date and gives the plan, if there was anything to do. -/
def migrate (model : Model) : Exchange (Except MapperError (Option MigrationPlan)) :=
  (planFor model).bind fun plan =>
    match plan with
    | .error e => .done (.error e)
    | .ok plan =>
      match plan.sql? with
      | none => .done (.ok none)
      | some sql => .send sql fun reply =>
          match reply with
          | .error e => .done (.error (.execution e))
          | .ok _ => .done (.ok (some plan))

/-- The plans carried out, or the first error. -/
def applied : List (Except MapperError (Option MigrationPlan)) →
    Except MapperError (List MigrationPlan)
  | [] => .ok []
  | .error e :: _ => .error e
  | .ok plan :: rest =>
    match applied rest with
    | .error e => .error e
    | .ok plans => .ok (plan.toList ++ plans)

/-- Brings all tables up to date.  Every model is tried; the first error is reported after that. -/
def autoupdate (mapper : Mapper) : Exchange (Except MapperError (List MigrationPlan)) :=
  (Exchange.all (mapper.models.map migrate)).map applied

/-- Whether the tables of models are up to date; the first one that is not ends the search. -/
def areActual (mapper : Mapper) : List Model → Exchange (Except MapperError Bool)
  | [] => .done (.ok true)
  | model :: rest =>
    -- Each model is looked up by its name once more.
    (mapper.checkMigration model.name).bind fun plan =>
      match plan with
      | .error e => .done (.error e)
      | .ok plan => if plan.needsChanges then .done (.ok false) else mapper.areActual rest

def isActual (mapper : Mapper) : Exchange (Except MapperError Bool) :=
  mapper.areActual mapper.models

end Mapper

end TableMapper
