import TableMapper.Proofs.Mapper.Agreement
import TableMapper.Proofs.Migration.Convergence

/-!
# What is known of tables that are said to be up to date

An empty plan says that the table has all columns of its model.  It does not say that it has the id
column, which no plan adds to a table that is there.

- `Model.HasColumns` and `Model.HasKey` are what rows need: the columns of the properties, and that
  of the id;
- `Model.hasColumns_of_empty_plan` and `UpToDate.hasKey_iff` say how much of that an empty plan
  brings;
- `Model.Verified` is the same of a table as its description was read, and `verified_of_dialogue`
  follows the question whether all tables are up to date from model to model;
- `isActual_hasColumns` is the law for every mapper that calls lead to, before every gateway.
-/

namespace TableMapper

open Reconcile

namespace Model

variable {m : Model} {live : LiveTable}

/-! ## §1 Empty plans -/

/-- Each property has a column of its type, which takes NULL if the property may be missing. -/
def HasColumns (m : Model) (live : LiveTable) : Prop :=
  ∀ p ∈ m.columnProperties, ∃ field, live.field? p.name = some field ∧
    normalizeType field.columnType = normalizeType (Sql.ColumnType.ofProperty p).text ∧
    field.nullable = !p.isNotNull

/-- There is an id column, of the type that the ids of the model have. -/
def HasKey (m : Model) (live : LiveTable) : Prop :=
  ∃ field, live.field? idColumn = some field ∧
    normalizeType field.columnType = normalizeType m.idKind.type

/-- A table that agrees with the model has the columns of its properties. -/
theorem UpToDate.hasColumns (upToDate : m.UpToDate live) : m.HasColumns live := by
  intro p column
  obtain ⟨field, found, same⟩ := upToDate.column p column
  obtain ⟨nullable, type⟩ := columnDiffers_eq_false_iff.1 same
  exact ⟨field, found, type, nullable⟩

/-- An id column has the right type, but there need not be one. -/
theorem UpToDate.hasKey_iff (upToDate : m.UpToDate live) :
    m.HasKey live ↔ live.field? idColumn ≠ none := by
  rw [Option.ne_none_iff_exists']
  constructor
  · intro ⟨field, found, _⟩
    exact ⟨field, found⟩
  · intro ⟨field, found⟩
    exact ⟨field, found, upToDate.idType field found⟩

/-- A plan without statements is one for a table that is there and agrees with the model. -/
theorem upToDate_of_empty_plan {live : Option LiveTable} {plan : MigrationPlan}
    (planned : m.plan live = .ok plan) (empty : plan.statements = []) :
    ∃ table, live = some table ∧ table.isEmpty = false ∧ m.UpToDate table := by
  rcases plan_inv planned with ⟨rfl, -⟩ | ⟨table, clauses, rfl, some, -⟩
  · -- A table that is made has a statement.
    cases empty
  · have nonempty : table.isEmpty = false := by simpa [LiveTable.isEmpty] using some
    obtain ⟨-, -, upToDate⟩ := (exists_empty_plan_iff nonempty).1 ⟨plan, planned, empty⟩
    exact ⟨table, rfl, nonempty, upToDate⟩

/-- A table of which the description was read in some turns, and whose plan was empty. -/
structure Verified (m : Model) (turns : List Turn) (live : LiveTable) : Prop where
  described : ∃ fields indexes, turns = inspectionTurns m.tableName fields indexes ∧
    Inspection fields indexes (.ok (some live))
  nonempty : live.isEmpty = false
  columns : m.HasColumns live
  key : m.HasKey live ↔ live.field? idColumn ≠ none

end Model

namespace Mapper

variable {mapper : Mapper} {model : Model}

/-! ## §2 Verdicts -/

/-- An empty plan verifies the table that was described in these turns. -/
theorem verified_of_planFor {turns : List Turn} {plan : MigrationPlan}
    (h : Dialogue (planFor model) turns (.ok plan)) (empty : plan.statements = []) :
    ∃ live, model.Verified turns live := by
  obtain ⟨answer, planned, asked⟩ := h.map_inv
  obtain ⟨fields, indexes, turns_eq, inspection⟩ := inspection_of_dialogue asked
  cases answer with
  | error e => cases planned
  | ok live =>
    have planned : model.plan live = .ok plan := by
      simp only [planOf] at planned
      split at planned
      case h_1 => cases planned
      case h_2 _ made => rw [made, Except.ok.inj planned]
    obtain ⟨table, rfl, nonempty, upToDate⟩ := Model.upToDate_of_empty_plan planned empty
    exact ⟨table, ⟨fields, indexes, turns_eq, inspection⟩, nonempty, upToDate.hasColumns,
      upToDate.hasKey_iff⟩

/-- The answer is yes only after the table of each model was verified, one after another. -/
theorem verified_of_dialogue {models : List Model}
    (found : ∀ m ∈ models, mapper.model m.name = .ok m) {turns : List Turn}
    (h : Dialogue (mapper.areActual models) turns (.ok true)) :
    ∃ parts : List (List Turn × LiveTable), turns = parts.flatMap Prod.fst ∧
      List.Forall₂ (fun m part => m.Verified part.1 part.2) models parts := by
  induction models generalizing turns with
  | nil =>
    obtain ⟨rfl, -⟩ := Dialogue.of_done h
    exact ⟨[], rfl, .nil⟩
  | cons model models ih =>
    obtain ⟨registered, others⟩ := List.forall_mem_cons.1 found
    obtain ⟨first, plan, rest, rfl, asked, later⟩ := Dialogue.bind_inv h
    cases plan with
    | error e => cases (Dialogue.of_done later).2
    | ok plan =>
      simp only [checkMigration, registered] at asked
      simp only at later
      split at later
      case isTrue => cases (Dialogue.of_done later).2
      case isFalse upToDate =>
        -- The answer is yes in the end, so that this plan had nothing to do.
        have empty : plan.statements = [] := by simpa [MigrationPlan.needsChanges] using upToDate
        obtain ⟨live, verified⟩ := verified_of_planFor asked empty
        obtain ⟨parts, rfl, each⟩ := ih others later
        exact ⟨(first, live) :: parts, rfl, .cons verified each⟩

/-- **A verdict of up to date says that all columns are there, and an id column that is there has
the right type.** So it is for every plan without statements, and for every registered model when
all tables are said to be up to date, whatever the gateway answered. -/
theorem isActual_hasColumns {m : Model} {live : LiveTable} {plan : MigrationPlan}
    (nonempty : live.isEmpty = false)
    (planned : m.plan (some live) = .ok plan) (empty : plan.statements = []) :
    m.HasColumns live ∧ (m.HasKey live ↔ live.field? idColumn ≠ none) ∧
    ∀ mapper : Mapper, mapper.Reachable → ∀ {σ : Type} (g : Gateway σ) (state : σ),
      (mapper.isActual.run g state).result = .ok true →
        ∃ parts : List (List Turn × LiveTable),
          mapper.isActual.transcript g state = parts.flatMap Prod.fst ∧
          List.Forall₂ (fun m part => m.Verified part.1 part.2) mapper.models parts := by
  obtain ⟨-, -, upToDate⟩ := (Model.exists_empty_plan_iff nonempty).1 ⟨plan, planned, empty⟩
  refine ⟨upToDate.hasColumns, upToDate.hasKey_iff, ?_⟩
  intro mapper reachable σ g state actual
  have dialogue := mapper.isActual.dialogue_transcript g state
  rw [actual] at dialogue
  exact verified_of_dialogue reachable.found dialogue

/-- A model with a column beside the id. -/
def people : Model := ⟨"people", none, [.ofType "age" .number], [], ⟨none, .server⟩⟩

/-- The row that describes a column. -/
def fieldRow (f : LiveField) : Row :=
  [("Field", .string f.name), ("Type", .string f.columnType),
    ("Null", .string (if f.nullable then "YES" else "NO"))]

/-- Replies that describe a table by its columns; it has no index. -/
def described (columns : List LiveField) (sql : String) : Reply :=
  if sql = "SHOW FIELDS FROM `people`" then .ok (.rows (columns.map fieldRow)) else .ok (.rows [])

def peopleDefined : Mapper := (afterCalls .default [.define people] (answering (described [])) ()).2

/-- A table with both columns is rightly said to be up to date. -/
theorem isActual_hasColumns_people :
    people.HasKey ⟨[⟨"id", "int(11)", false⟩, ⟨"age", "int", true⟩], []⟩ ∧
      ∃ live, live.isEmpty = false ∧ people.HasColumns live := by
  have planned : people.plan (some ⟨[⟨"id", "int(11)", false⟩, ⟨"age", "int", true⟩], []⟩) =
      .ok ⟨"`people`", .alter, []⟩ := rfl
  obtain ⟨-, key, verdict⟩ := isActual_hasColumns rfl planned rfl
  have reachable : peopleDefined.Reachable := ⟨_, _, _, _, _, rfl⟩
  have models : peopleDefined.models = [people] := rfl
  obtain ⟨parts, -, each⟩ := verdict peopleDefined reachable
    (answering (described [⟨"id", "int(11)", false⟩, ⟨"age", "int", true⟩])) () rfl
  rw [models] at each
  cases each with
  | cons verified _ => exact ⟨key.2 (by decide), _, verified.nonempty, verified.columns⟩

/-- A table without an id column is said to be up to date. -/
theorem isActual_keyless :
    people.validate = .ok () ∧ LiveTable.validate ⟨[⟨"age", "int(11)", true⟩], []⟩ = .ok () ∧
      people.plan (some ⟨[⟨"age", "int(11)", true⟩], []⟩) = .ok ⟨"`people`", .alter, []⟩ ∧
      ¬ people.HasKey ⟨[⟨"age", "int(11)", true⟩], []⟩ ∧ peopleDefined.Reachable ∧
      (peopleDefined.isActual.run (answering (described [⟨"age", "int(11)", true⟩])) ()).result =
        .ok true := by
  refine ⟨rfl, rfl, rfl, ?_, ⟨_, _, _, _, _, rfl⟩, rfl⟩
  intro ⟨field, found, _⟩
  cases found

end Mapper

end TableMapper
