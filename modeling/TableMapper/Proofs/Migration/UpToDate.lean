import TableMapper.Migration.Reconcile
import TableMapper.Proofs.Migration.Indexes
import TableMapper.Proofs.Model.Validity

/-!
# What plans are made of

Why a plan for a live table has a clause, and when it has none.

- `Model.Needs` gives the reason for each clause: what the table lacks, has differently or has too
  much;
- `Model.UpToDate` says what a table and a model agree on if there is no such reason.
-/

namespace TableMapper

/-! ## §1 Names of indexes -/

namespace Reconcile

/-- The indexes of the key are recognised by two names. -/
theorem isKeyIndex_eq_false_iff {n : String} :
    isKeyIndex n = false ↔ n ≠ primaryIndex ∧ n ≠ idColumn := by
  simp [isKeyIndex]

end Reconcile

open Reconcile

namespace Model

variable {m : Model} {live : LiveTable}

/-! ## §2 The clauses of a plan -/

/-- The names of the live indexes that are left as they are. -/
def keptIndexes (m : Model) (live : LiveTable) : List String :=
  ((live.indexColumns.filter fun index => !isKeyIndex index.1).filter
    (isDeclared m.declaredIndexes)).map (·.1)

@[simp]
theorem mem_keptIndexes {n : String} :
    n ∈ m.keptIndexes live ↔ isKeyIndex n = false ∧
      ∃ columns, (n, columns) ∈ live.indexColumns ∧
        isDeclared m.declaredIndexes (n, columns) = true := by
  simp only [keptIndexes, List.mem_map, List.mem_filter, Bool.not_eq_true']
  constructor
  · rintro ⟨⟨name, columns⟩, ⟨⟨listed, other⟩, declared⟩, rfl⟩
    exact ⟨other, columns, listed, declared⟩
  · rintro ⟨other, columns, listed, declared⟩
    exact ⟨(n, columns), ⟨⟨listed, other⟩, declared⟩, rfl⟩

/-- The reasons for the clauses of a plan. -/
inductive Needs (m : Model) (live : LiveTable) : Sql.AlterClause → Prop where
  | changeId {field : LiveField} (found : live.field? idColumn = some field)
      (differs : normalizeType field.columnType ≠ normalizeType m.idKind.type) :
      Needs m live (.changeId idColumn m.idKind)
  | addColumn {p : Property} (column : p ∈ m.columnProperties)
      (missing : live.field? p.name = none) :
      Needs m live (.addColumn p.name (.ofProperty p))
  | changeColumn {p : Property} {field : LiveField} (column : p ∈ m.columnProperties)
      (found : live.field? p.name = some field) (differs : columnDiffers p field = true) :
      Needs m live (.changeColumn p.name (.ofProperty p))
  | dropColumn {field : LiveField} (listed : field ∈ live.fields)
      (unknown : m.knows field.name = false) :
      Needs m live (.dropColumn field.name)
  | dropIndex {n : String} {columns : List String} (listed : (n, columns) ∈ live.indexColumns)
      (free : isKeyIndex n = false) (other : isDeclared m.declaredIndexes (n, columns) = false) :
      Needs m live (.dropIndex n)
  | addIndex {index : TableIndex} (declared : index ∈ m.declaredIndexes)
      (missing : index.name ∉ m.keptIndexes live) : Needs m live (.addIndex index)

/-- The id column is changed if it is there and its type differs. -/
theorem mem_idClauses_iff {clause : Sql.AlterClause} :
    clause ∈ m.idClauses live ↔ clause = .changeId idColumn m.idKind ∧
      ∃ field, live.field? idColumn = some field ∧
        normalizeType field.columnType ≠ normalizeType m.idKind.type := by
  unfold idClauses
  cases found : live.field? idColumn with
  | none => simp
  | some field =>
    by_cases same : normalizeType field.columnType = normalizeType m.idKind.type <;> simp [same]

/-- The column of a property is added if it is missing, and changed if it differs. -/
theorem mem_columnClauses_iff {p : Property} {clause : Sql.AlterClause} :
    clause ∈ columnClauses live p ↔
      (live.field? p.name = none ∧ clause = .addColumn p.name (.ofProperty p)) ∨
        ∃ field, live.field? p.name = some field ∧ columnDiffers p field = true ∧
          clause = .changeColumn p.name (.ofProperty p) := by
  unfold columnClauses
  cases found : live.field? p.name with
  | none => simp
  | some field => cases differs : columnDiffers p field <;> simp [differs]

/-- **A plan has a clause exactly if there is a reason for it.** -/
theorem mem_alterClauses_iff {clause : Sql.AlterClause} :
    clause ∈ m.alterClauses live ↔ m.Needs live clause := by
  simp only [alterClauses, indexClauses, List.mem_append, List.mem_flatMap, mem_idClauses_iff,
    mem_columnClauses_iff, droppedColumns, List.mem_map, List.mem_filter, Bool.not_eq_true']
  -- The reasons are listed in the order in which the clauses are put together.
  constructor
  · rintro (((⟨rfl, field, found, differs⟩ | ⟨p, column,
      ⟨missing, rfl⟩ | ⟨field, found, differs, rfl⟩⟩) |
      ⟨field, ⟨listed, unknown⟩, rfl⟩) | ⟨⟨n, columns⟩, ⟨⟨listed, free⟩, other⟩, rfl⟩ |
      ⟨index, ⟨declared, missing⟩, rfl⟩)
    · exact .changeId found differs
    · exact .addColumn column missing
    · exact .changeColumn column found differs
    · exact .dropColumn listed unknown
    · exact .dropIndex listed free other
    · exact .addIndex declared (by simpa [keptIndexes] using missing)
  · rintro (⟨found, differs⟩ | ⟨column, missing⟩ | ⟨column, found, differs⟩ | ⟨listed, unknown⟩ |
      ⟨listed, free, other⟩ | ⟨declared, missing⟩)
    · exact .inl (.inl (.inl ⟨rfl, _, found, differs⟩))
    · exact .inl (.inl (.inr ⟨_, column, .inl ⟨missing, rfl⟩⟩))
    · exact .inl (.inl (.inr ⟨_, column, .inr ⟨_, found, differs, rfl⟩⟩))
    · exact .inl (.inr ⟨_, ⟨listed, unknown⟩, rfl⟩)
    · exact .inr (.inl ⟨_, ⟨⟨listed, free⟩, other⟩, rfl⟩)
    · exact .inr (.inr ⟨_, ⟨declared, by simpa [keptIndexes] using missing⟩, rfl⟩)

/-! ## §3 Plans without clauses -/

/-- What a table agrees with if its plan is empty. -/
structure UpToDate (m : Model) (live : LiveTable) : Prop where
  /-- The id column has the right type, if there is one. -/
  idType : ∀ field, live.field? idColumn = some field →
    normalizeType field.columnType = normalizeType m.idKind.type
  /-- Each property has its column. -/
  column : ∀ p ∈ m.columnProperties, ∃ field,
    live.field? p.name = some field ∧ columnDiffers p field = false
  /-- There are no other columns. -/
  known : ∀ field ∈ live.fields, m.knows field.name = true
  /-- Each index but that of the key is declared. -/
  declared : ∀ index ∈ live.indexColumns, isKeyIndex index.1 = false →
    isDeclared m.declaredIndexes index = true
  /-- Each declared index is there. -/
  present : ∀ index ∈ m.declaredIndexes, isKeyIndex index.name = false ∧
    ∃ columns, (index.name, columns) ∈ live.indexColumns ∧
      isDeclared m.declaredIndexes (index.name, columns) = true

/-- **A plan is empty exactly if the table agrees with the model.** -/
theorem alterClauses_eq_nil_iff : m.alterClauses live = [] ↔ m.UpToDate live := by
  rw [List.eq_nil_iff_forall_not_mem]
  simp only [mem_alterClauses_iff]
  -- Each fact of agreement is that one reason for a clause is missing.
  constructor
  · intro none
    refine ⟨fun field found => ?_, fun p column => ?_, fun field listed => ?_, ?_,
      fun index declared => ?_⟩
    · by_contra differs
      exact none _ (.changeId found differs)
    · cases found : live.field? p.name with
      | none => exact absurd (.addColumn column found) (none _)
      | some field =>
        refine ⟨field, rfl, Bool.eq_false_iff.2 fun differs => ?_⟩
        exact none _ (.changeColumn column found differs)
    · by_contra unknown
      exact none _ (.dropColumn listed (Bool.eq_false_iff.2 unknown))
    · rintro ⟨n, columns⟩ listed free
      by_contra other
      exact none _ (.dropIndex listed free (Bool.eq_false_iff.2 other))
    · by_contra missing
      exact none _ (.addIndex declared fun kept => missing (mem_keptIndexes.1 kept))
  · intro upToDate clause needs
    cases needs with
    | changeId found differs => exact differs (upToDate.idType _ found)
    | addColumn column missing =>
      obtain ⟨field, found, -⟩ := upToDate.column _ column
      cases missing.symm.trans found
    | changeColumn column found differs =>
      obtain ⟨field, found', same⟩ := upToDate.column _ column
      cases found.symm.trans found'
      cases differs.symm.trans same
    | dropColumn listed unknown => cases unknown.symm.trans (upToDate.known _ listed)
    | dropIndex listed free other => cases other.symm.trans (upToDate.declared _ listed free)
    | addIndex declared missing => exact missing (mem_keptIndexes.2 (upToDate.present _ declared))

/-- The plan for a table that is there is empty exactly if both are valid and the table agrees with
the model. -/
theorem exists_empty_plan_iff {live : LiveTable} (nonempty : live.isEmpty = false) :
    (∃ plan, m.plan (some live) = .ok plan ∧ plan.statements = []) ↔
      m.validate = .ok () ∧ live.validate = .ok () ∧ m.UpToDate live := by
  rw [← alterClauses_eq_nil_iff]
  unfold plan reconcile
  -- What fails its check has no plan.
  cases m.validate with
  | error e => simp [Except.map]
  | ok _ =>
    cases checked : live.validate with
    | error e => simp [checked, Except.map]
    | ok _ => simp [checked, nonempty, Except.map, TableChange.plan, MigrationPlan.alter]

end Model

end TableMapper
