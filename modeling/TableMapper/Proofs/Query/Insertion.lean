import TableMapper.Proofs.Column.Faults
import TableMapper.Proofs.Sql.ReadBack
import TableMapper.Query.Statement

/-!
# New rows say what their data says

The text of a statement for a new row is read back as the declared entries of its data, whatever
their keys and values hold, and the two kinds of such statements agree on them.

- `Model.declaredEntries` are the entries of data that count, and `Model.Encodes` pairs them with
  literals;
- `insert_upsert_readBack` says when there are statements, what they are read back as and what their
  errors are.
-/

namespace TableMapper

namespace Model

variable {m : Model} {data : Row}

/-! ## §1 Declared entries -/

/-- The entries of data under the id or under the name of a property, in order. -/
def declaredEntries (m : Model) (data : Row) : Row :=
  data.filter fun entry => decide (entry.1 = idColumn ∨ entry.1 ∈ m.properties.map Property.name)

/-- The entries that count are the columns the program keeps. -/
theorem declaredEntries_eq_knownColumns : m.declaredEntries data = m.knownColumns data := by
  apply List.filter_congr
  intro entry _
  rw [Bool.eq_iff_iff]
  simp [knows, property?, List.find?_isSome]

/-- Each entry has a literal, and the pairs are the keys with their literals. -/
def Encodes (m : Model) (entries : Row) (pairs : List (String × Sql.Literal)) : Prop :=
  List.Forall₂ (fun entry pair => pair.1 = entry.1 ∧ m.literal entry.1 entry.2 = .ok pair.2)
    entries pairs

/-- A value has one literal. -/
theorem Encodes.unique {entries : Row} {pairs others : List (String × Sql.Literal)}
    (h : m.Encodes entries pairs) (also : m.Encodes entries others) : pairs = others := by
  induction h generalizing others with
  | nil =>
    cases also
    rfl
  | cons first _ ih =>
    cases also with
    | cons other rest =>
      -- One entry has one literal.
      have literals := Except.ok.inj (first.2.symm.trans other.2)
      rw [ih rest, Prod.ext (first.1.trans other.1.symm) literals]

theorem Encodes.eq_nil_iff {entries : Row} {pairs : List (String × Sql.Literal)}
    (h : m.Encodes entries pairs) : pairs = [] ↔ entries = [] := by
  cases h <;> simp

theorem Encodes.cons_inv {key : String} {value : Value} {entries : Row}
    {pairs : List (String × Sql.Literal)} (h : m.Encodes ((key, value) :: entries) pairs) :
    ∃ literal rest, pairs = (key, literal) :: rest ∧ m.literal key value = .ok literal ∧
      m.Encodes entries rest := by
  cases h with
  | @cons _ pair _ rest here later =>
    obtain ⟨column, literal⟩ := pair
    cases (here.1 : column = key)
    exact ⟨literal, rest, rfl, here.2, later⟩

/-! ## §2 Assignments -/

theorem assignment_eq_ok_iff {entry : String × Value} {a : Sql.Assignment} :
    m.assignment entry = .ok a ↔
      a.column = entry.1 ∧ m.literal entry.1 entry.2 = .ok a.literal := by
  unfold assignment
  obtain ⟨column, literal⟩ := a
  cases m.literal entry.1 entry.2 with
  | error e => simp
  | ok found => simp [eq_comm]

theorem assignment_eq_error_iff {entry : String × Value} {e : Error} :
    m.assignment entry = .error e ↔ m.literal entry.1 entry.2 = .error e := by
  unfold assignment
  cases m.literal entry.1 entry.2 with
  | error e => simp
  | ok found => simp

/-- The assignments of entries are their keys with the literals of their values. -/
theorem tryMap_assignment_eq_ok_iff {entries : Row} {as : List Sql.Assignment} :
    tryMap m.assignment entries = .ok as ↔
      m.Encodes entries (as.map fun a => (a.column, a.literal)) := by
  rw [tryMap_eq_ok_iff_forall₂, Encodes, List.forall₂_map_right_iff]
  simp only [assignment_eq_ok_iff]

theorem exists_assignment_iff {entry : String × Value} :
    (∃ a, m.assignment entry = .ok a) ↔ ∃ l, m.literal entry.1 entry.2 = .ok l := by
  constructor
  · intro ⟨a, found⟩
    exact ⟨a.literal, (assignment_eq_ok_iff.1 found).2⟩
  · intro ⟨literal, found⟩
    exact ⟨⟨entry.1, literal⟩, assignment_eq_ok_iff.2 ⟨rfl, found⟩⟩

theorem exists_tryMap_assignment_iff {entries : Row} :
    (∃ as, tryMap m.assignment entries = .ok as) ↔
      ∀ entry ∈ entries, ∃ l, m.literal entry.1 entry.2 = .ok l := by
  simp only [exists_tryMap_eq_ok_iff, exists_assignment_iff]

/-- The assignments are the declared entries with their literals, in order. -/
theorem assignments_eq_ok_iff {as : List Sql.Assignment} :
    m.assignments data = .ok as ↔
      m.Encodes (m.declaredEntries data) (as.map fun a => (a.column, a.literal)) := by
  rw [declaredEntries_eq_knownColumns]
  exact tryMap_assignment_eq_ok_iff

/-- There are assignments exactly if every declared entry has a literal. -/
theorem exists_assignments_iff :
    (∃ as, m.assignments data = .ok as) ↔
      ∀ entry ∈ m.declaredEntries data, ∃ l, m.literal entry.1 entry.2 = .ok l := by
  rw [declaredEntries_eq_knownColumns]
  exact exists_tryMap_assignment_iff

theorem ofEncoding_of_assignments {e : Error} (h : m.assignments data = .error e) :
    e.OfEncoding := by
  obtain ⟨entry, -, failed⟩ := exists_mem_of_tryMap_eq_error h
  exact ofEncoding_of_literal (assignment_eq_error_iff.1 failed)

theorem assignments_of_empty (empty : m.declaredEntries data = []) :
    m.assignments data = .ok [] := by
  rw [assignments_eq_ok_iff, empty]
  exact .nil

/-! ## §3 Statements -/

/-- An insert is the assignments of its data in the model's table. -/
theorem insert_eq_ok_iff {i : Sql.Insert} :
    m.insert data = .ok i ↔ ∃ as, m.assignments data = .ok as ∧ i = ⟨m.tableName, as⟩ := by
  unfold insert
  cases m.assignments data with
  | error e => simp
  | ok as => simp [eq_comm]

theorem insert_eq_error_iff {e : Error} :
    m.insert data = .error e ↔ m.assignments data = .error e := by
  unfold insert
  cases m.assignments data with
  | error e => simp
  | ok as => simp

/-- An upsert needs an assignment, and never changes the id of an old row. -/
theorem upsert_eq_ok_iff {u : Sql.Upsert} :
    m.upsert data = .ok u ↔ ∃ as, m.assignments data = .ok as ∧ as ≠ [] ∧
      u = ⟨m.tableName, as, as.filter (·.column != idColumn), idColumn⟩ := by
  unfold upsert
  cases m.assignments data with
  | error e => simp
  | ok as =>
    -- An upsert without assignments is refused.
    cases as with
    | nil => simp
    | cons a as =>
      constructor
      · intro h
        cases h
        exact ⟨_, rfl, List.cons_ne_nil a as, rfl⟩
      · intro ⟨_, same, _, written⟩
        cases same
        exact congrArg Except.ok written.symm

/-- Without declared entries there is nothing to write; otherwise it is a value that fails. -/
theorem upsert_eq_error_iff {e : Error} :
    m.upsert data = .error e ↔ m.assignments data = .error e ∨
      (m.declaredEntries data = [] ∧ e = .invalidData (.nothingToUpsert m.tableName)) := by
  unfold upsert
  cases found : m.assignments data with
  | error failure =>
    -- A value that fails belongs to a declared entry.
    have some : m.declaredEntries data ≠ [] := by
      intro empty
      simp [assignments_of_empty empty] at found
    simp [some]
  | ok as =>
    have none : as = [] ↔ m.declaredEntries data = [] := by
      rw [← (assignments_eq_ok_iff.1 found).eq_nil_iff, List.map_eq_nil_iff]
    rw [← none]
    cases as with
    | nil => simp [eq_comm]
    | cons a as => simp

/-- Only declared entries count. -/
theorem assignments_congr {other : Row} (same : m.declaredEntries other = m.declaredEntries data) :
    m.assignments other = m.assignments data := by
  simp only [declaredEntries_eq_knownColumns] at same
  rw [assignments, assignments, same]

/-! ## §4 Readings -/

/-- What a statement for a new row says: its pairs in order, or that all values are the defaults. -/
def newRow (table : String) (pairs : List (String × Sql.Literal)) : Sql.InsertReading :=
  if pairs = [] then .defaults table else
    .settings table (pairs.map fun pair => (pair.1, .literal pair.2))

/-- What an old row is changed to: the pairs that are not the id's, or its id to itself if there are
none. -/
def rowChanges (pairs : List (String × Sql.Literal)) : List (String × Sql.Operand) :=
  let others := pairs.filter (·.1 != idColumn)
  if others = [] then [(idColumn, .column idColumn)]
  else others.map fun pair => (pair.1, .literal pair.2)

/-- An id that is there already stays. -/
theorem eq_column_of_mem_rowChanges {pairs : List (String × Sql.Literal)} {operand : Sql.Operand}
    (h : (idColumn, operand) ∈ rowChanges pairs) : operand = .column idColumn := by
  unfold rowChanges at h
  simp only at h
  split at h
  case isTrue => simpa using h
  case isFalse =>
    obtain ⟨pair, others, same⟩ := List.mem_map.1 h
    have notId : pair.1 ≠ idColumn := by simpa using (List.mem_filter.1 others).2
    exact absurd (congrArg Prod.fst same) notId

/-- The text of an insert is read back as the new row. -/
theorem readInsert?_of_insert {i : Sql.Insert} (h : m.insert data = .ok i) :
    ∃ pairs, m.Encodes (m.declaredEntries data) pairs ∧
      Sql.readInsert? i.text = some (newRow m.tableName pairs) := by
  obtain ⟨as, found, rfl⟩ := insert_eq_ok_iff.1 h
  refine ⟨_, assignments_eq_ok_iff.1 found, ?_⟩
  rw [Sql.readInsert?_insertText]
  simp only [newRow, List.map_eq_nil_iff, List.map_map]
  rfl

/-- The text of an upsert is read back as the new row and its changes. -/
theorem readInsert?_of_upsert {u : Sql.Upsert} (h : m.upsert data = .ok u) :
    ∃ pairs columns literals, m.Encodes (m.declaredEntries data) pairs ∧
      columns.length = literals.length ∧ columns.zip literals = pairs ∧
      Sql.readInsert? u.text = some (.upsert m.tableName columns literals (rowChanges pairs)) := by
  obtain ⟨as, found, nonempty, rfl⟩ := upsert_eq_ok_iff.1 h
  refine ⟨_, as.map Sql.Assignment.column, as.map Sql.Assignment.literal,
    assignments_eq_ok_iff.1 found, by simp, by simp [List.zip_map'], ?_⟩
  rw [Sql.readInsert?_upsertText _ nonempty]
  -- The pairs are filtered by their keys as the assignments are by their columns.
  simp only [Sql.Upsert.settings, rowChanges, List.filter_map, List.map_eq_nil_iff, List.map_map]
  rfl

/-! ## §5 Data read back -/

/-- **New rows are read back as their data.**  There is a statement for a new row exactly if each
declared entry has a single literal, and its whole text is read as the declared keys with their
literals in order.  The statement that also changes an old row fails as invalid data exactly if no
entry is declared, and otherwise succeeds and fails as the first one does; its columns and values
pair up to the same keys and literals, and it changes an old row to those that are not the id's, so
that an id stays.  Entries that are not declared do not count. -/
theorem insert_upsert_readBack (m : Model) (data : Row) :
    ((∃ i, m.insert data = .ok i) ↔
      ∀ entry ∈ m.declaredEntries data, ∃ l, m.literal entry.1 entry.2 = .ok l) ∧
    (∀ i, m.insert data = .ok i → ∃ pairs, m.Encodes (m.declaredEntries data) pairs ∧
      Sql.readInsert? i.text = some (newRow m.tableName pairs)) ∧
    ((∃ fault, m.upsert data = .error (.invalidData fault)) ↔ m.declaredEntries data = []) ∧
    (m.declaredEntries data ≠ [] →
      ((∃ u, m.upsert data = .ok u) ↔ ∃ i, m.insert data = .ok i) ∧
      ∀ e, m.upsert data = .error e ↔ m.insert data = .error e) ∧
    (∀ u, m.upsert data = .ok u → ∃ pairs columns literals,
      m.Encodes (m.declaredEntries data) pairs ∧
      columns.length = literals.length ∧ columns.zip literals = pairs ∧
      Sql.readInsert? u.text = some (.upsert m.tableName columns literals (rowChanges pairs)) ∧
      ∀ operand, (idColumn, operand) ∈ rowChanges pairs → operand = .column idColumn) ∧
    ∀ other, m.declaredEntries other = m.declaredEntries data →
      m.insert other = m.insert data ∧ m.upsert other = m.upsert data := by
  refine ⟨?_, ?_, ?_, ?_, ?_, ?_⟩
  · rw [← exists_assignments_iff]
    simp [insert_eq_ok_iff]
  · intro i h
    exact readInsert?_of_insert h
  · -- The errors of values are none of the data, so only the lack of entries is left.
    simp only [upsert_eq_error_iff]
    constructor
    · intro ⟨fault, h⟩
      rcases h with failed | ⟨empty, -⟩
      · cases ofEncoding_of_assignments failed
      · exact empty
    · intro empty
      exact ⟨_, .inr ⟨empty, rfl⟩⟩
  · intro some
    constructor
    · simp only [upsert_eq_ok_iff, insert_eq_ok_iff]
      constructor
      · intro ⟨_, as, found, _, _⟩
        exact ⟨_, as, found, rfl⟩
      · intro ⟨_, as, found, _⟩
        -- There are as many assignments as entries.
        have nonempty : as ≠ [] := by
          intro none
          apply some
          rw [← (assignments_eq_ok_iff.1 found).eq_nil_iff, none, List.map_nil]
        exact ⟨_, as, found, nonempty, rfl⟩
    · intro e
      simp [upsert_eq_error_iff, insert_eq_error_iff, some]
  · intro u h
    obtain ⟨pairs, columns, literals, encodes, lengths, zipped, read⟩ := readInsert?_of_upsert h
    refine ⟨pairs, columns, literals, encodes, lengths, zipped, read, ?_⟩
    intro operand mem
    exact eq_column_of_mem_rowChanges mem
  · intro other same
    simp [insert, upsert, assignments_congr same]

/-- A model with one property, whose name holds a backtick and a comma. -/
def crowdedModel : Model :=
  { ofName "t" with properties := [.ofType "b\x60, c" .string] }

/-- A row that has the property twice, the id, and an entry that is not declared and has no
literal. -/
def crowdedRow : Row :=
  [("b\x60, c", .string "x'), ('"), ("d", .array []), ("id", .int 7),
    ("b\x60, c", .string "\\' -- ")]

def crowdedPairs : List (String × Sql.Literal) :=
  [("b\x60, c", .quoted "x'), ('"), ("id", .ofInt 7), ("b\x60, c", .quoted "\\' -- ")]

theorem insert_upsert_readBack_crowded :
    crowdedModel.declaredEntries crowdedRow ≠ [] ∧
    ∃ i u, crowdedModel.insert crowdedRow = .ok i ∧ crowdedModel.upsert crowdedRow = .ok u ∧
      Sql.readInsert? i.text = some (newRow "t" crowdedPairs) ∧
      ∃ columns literals, columns.zip literals = crowdedPairs ∧
        Sql.readInsert? u.text = some (.upsert "t" columns literals (rowChanges crowdedPairs)) ∧
        crowdedModel.insert (crowdedRow.filter (·.1 != "d")) = .ok i := by
  have some : crowdedModel.declaredEntries crowdedRow ≠ [] := List.cons_ne_nil _ _
  -- The declared columns of the row in its own order.
  have made : crowdedModel.insert crowdedRow = .ok ⟨"t", _⟩ := rfl
  have encodes : crowdedModel.Encodes (crowdedModel.declaredEntries crowdedRow) crowdedPairs :=
    .cons ⟨rfl, rfl⟩ (.cons ⟨rfl, rfl⟩ (.cons ⟨rfl, rfl⟩ .nil))
  obtain ⟨-, inserted, -, agree, upserted, ignored⟩ :=
    insert_upsert_readBack crowdedModel crowdedRow
  obtain ⟨u, changed⟩ := (agree some).1.2 ⟨_, made⟩
  obtain ⟨pairs, found, read⟩ := inserted _ made
  obtain ⟨others, columns, literals, same, -, zipped, back, -⟩ := upserted u changed
  cases found.unique encodes
  cases same.unique encodes
  exact ⟨some, _, u, made, changed, read, columns, literals, zipped, back,
    (ignored _ rfl).1.trans made⟩

end Model

end TableMapper
