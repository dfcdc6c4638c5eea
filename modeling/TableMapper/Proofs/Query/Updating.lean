import TableMapper.Proofs.Query.Faults
import TableMapper.Proofs.Query.Insertion
import TableMapper.Proofs.Query.Selection

/-!
# Changes of rows keep their condition

The text of a statement that changes rows is read back as its specification: every entry of the row
is one assignment, and the condition behind them is that of the whole tree.  No key and no value
ends the assignments early or reaches into the condition.

- `UpdateSpec.Incomplete` says that there is nothing to look for or nothing to set;
- `Model.AllEncode` and `Model.FirstFault` say that all entries of a row have literals, or which is
  the first that has none;
- `update_carriesCondition` says when there is a statement, what it is read back as and what its
  errors are.
-/

namespace TableMapper

/-- The tree or the row is missing or empty. -/
def UpdateSpec.Incomplete (spec : UpdateSpec) : Prop :=
  (∀ tree ∈ spec.condition, tree = []) ∨ ∀ row ∈ spec.assignments, row = []

namespace Model

variable {m : Model} {spec : UpdateSpec} {tree : ConditionTree} {row : Row} {e : Error}

/-! ## §1 Entries with and without literals -/

/-- Every entry of the row has a single literal. -/
def AllEncode (m : Model) (row : Row) : Prop :=
  ∀ entry ∈ row, ∃ l, m.literal entry.1 entry.2 = .ok l

/-- The first entry of the row that has no single literal fails with the error. -/
def FirstFault (m : Model) (row : Row) (e : Error) : Prop :=
  ∃ before entry after, row = before ++ entry :: after ∧ m.AllEncode before ∧
    m.literal entry.1 entry.2 = .error e

theorem tryMap_assignment_eq_error_iff :
    tryMap m.assignment row = .error e ↔ m.FirstFault row e := by
  simp only [tryMap_eq_error_iff, exists_assignment_iff, assignment_eq_error_iff,
    FirstFault, AllEncode]

theorem FirstFault.ofEncoding (h : m.FirstFault row e) : e.OfEncoding := by
  obtain ⟨_, entry, _, -, -, failed⟩ := h
  exact ofEncoding_of_literal failed

/-- Null is written as `NULL` under every key. -/
theorem literal_null (m : Model) (key : String) : m.literal key .null = .ok .null := rfl

/-! ## §2 Statements -/

/-- An update without condition or assignments is refused. -/
theorem update_of_incomplete (h : spec.Incomplete) :
    m.update spec = .error .missingWhereOrUpdate := by
  have lacking {α : Type} {part : Option (List α)} (empty : ∀ items ∈ part, items = []) :
      part.filter (!·.isEmpty) = none := by
    simpa [Option.filter_eq_none_iff] using empty
  unfold update
  rcases h with noTree | noRow
  · rw [lacking noTree]
  · rw [lacking noRow]
    cases spec.condition.filter (!·.isEmpty) <;> rfl

/-- A specification whose tree and row are both there. -/
structure Asks (spec : UpdateSpec) (tree : ConditionTree) (row : Row) : Prop where
  condition : spec.condition = some tree
  assignments : spec.assignments = some row
  tree_ne_nil : tree ≠ []
  row_ne_nil : row ≠ []

theorem not_incomplete_iff : ¬ spec.Incomplete ↔ ∃ tree row, Asks spec tree row := by
  obtain ⟨condition, assignments⟩ := spec
  -- Complete means that both parts are given and neither is empty.
  constructor
  · intro complete
    simp only [UpdateSpec.Incomplete, not_or, not_forall] at complete
    obtain ⟨⟨tree, condition, someTree⟩, ⟨row, assignments, someRow⟩⟩ := complete
    exact ⟨tree, row, condition, assignments, someTree, someRow⟩
  · intro ⟨tree, row, asks⟩ incomplete
    rcases incomplete with noTree | noRow
    · exact asks.tree_ne_nil (noTree tree asks.condition)
    · exact asks.row_ne_nil (noRow row asks.assignments)

/-- The row is encoded before the tree. -/
theorem Asks.update_eq (asks : Asks spec tree row) : m.update spec =
    match tryMap m.assignment row with
    | .error e => .error e
    | .ok assignments =>
      match m.predicates tree with
      | .error e => .error e
      | .ok predicates => .ok ⟨m.tableName, assignments, predicates⟩ := by
  -- The two filters keep what is not empty.
  have present {α : Type} {items : List α} (nonempty : items ≠ []) :
      (some items).filter (!·.isEmpty) = some items := by
    simp [Option.filter, nonempty]
  unfold update
  rewrite [asks.condition, asks.assignments, present asks.tree_ne_nil, present asks.row_ne_nil]
  rfl

/-- A complete update compiles to its assignments and its predicates. -/
theorem Asks.update_eq_ok_iff (asks : Asks spec tree row) {u : Sql.Update} :
    m.update spec = .ok u ↔ ∃ as conjunction, tryMap m.assignment row = .ok as ∧
      m.predicates tree = .ok conjunction ∧ u = ⟨m.tableName, as, conjunction⟩ := by
  rw [asks.update_eq]
  cases tryMap m.assignment row with
  | error e => simp
  | ok as =>
    cases m.predicates tree with
    | error e => simp
    | ok conjunction => simp [eq_comm]

/-- It compiles exactly if its row encodes and its condition has a text. -/
theorem Asks.exists_update_iff (asks : Asks spec tree row) :
    (∃ u, m.update spec = .ok u) ↔ m.AllEncode row ∧ ∃ text, m.whereText tree = .ok text := by
  rw [AllEncode, ← exists_tryMap_assignment_iff, exists_whereText_iff]
  simp only [asks.update_eq_ok_iff]
  constructor
  · intro ⟨_, as, conjunction, assigned, compiled, _⟩
    exact ⟨⟨as, assigned⟩, conjunction, compiled⟩
  · intro ⟨⟨as, assigned⟩, conjunction, compiled⟩
    exact ⟨_, as, conjunction, assigned, compiled, rfl⟩

theorem whereText_eq_error_iff : m.whereText tree = .error e ↔ m.predicates tree = .error e := by
  unfold whereText
  cases m.predicates tree with
  | error found => simp [Except.map]
  | ok conjunction => simp [Except.map]

/-- An error of the tree counts only if the row has none. -/
theorem Asks.update_eq_error_iff (asks : Asks spec tree row) :
    m.update spec = .error e ↔
      m.FirstFault row e ∨ (m.AllEncode row ∧ m.whereText tree = .error e) := by
  rw [asks.update_eq, ← tryMap_assignment_eq_error_iff, AllEncode, ← exists_tryMap_assignment_iff,
    whereText_eq_error_iff]
  -- A fault of the row hides one of the condition.
  cases tryMap m.assignment row with
  | error found => simp
  | ok as =>
    cases m.predicates tree with
    | error found => simp
    | ok conjunction => simp

/-- Nothing else is refused in this way. -/
theorem update_eq_missing_iff : m.update spec = .error .missingWhereOrUpdate ↔ spec.Incomplete := by
  constructor
  · intro failed
    by_contra complete
    obtain ⟨tree, row, asks⟩ := not_incomplete_iff.1 complete
    -- No value and no tree fails in this way.
    rcases asks.update_eq_error_iff.1 failed with fault | ⟨-, fault⟩
    · cases fault.ofEncoding
    · exact (ofCondition_of_whereText fault).ne_missingWhereOrUpdate rfl
  · exact update_of_incomplete

/-! ## §3 Specifications read back -/

/-- The text of an update is read back with its row and its condition. -/
theorem Asks.readUpdate?_of_update (asks : Asks spec tree row) {u : Sql.Update}
    (h : m.update spec = .ok u) :
    ∃ pairs text condition, m.Encodes row pairs ∧ m.whereText tree = .ok text ∧
      Sql.readCondition? text = some condition ∧
      Sql.readUpdate? u.text =
        some ⟨m.tableName, pairs.map fun pair => (pair.1, .literal pair.2), some condition⟩ := by
  obtain ⟨as, conjunction, assigned, compiled, rfl⟩ := asks.update_eq_ok_iff.1 h
  have encodes := tryMap_assignment_eq_ok_iff.1 assigned
  -- One assignment for each entry of the row.
  have nonempty : as ≠ [] := by
    intro none
    apply asks.row_ne_nil
    rw [← encodes.eq_nil_iff, none, List.map_nil]
  obtain ⟨condition, reads, text, written, alone⟩ := exists_readsAs asks.tree_ne_nil compiled
  refine ⟨_, text, condition, encodes, written, alone, ?_⟩
  rw [Sql.readUpdate?_text _ nonempty reads, List.map_map]
  rfl

/-- **A change of rows carries its whole condition.**  It is refused for want of a tree or a row
exactly if one of them is missing or empty.  Otherwise there is a statement exactly if every entry
of the row has a single literal and the tree has a text, and an error is that of the first entry
without a literal, or else that of the tree.  The whole text of the statement is read as the table,
one assignment for each entry in order, declared or not and with `NULL` for null, and the condition
that the tree's text alone is read as. -/
theorem update_carriesCondition (m : Model) (spec : UpdateSpec) :
    (m.update spec = .error .missingWhereOrUpdate ↔
      (∀ tree ∈ spec.condition, tree = []) ∨ ∀ row ∈ spec.assignments, row = []) ∧
    (∀ key, m.literal key .null = .ok .null) ∧
    ∀ tree row, spec.condition = some tree → spec.assignments = some row → tree ≠ [] → row ≠ [] →
      ((∃ u, m.update spec = .ok u) ↔ m.AllEncode row ∧ ∃ text, m.whereText tree = .ok text) ∧
      (∀ e, m.update spec = .error e ↔
        m.FirstFault row e ∨ (m.AllEncode row ∧ m.whereText tree = .error e)) ∧
      ∀ u, m.update spec = .ok u → ∃ pairs text condition,
        m.Encodes row pairs ∧ m.whereText tree = .ok text ∧
          Sql.readCondition? text = some condition ∧
        Sql.readUpdate? u.text =
          some ⟨m.tableName, pairs.map fun pair => (pair.1, .literal pair.2), some condition⟩ := by
  refine ⟨update_eq_missing_iff, literal_null m, ?_⟩
  intro tree row condition assignments someTree someRow
  -- Everything after the first part is about a complete specification.
  have asks : Asks spec tree row := ⟨condition, assignments, someTree, someRow⟩
  refine ⟨asks.exists_update_iff, fun e => asks.update_eq_error_iff, ?_⟩
  intro u h
  exact asks.readUpdate?_of_update h

/-- Keys and values that hold quotes, commas, comments and a condition of their own; one key is not
declared. -/
def crowdedUpdate : UpdateSpec where
  condition := some quotedTree
  assignments :=
    some [("b\x60, c", .string "x', d = 1 WHERE 1=1 -- "), ("d\x60 = 1 WHERE \x60", .null)]

theorem update_carriesCondition_crowded :
    ∃ u text condition, crowdedModel.update crowdedUpdate = .ok u ∧
      crowdedModel.whereText quotedTree = .ok text ∧ Sql.readCondition? text = some condition ∧
      Sql.readUpdate? u.text = some
        ⟨"t", [("b\x60, c", .literal (.quoted "x', d = 1 WHERE 1=1 -- ")),
          ("d\x60 = 1 WHERE \x60", .literal .null)], some condition⟩ := by
  have made : crowdedModel.update crowdedUpdate = .ok _ := rfl
  obtain ⟨-, -, complete⟩ := update_carriesCondition crowdedModel crowdedUpdate
  obtain ⟨-, -, carried⟩ := complete _ _ rfl rfl (List.cons_ne_nil _ _) (List.cons_ne_nil _ _)
  obtain ⟨pairs, text, condition, encodes, written, alone, read⟩ := carried _ made
  obtain rfl : pairs =
      [("b\x60, c", .quoted "x', d = 1 WHERE 1=1 -- "), ("d\x60 = 1 WHERE \x60", .null)] :=
    encodes.unique (.cons ⟨rfl, rfl⟩ (.cons ⟨rfl, rfl⟩ .nil))
  exact ⟨_, text, condition, made, written, alone, read⟩

end Model

end TableMapper
