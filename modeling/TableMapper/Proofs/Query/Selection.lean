import TableMapper.Proofs.Query.Meaning
import TableMapper.Proofs.Sql.ReadBack
import TableMapper.Query.Statement

/-!
# Queries say what their filters say

The text of a query is read back as its filter, clause by clause, whatever the names and values in
it.

- `Model.ConditionRead` is the condition of a tree: what the text of the tree alone is read as;
- `select_count_readBack` says when there is a query, and what it is read back as.
-/

namespace TableMapper

open Sql (ReadsAs)

namespace Model

variable {m : Model}

/-! ## §1 Conditions -/

/-- What the text of a tree is read as, and nothing if there is no tree. -/
def ConditionRead (m : Model) (tree : Option ConditionTree) (condition : Option Sql.Expr) : Prop :=
  Option.Rel (fun tree e => ∃ text, m.whereText tree = .ok text ∧ Sql.readCondition? text = some e)
    tree condition

/-- A tree has a text exactly if its predicates compile. -/
theorem exists_whereText_iff {tree : ConditionTree} :
    (∃ text, m.whereText tree = .ok text) ↔ ∃ conjunction, m.predicates tree = .ok conjunction := by
  unfold whereText
  cases m.predicates tree with
  | error e => simp [Except.map]
  | ok conjunction => simp [Except.map]

/-- The conjunction of a tree is read inside a statement as the tree's text is alone. -/
theorem exists_readsAs {tree : ConditionTree} (nonempty : tree ≠ [])
    {conjunction : List Sql.Predicate} (h : m.predicates tree = .ok conjunction) :
    ∃ e, ReadsAs (Sql.Predicate.conjunctionChars conjunction) e ∧
      ∃ text, m.whereText tree = .ok text ∧ Sql.readCondition? text = some e := by
  obtain ⟨e, reads⟩ := (denotes_predicates m tree nonempty h).exists_readsAs
  refine ⟨e, reads, Sql.Predicate.conjunctionText conjunction, ?_, reads.readCondition?⟩
  simp [whereText, h, Except.map]

/-! ## §2 Queries -/

/-- The statement of a filter, given the predicates of its tree. -/
def selection (m : Model) (f : Filter) (predicate : Option (List Sql.Predicate)) : Sql.Select :=
  ⟨f.attributes.getD [], m.tableName, predicate, f.group, f.order, f.window⟩

/-- The predicates of a tree that is not empty, and none if there is no tree. -/
def PredicateOf (m : Model) (tree : Option ConditionTree)
    (predicate : Option (List Sql.Predicate)) : Prop :=
  Option.Rel (fun tree conjunction => tree ≠ [] ∧ m.predicates tree = .ok conjunction)
    tree predicate

theorem predicateOf_none_iff {predicate : Option (List Sql.Predicate)} :
    m.PredicateOf none predicate ↔ predicate = none := by
  constructor
  · intro h
    cases h
    rfl
  · intro h
    rw [h]
    exact .none

theorem predicateOf_some_iff {tree : ConditionTree} {predicate : Option (List Sql.Predicate)} :
    m.PredicateOf (some tree) predicate ↔
      ∃ conjunction, tree ≠ [] ∧ m.predicates tree = .ok conjunction ∧
        predicate = some conjunction := by
  -- A tree is written only if it has an entry.
  constructor
  · intro h
    cases h with
    | some h => exact ⟨_, h.1, h.2, rfl⟩
  · intro ⟨conjunction, nonempty, found, same⟩
    rw [same]
    exact .some ⟨nonempty, found⟩

/-- There is a query exactly if the filter has no tree, or one that is not empty and has
predicates. -/
theorem select_eq_ok_iff {f : Filter} {statement : Sql.Select} :
    m.select f = .ok statement ↔
      ∃ predicate, m.PredicateOf f.condition predicate ∧ statement = m.selection f predicate := by
  unfold select
  cases f.condition with
  | none => simp [predicateOf_none_iff, selection, eq_comm]
  | some tree =>
    simp only [predicateOf_some_iff]
    -- An empty tree is refused.
    cases tree with
    | nil => simp
    | cons entry tree =>
      cases m.predicates (entry :: tree) with
      | error e => simp
      | ok conjunction => simp [selection, eq_comm]

/-- A count is compiled with the predicates of its tree; an empty tree has none. -/
theorem count_eq_ok_iff {tree : Option ConditionTree} {statement : Sql.Count} :
    m.count tree = .ok statement ↔
      ∃ predicate, m.PredicateOf (tree.filter (!·.isEmpty)) predicate ∧
        statement = ⟨m.tableName, predicate⟩ := by
  unfold count
  cases tree with
  | none => simp [predicateOf_none_iff, eq_comm]
  | some tree =>
    -- An empty tree counts as none.
    cases tree with
    | nil => simp [Option.filter, predicateOf_none_iff, eq_comm]
    | cons entry tree =>
      have whole : (some (entry :: tree)).filter (!·.isEmpty) = some (entry :: tree) := rfl
      rw [whole]
      simp only [predicateOf_some_iff]
      cases m.predicates (entry :: tree) with
      | error e => simp
      | ok conjunction => simp [eq_comm]

/-- What a filter asks for: its columns if it names any, its terms, and a window if its limit is not
zero. -/
def askedFor (m : Model) (f : Filter) (condition : Option Sql.Expr) : Sql.SelectReading :=
  let limit := (f.limit.map UInt64.toNat).filter (· != 0)
  { columns := f.attributes.filter (!·.isEmpty)
    table := m.tableName
    condition := condition
    group := f.group
    order := f.order
    limit := limit
    -- Rows are left out only where there is a limit.
    skip := if limit.isSome then (f.skip.map UInt64.toNat).filter (· != 0) else none }

/-- The text of a query is read back as what the filter asks for. -/
theorem readSelect?_selection {f : Filter} {predicate : Option (List Sql.Predicate)}
    {condition : Option Sql.Expr}
    (reads : Option.Rel ReadsAs (predicate.map Sql.Predicate.conjunctionChars) condition) :
    Sql.readSelect? (m.selection f predicate).text = some (m.askedFor f condition) := by
  rw [Sql.readSelect?_text _ reads]
  have columns : Sql.someItems (f.attributes.getD []) = f.attributes.filter (!·.isEmpty) := by
    cases f.attributes with
    | none => rfl
    | some names => cases names <;> rfl
  -- A limit of zero is no limit.
  have positive (n : Option UInt64) :
      Filter.effective n = (n.map UInt64.toNat).filter (· != 0) := by
    simp only [Filter.effective, ne_eq, Nat.pos_iff_ne_zero, decide_not]
    rfl
  simp only [selection, askedFor, columns, Filter.window, positive]
  cases (f.limit.map UInt64.toNat).filter (· != 0) with
  | none => simp
  | some limit => simp

/-- A filter compiles exactly if its tree is not empty and has a text. -/
theorem exists_select_iff {f : Filter} :
    (∃ statement, m.select f = .ok statement) ↔
      ∀ tree ∈ f.condition, tree ≠ [] ∧ ∃ text, m.whereText tree = .ok text := by
  simp only [select_eq_ok_iff, exists_whereText_iff]
  cases f.condition with
  | none => simp [predicateOf_none_iff]
  | some tree => simp [predicateOf_some_iff]

/-- A count compiles exactly if its tree has a text, an empty one included. -/
theorem exists_count_iff {tree : Option ConditionTree} :
    (∃ statement, m.count tree = .ok statement) ↔ ∀ t ∈ tree, ∃ text, m.whereText t = .ok text := by
  simp only [count_eq_ok_iff, exists_whereText_iff]
  cases tree with
  | none => simp [predicateOf_none_iff]
  | some tree =>
    cases tree with
    -- The empty tree has no predicates, which is no error.
    | nil => simp [Option.filter, predicateOf_none_iff, predicates]
    | cons entry tree => simp [predicateOf_some_iff, Option.filter]

/-- The predicate of a statement and the tree that it comes from are read as the same condition. -/
theorem PredicateOf.exists_conditionRead {tree : Option ConditionTree}
    {predicate : Option (List Sql.Predicate)} (h : m.PredicateOf tree predicate) :
    ∃ condition, m.ConditionRead tree condition ∧
      Option.Rel ReadsAs (predicate.map Sql.Predicate.conjunctionChars) condition := by
  cases h with
  | none => exact ⟨none, .none, .none⟩
  | some h =>
    obtain ⟨e, reads, text, written, alone⟩ := exists_readsAs h.1 h.2
    exact ⟨some e, .some ⟨text, written, alone⟩, .some reads⟩

theorem readSelect?_of_select {f : Filter} {statement : Sql.Select}
    (h : m.select f = .ok statement) :
    ∃ condition, m.ConditionRead f.condition condition ∧
      Sql.readSelect? statement.text = some (m.askedFor f condition) := by
  obtain ⟨predicate, source, rfl⟩ := select_eq_ok_iff.1 h
  obtain ⟨condition, read, reads⟩ := source.exists_conditionRead
  exact ⟨condition, read, readSelect?_selection reads⟩

theorem readCount?_of_count {tree : Option ConditionTree} {statement : Sql.Count}
    (h : m.count tree = .ok statement) :
    ∃ condition, m.ConditionRead (tree.filter (!·.isEmpty)) condition ∧
      Sql.readCount? statement.text = some ⟨m.tableName, condition⟩ := by
  obtain ⟨predicate, source, rfl⟩ := count_eq_ok_iff.1 h
  obtain ⟨condition, read, reads⟩ := source.exists_conditionRead
  exact ⟨condition, read, Sql.readCount?_text ⟨m.tableName, predicate⟩ reads⟩

/-! ## §3 Filters read back -/

/-- **Queries are read back as what was asked for.**  There is a query exactly if the filter has no
tree or one that is not empty and has a text; the whole text of the query is then read as the
filter's columns, the table, the condition that the tree's text is read as, and the filter's terms
and window.  The query for the number of rows has the same condition, and none for an empty tree. -/
theorem select_count_readBack (m : Model) :
    (∀ f : Filter,
      ((∃ statement, m.select f = .ok statement) ↔
        ∀ tree ∈ f.condition, tree ≠ [] ∧ ∃ text, m.whereText tree = .ok text) ∧
      ∀ statement, m.select f = .ok statement → ∃ condition, m.ConditionRead f.condition condition ∧
        Sql.readSelect? statement.text = some (m.askedFor f condition)) ∧
    ∀ tree : Option ConditionTree,
      ((∃ statement, m.count tree = .ok statement) ↔ ∀ t ∈ tree, ∃ text, m.whereText t = .ok text) ∧
      ∀ statement, m.count tree = .ok statement →
        ∃ condition, m.ConditionRead (tree.filter (!·.isEmpty)) condition ∧
          Sql.readCount? statement.text = some ⟨m.tableName, condition⟩ := by
  -- The two statements, each with its success and its text.
  refine ⟨fun f => ⟨exists_select_iff, ?_⟩, fun tree => ⟨exists_count_iff, ?_⟩⟩
  · intro statement h
    exact readSelect?_of_select h
  · intro statement h
    exact readCount?_of_count h

/-- A filter whose names and values hold backticks, quotes, commas and keywords. -/
def crowdedFilter : Filter where
  condition := some quotedTree
  order := [⟨"b\x60 DESC, c", some .descending⟩, ⟨"d LIMIT 1", none⟩]
  group := [⟨"a.\x60b", some .ascending⟩]
  limit := some 3
  skip := some 7
  attributes := some ["a, b", "\x60 FROM x WHERE 1"]

theorem select_count_readBack_crowded :
    ∃ statement condition, (ofName "t").select crowdedFilter = .ok statement ∧
      (ofName "t").ConditionRead (some quotedTree) (some condition) ∧
      Sql.readSelect? statement.text = some
        ⟨some ["a, b", "\x60 FROM x WHERE 1"], "t", some condition, crowdedFilter.group,
          crowdedFilter.order, some 3, some 7⟩ := by
  have made : (ofName "t").select crowdedFilter = .ok _ := rfl
  obtain ⟨condition, read, back⟩ := ((select_count_readBack (ofName "t")).1 crowdedFilter).2 _ made
  cases read with
  | some alone => exact ⟨_, _, made, .some alone, back⟩

end Model

end TableMapper
