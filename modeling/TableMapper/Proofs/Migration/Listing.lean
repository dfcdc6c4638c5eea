import TableMapper.Proofs.Migration.Convergence

/-!
# The order in which index entries are listed

Servers list the entries of indexes in any order, and a position may be listed twice.

- `LiveTable.entriesOf` are the entries of an index that count: at each position in turn the last
  one listed there;
- `LiveTable.columnsOf_eq` says that the columns of an index are theirs, however the entries are
  listed;
- `TableChange.Alike` says of two changes of a table that they differ at most in the order of the
  indexes dropped;
- `indexColumns_anyListing` puts the groups, their columns and the plans together.
-/

namespace TableMapper

open Reconcile

namespace LiveTable

variable {t t' : LiveTable} {index : String} {position : Nat} {e : IndexEntry}

/-! ## §1 Columns by position -/

/-- The columns there are at the positions from `first` on, each with its position. -/
def byPosition (first count : Nat) (columnAt : Nat → Option String) : List (Nat × String) :=
  (List.range' first count).filterMap fun p => (columnAt p).map (p, ·)

/-- The columns from a position on are the one there, if there is one, and those behind it. -/
theorem byPosition_succ (first count : Nat) (columnAt : Nat → Option String) :
    byPosition first (count + 1) columnAt =
      ((columnAt first).map (first, ·)).toList ++ byPosition (first + 1) count columnAt := by
  rw [byPosition, List.range'_succ, List.filterMap_cons]
  cases columnAt first <;> rfl

/-- They depend on the positions from there on alone. -/
theorem byPosition_congr {first count : Nat} {columnAt columnAt' : Nat → Option String}
    (same : ∀ p, first ≤ p → columnAt p = columnAt' p) :
    byPosition first count columnAt = byPosition first count columnAt' := by
  apply List.filterMap_congr
  intro p listed
  rw [same p (List.mem_range'_1.1 listed).1]

theorem placeColumn_of_behind {columns : List (Nat × String)} {column : String}
    (behind : ∀ c ∈ columns, position < c.1) :
    placeColumn position column columns = (position, column) :: columns := by
  cases columns with
  | nil => rfl
  | cons c columns => exact if_pos (behind c (List.mem_cons_self ..))

/-- A column is put where it belongs, and takes the place of the one that was there. -/
theorem placeColumn_byPosition {first count : Nat} (column : String)
    (columnAt : Nat → Option String) (low : first ≤ position) (high : position < first + count) :
    placeColumn position column (byPosition first count columnAt) =
      byPosition first count fun p => if p = position then some column else columnAt p := by
  -- From the first position on, until the column's own is reached.
  induction count generalizing first with
  | zero => omega
  | succ count ih =>
    rw [byPosition_succ, byPosition_succ]
    by_cases here : first = position
    · -- All other columns are behind this one.
      have others : byPosition (first + 1) count (fun p => if p = position then some column else
          columnAt p) =
          byPosition (first + 1) count columnAt :=
        byPosition_congr fun p behind => if_neg (by omega)
      rw [others, if_pos here]
      subst here
      cases columnAt first with
      | none =>
        apply placeColumn_of_behind
        intro c listed
        obtain ⟨p, inside, made⟩ := List.mem_filterMap.1 listed
        obtain ⟨_, -, rfl⟩ := Option.map_eq_some_iff.1 made
        exact (List.mem_range'_1.1 inside).1
      | some before => simp [placeColumn]
    -- The column goes behind the first one, if there is a first one.
    · have later := @ih (first + 1) (by omega) (by omega)
      rw [if_neg here, ← later]
      cases columnAt first with
      | none => rfl
      | some before =>
        have notBefore : ¬ position < first := by omega
        simp [placeColumn, notBefore, Ne.symm here]

/-- The last entry listed at a position. -/
def lastAt? (entries : List IndexEntry) (position : Nat) : Option IndexEntry :=
  entries.findRev? (·.position == position)

/-- **Entries put in their places one after another**: at each position stands the column of the
last one. -/
theorem placed_eq {entries : List IndexEntry} (valid : ∀ e ∈ entries, e.isValid = true) :
    placed entries = byPosition 1 maxIndexColumns fun p => (lastAt? entries p).map (·.column) := by
  -- By induction from the end, since the last entry at a position wins.
  induction entries using List.reverseRecOn with
  | nil => rfl
  | append_singleton entries e ih =>
    have bounds : 1 ≤ e.position ∧ e.position ≤ maxIndexColumns :=
      of_decide_eq_true (valid e (List.mem_append_right _ (List.mem_singleton_self e)))
    rw [placed_append_singleton, ih fun d listed => valid d (List.mem_append_left _ listed),
      placeColumn_byPosition _ _ bounds.1 (by omega)]
    apply byPosition_congr
    intro p _
    by_cases here : p = e.position
    · simp [lastAt?, List.findRev?_eq_find?_reverse, here]
    · simp [lastAt?, List.findRev?_eq_find?_reverse, here, Ne.symm here]

/-! ## §2 The entries of an index -/

/-- The last entry listed for an index at a position. -/
def entryAt? (t : LiveTable) (index : String) (position : Nat) : Option IndexEntry :=
  t.indexes.findRev? fun e => e.index == index && e.position == position

/-- The entries of an index that count, by position. -/
def entriesOf (t : LiveTable) (index : String) : List IndexEntry :=
  (List.range' 1 maxIndexColumns).filterMap (t.entryAt? index)

/-- The entry at a position of an index is listed there, and none is listed there after it. -/
theorem entryAt?_eq_some_iff :
    t.entryAt? index position = some e ↔ e.index = index ∧ e.position = position ∧
      ∃ before after, t.indexes = before ++ e :: after ∧
        ∀ d ∈ after, ¬ (d.index = index ∧ d.position = position) := by
  rw [entryAt?, List.findRev?_eq_find?_reverse, List.find?_eq_some_iff_append]
  simp only [Bool.and_eq_true, beq_iff_eq, Bool.not_eq_true', Bool.eq_false_iff, Ne, and_assoc]
  refine and_congr_right fun _ => and_congr_right fun _ => ?_
  -- Searching from the back leaves what follows without a match.
  constructor
  · intro ⟨after, before, split, others⟩
    refine ⟨before.reverse, after.reverse, ?_, ?_⟩
    · simpa using congrArg List.reverse split
    · simpa using others
  · intro ⟨before, after, split, others⟩
    refine ⟨after.reverse, before.reverse, ?_, ?_⟩
    · simp [split]
    · simpa using others

/-- An entry of an index counts if its position is one that an index can have and none is listed
there after it. -/
theorem mem_entriesOf_iff :
    e ∈ t.entriesOf index ↔ e.isValid = true ∧ t.entryAt? index e.position = some e := by
  rw [entriesOf, List.mem_filterMap]
  constructor
  · intro ⟨p, inside, found⟩
    obtain ⟨-, rfl, -⟩ := entryAt?_eq_some_iff.1 found
    refine ⟨?_, found⟩
    have bounds := List.mem_range'_1.1 inside
    exact decide_eq_true ⟨bounds.1, by omega⟩
  · intro ⟨valid, found⟩
    have bounds : 1 ≤ e.position ∧ e.position ≤ maxIndexColumns := of_decide_eq_true valid
    exact ⟨e.position, List.mem_range'_1.2 ⟨bounds.1, by omega⟩, found⟩

/-- The entries of an index come in the order of their positions. -/
theorem pairwise_entriesOf (t : LiveTable) (index : String) :
    (t.entriesOf index).Pairwise fun a b => a.position < b.position := by
  refine List.Pairwise.filterMap _ ?_ (List.pairwise_lt_range' 1)
  intro p q before a foundA b foundB
  obtain ⟨-, rfl, -⟩ := entryAt?_eq_some_iff.1 foundA
  obtain ⟨-, rfl, -⟩ := entryAt?_eq_some_iff.1 foundB
  exact before

/-- **The columns of an index are those of its entries by position**, in whatever order these are
listed. -/
theorem columnsOf_eq (t : LiveTable) (index : String) :
    t.columnsOf index = (t.entriesOf index).map (·.column) := by
  have valid : ∀ e ∈ t.validEntries.filter (·.index == index), e.isValid = true := by
    intro e listed
    exact (List.mem_filter.1 (List.mem_filter.1 listed).1).2
  rw [columnsOf, placed_eq valid, byPosition, entriesOf, List.map_filterMap, List.map_filterMap]
  apply List.filterMap_congr
  intro p inside
  have bounds := List.mem_range'_1.1 inside
  have same : lastAt? (t.validEntries.filter (·.index == index)) p = t.entryAt? index p := by
    rw [lastAt?, entryAt?, List.findRev?_eq_find?_reverse, List.findRev?_eq_find?_reverse,
      validEntries, List.filter_filter, ← List.filter_reverse, List.find?_filter]
    congr 1
    funext e
    -- An entry at the position is at one that an index can have.
    by_cases here : e.position = p
    · have valid : e.isValid = true := decide_eq_true (by omega)
      rw [Bool.eq_iff_iff]
      simp [valid]
    · simp [here]
  rw [same]
  cases t.entryAt? index p <;> rfl

/-! ## §3 Entries at distinct positions -/

/-- If no position is taken twice, the entry there is the only one. -/
theorem entryAt?_eq_some_iff_of_distinct
    (distinct : (t.indexes.map fun e => (e.index, e.position)).Nodup) :
    t.entryAt? index position = some e ↔
      e ∈ t.indexes ∧ e.index = index ∧ e.position = position := by
  constructor
  · intro found
    obtain ⟨ofIndex, here, before, after, split, -⟩ := entryAt?_eq_some_iff.1 found
    exact ⟨by simp [split], ofIndex, here⟩
  · intro ⟨listed, ofIndex, here⟩
    cases found : t.entryAt? index position with
    | none =>
      rw [entryAt?, List.findRev?_eq_find?_reverse, List.find?_eq_none] at found
      exact absurd (by simp [ofIndex, here]) (found e (List.mem_reverse.2 listed))
    | some d =>
      -- Two entries at one place are one entry.
      obtain ⟨ofIndex', here', before, after, split, -⟩ := entryAt?_eq_some_iff.1 found
      have listed' : d ∈ t.indexes := by simp [split]
      rw [List.inj_on_of_nodup_map distinct listed' listed (by rw [ofIndex, ofIndex', here, here'])]

/-- No entry of an index is lost, and none is there twice. -/
theorem entriesOf_perm (distinct : (t.indexes.map fun e => (e.index, e.position)).Nodup)
    (index : String) :
    (t.entriesOf index).Perm (t.validEntries.filter (·.index == index)) := by
  have nodup : (t.entriesOf index).Nodup := (t.pairwise_entriesOf index).imp fun before same => by
    rw [same] at before
    exact Nat.lt_irrefl _ before
  have listed_nodup : (t.validEntries.filter (·.index == index)).Nodup :=
    ((List.Nodup.of_map _ distinct).filter _).filter _
  -- Neither list repeats an entry, so the same members are enough.
  apply (List.perm_ext_iff_of_nodup nodup listed_nodup).2
  intro e
  rw [mem_entriesOf_iff, entryAt?_eq_some_iff_of_distinct distinct, List.mem_filter, validEntries,
    List.mem_filter]
  simp [and_assoc, and_comm]

/-- The order in which entries are listed does not count. -/
theorem entriesOf_of_perm (distinct : (t.indexes.map fun e => (e.index, e.position)).Nodup)
    (perm : t.indexes.Perm t'.indexes) (index : String) :
    t'.entriesOf index = t.entriesOf index := by
  have distinct' := (perm.map fun e => (e.index, e.position)).nodup_iff.1 distinct
  apply List.filterMap_congr
  intro p _
  apply Option.ext
  intro e
  rw [entryAt?_eq_some_iff_of_distinct distinct, entryAt?_eq_some_iff_of_distinct distinct',
    perm.mem_iff]

/-- The same entries in another order make the same indexes, perhaps in another order. -/
theorem indexColumns_of_perm (distinct : (t.indexes.map fun e => (e.index, e.position)).Nodup)
    (perm : t.indexes.Perm t'.indexes) : t.indexColumns.Perm t'.indexColumns := by
  have nodup (t : LiveTable) : t.indexNames.Nodup := nodup_eraseDups _
  have names : t.indexNames.Perm t'.indexNames := by
    apply (List.perm_ext_iff_of_nodup (nodup t) (nodup t')).2
    intro n
    simp only [mem_indexNames, perm.mem_iff]
  -- The names may come in another order, the columns of each may not.
  have columns : t.columnsOf = t'.columnsOf := by
    funext n
    rw [columnsOf_eq, columnsOf_eq, entriesOf_of_perm distinct perm]
  rw [indexColumns_eq, indexColumns_eq, columns]
  exact names.map _

end LiveTable

/-! ## §4 Plans -/

/-- Whether the clause is about a column. -/
def Sql.AlterClause.isOfColumn : Sql.AlterClause → Bool
  | .dropIndex _ => false
  | .addIndex _ => false
  | _ => true

/-- Two changes of a table that differ at most in the order of the indexes dropped. -/
inductive TableChange.Alike : TableChange → TableChange → Prop where
  | create (table : Sql.CreateTable) : Alike (.create table) (.create table)
  | alter (table : String) {columns : List Sql.AlterClause} {dropped dropped' : List String}
      {added : List TableIndex} (ofColumns : ∀ c ∈ columns, c.isOfColumn = true)
      (perm : dropped.Perm dropped') :
    Alike (.alter table (columns ++ dropped.map .dropIndex ++ added.map .addIndex))
      (.alter table (columns ++ dropped'.map .dropIndex ++ added.map .addIndex))

/-- Such changes have the same clauses. -/
theorem TableChange.Alike.statements_perm {change change' : TableChange}
    (alike : change.Alike change') :
    change.plan.statements.Perm change'.plan.statements := by
  cases alike with
  | create table => exact .refl _
  | alter table ofColumns perm => exact (((perm.map _).append_left _).append_right _).map _

namespace Model

variable {m : Model} {t t' : LiveTable}

/-- The clauses about columns. -/
def columnPasses (m : Model) (live : LiveTable) : List Sql.AlterClause :=
  m.idClauses live ++ m.columnProperties.flatMap (columnClauses live) ++ m.droppedColumns live

/-- The names of the indexes that are dropped. -/
def droppedIndexes (m : Model) (live : LiveTable) : List String :=
  ((live.indexColumns.filter fun index => !isKeyIndex index.1).filter
    fun index => !isDeclared m.declaredIndexes index).map (·.1)

/-- The clauses are those about columns, the indexes to drop and those to add. -/
theorem alterClauses_eq (m : Model) (live : LiveTable) :
    m.alterClauses live =
      m.columnPasses live ++ (m.droppedIndexes live).map .dropIndex ++
        (m.addedIndexes live).map .addIndex := by
  simp only [alterClauses, indexClauses, columnPasses, droppedIndexes, addedIndexes, keptIndexes,
    List.map_map, List.append_assoc]
  rfl

/-- The first of these three parts is about columns. -/
theorem isOfColumn_of_mem {clause : Sql.AlterClause} (h : clause ∈ m.columnPasses t) :
    clause.isOfColumn = true := by
  rcases List.mem_append.1 h with early | ofDropped
  · rcases List.mem_append.1 early with ofId | ofProperty
    · rw [(mem_idClauses_iff.1 ofId).1]
      rfl
    · obtain ⟨p, -, ofProperty⟩ := List.mem_flatMap.1 ofProperty
      rcases mem_columnClauses_iff.1 ofProperty with ⟨-, rfl⟩ | ⟨_, -, -, rfl⟩ <;> rfl
  · obtain ⟨field, -, rfl⟩ := List.mem_map.1 ofDropped
    rfl

/-- The clauses about columns depend on the columns alone. -/
theorem columnPasses_congr (fields : t'.fields = t.fields) :
    m.columnPasses t' = m.columnPasses t := by
  have found : t'.field? = t.field? := by
    funext n
    rw [LiveTable.field?, LiveTable.field?, fields]
  have columns : columnClauses t' = columnClauses t := by
    funext p
    rw [columnClauses, columnClauses, found]
  rw [columnPasses, columnPasses, idClauses, idClauses, droppedColumns, droppedColumns, found,
    columns, fields]

/-- The indexes to drop are the same, perhaps in another order. -/
theorem droppedIndexes_of_perm (same : t.indexColumns.Perm t'.indexColumns) :
    (m.droppedIndexes t).Perm (m.droppedIndexes t') :=
  ((same.filter _).filter _).map _

/-- Which indexes are added does not depend on the order of those that are there. -/
theorem addedIndexes_of_perm (same : t.indexColumns.Perm t'.indexColumns) :
    m.addedIndexes t' = m.addedIndexes t := by
  have kept : (m.keptIndexes t).Perm (m.keptIndexes t') := ((same.filter _).filter _).map _
  apply List.filter_congr
  intro index _
  rw [kept.contains_eq]

/-- Tables that differ in the order of their entries are changed alike. -/
theorem reconcile_alike (valid : m.validate = .ok ()) (checked : t.validate = .ok ())
    (fields : t'.fields = t.fields) (perm : t.indexes.Perm t'.indexes)
    (distinct : (t.indexes.map fun e => (e.index, e.position)).Nodup) :
    ∃ change change', m.reconcile (some t) = .ok change ∧ m.reconcile (some t') = .ok change' ∧
      change.Alike change' := by
  have checked' : t'.validate = .ok () := by
    rw [LiveTable.validate_eq_ok_iff] at checked ⊢
    exact fun e listed => checked e (perm.mem_iff.2 listed)
  have empty : t'.isEmpty = t.isEmpty := congrArg List.isEmpty fields
  simp only [reconcile, valid, checked, checked', empty]
  cases t.isEmpty with
  | true => exact ⟨_, _, rfl, rfl, .create _⟩
  -- The column passes do not read the indexes.
  | false =>
    refine ⟨_, _, rfl, rfl, ?_⟩
    have same := LiveTable.indexColumns_of_perm distinct perm
    rw [alterClauses_eq, alterClauses_eq, columnPasses_congr fields, addedIndexes_of_perm same]
    exact .alter _ (fun c => isOfColumn_of_mem) (droppedIndexes_of_perm same)

end Model

namespace LiveTable

/-- **Indexes are put together in any listing order.**  There is one group for each index that has
an entry at a possible position, in the order of the first ones, with the columns of its entries by
position; of entries at one position the last counts.  If no position is listed twice, the order of
the entries does not count and none is lost, and plans differ at most in the order of the indexes
they drop. -/
theorem indexColumns_anyListing (t : LiveTable) :
    (t.indexColumns = t.indexNames.map fun n => (n, (t.entriesOf n).map (·.column))) ∧
    (∀ n, (t.entriesOf n).Pairwise fun a b => a.position < b.position) ∧
    (∀ n e, e ∈ t.entriesOf n ↔ e.isValid = true ∧ e.index = n ∧ ∃ before after,
      t.indexes = before ++ e :: after ∧ ∀ d ∈ after, ¬ (d.index = n ∧ d.position = e.position)) ∧
    ((t.indexes.map fun e => (e.index, e.position)).Nodup →
      (∀ n, (t.entriesOf n).Perm (t.indexes.filter fun e => e.isValid && e.index == n)) ∧
      ∀ t' : LiveTable, t.indexes.Perm t'.indexes →
        (∀ n columns, (n, columns) ∈ t'.indexColumns ↔ (n, columns) ∈ t.indexColumns) ∧
        ∀ m : Model, m.validate = .ok () → t.validate = .ok () → t'.fields = t.fields →
          ∃ change change' : TableChange, m.plan (some t) = .ok change.plan ∧
            m.plan (some t') = .ok change'.plan ∧
              change.plan.statements.Perm change'.plan.statements ∧
              change.Alike change') := by
  refine ⟨?_, t.pairwise_entriesOf, ?_, ?_⟩
  · rw [indexColumns_eq]
    simp only [columnsOf_eq]
  · intro n e
    rw [mem_entriesOf_iff, entryAt?_eq_some_iff]
    simp only [true_and]
  · intro distinct
    constructor
    · intro n
      have all := entriesOf_perm distinct n
      rw [validEntries, List.filter_filter] at all
      simpa only [Bool.and_comm] using all
    · intro t' perm
      refine ⟨fun n columns => (indexColumns_of_perm distinct perm).mem_iff.symm, ?_⟩
      intro m valid checked fields
      -- The plans are those of two alike changes.
      obtain ⟨change, change', made, made', alike⟩ :=
        Model.reconcile_alike valid checked fields perm distinct
      refine ⟨change, change', ?_, ?_, alike.statements_perm, alike⟩
      · rw [Model.plan, made]
        rfl
      · rw [Model.plan, made']
        rfl

/-- Entries in the wrong order, one at an impossible position and two at the same one. -/
example :
    indexColumns ⟨[], [⟨"pair", "b", 3⟩, ⟨"far", "c", 17⟩, ⟨"pair", "a", 1⟩, ⟨"pair", "d", 3⟩]⟩ =
    [("pair", ["a", "d"])] := by decide

open Model (account drifted)

/-- A drifted table whose entries are listed the other way round. -/
theorem indexColumns_anyListing_drifted :
    (drifted.entriesOf "email_visits").Perm
        (drifted.indexes.filter fun e => e.isValid && e.index == "email_visits") ∧
      (∀ n columns, (n, columns) ∈ indexColumns ⟨drifted.fields, drifted.indexes.reverse⟩ ↔
        (n, columns) ∈ drifted.indexColumns) ∧
      ∃ change change' : TableChange, account.plan (some drifted) = .ok change.plan ∧
        account.plan (some ⟨drifted.fields, drifted.indexes.reverse⟩) = .ok change'.plan ∧
          change.plan.statements.Perm change'.plan.statements ∧ change.Alike change' := by
  obtain ⟨-, -, -, anyListing⟩ := indexColumns_anyListing drifted
  obtain ⟨entries, reversed⟩ := anyListing (by decide)
  obtain ⟨columns, plans⟩ :=
    reversed ⟨drifted.fields, drifted.indexes.reverse⟩ (List.reverse_perm _).symm
  exact ⟨entries "email_visits", columns, plans account rfl rfl rfl⟩

end LiveTable

end TableMapper
