import Mathlib.Data.List.Induction
import TableMapper.Migration.LiveTable
import TableMapper.Proofs.Names

/-!
# The indexes of a live table

What `LiveTable.indexColumns` says of entries listed in any order.

- `indexNames` are the names of the indexes, in the order in which they are first listed;
- `columnsOf` are the columns of one index, and depend on the entries of that index alone;
- `indexColumns_eq` puts the two together.

Entries that number the columns of an index from 1 are put together to these columns
(`placed_numbered`).
-/

namespace TableMapper.LiveTable

/-! ## §1 Entries of one index -/

/-- Columns put at the positions of their entries, one entry after another. -/
def placed (entries : List IndexEntry) : List (Nat × String) :=
  entries.foldl (fun columns e => placeColumn e.position e.column columns) []

/-- The last entry is placed last. -/
theorem placed_append_singleton (entries : List IndexEntry) (e : IndexEntry) :
    placed (entries ++ [e]) = placeColumn e.position e.column (placed entries) := by
  simp [placed]

/-- A column at a position behind all others is put last. -/
theorem placeColumn_of_lt {position : Nat} {column : String} {columns : List (Nat × String)}
    (behind : ∀ c ∈ columns, c.1 < position) :
    placeColumn position column columns = columns ++ [(position, column)] := by
  induction columns with
  | nil => rfl
  | cons c columns ih =>
    have after := behind c (List.mem_cons_self ..)
    have others := ih fun d h => behind d (List.mem_cons_of_mem _ h)
    simp [placeColumn, Nat.not_lt.2 (Nat.le_of_lt after), Nat.ne_of_gt after, others]

/-- The entries of an index whose columns are listed in order, from position `first`. -/
def numbered (index : String) (first : Nat) : List String → List IndexEntry
  | [] => []
  | column :: columns => ⟨index, column, first⟩ :: numbered index (first + 1) columns

/-- The last column has the last number. -/
theorem numbered_append_singleton (index : String) (first : Nat) (columns : List String)
    (column : String) :
    numbered index first (columns ++ [column]) =
      numbered index first columns ++ [⟨index, column, first + columns.length⟩] := by
  induction columns generalizing first with
  | nil => rfl
  | cons c columns ih =>
    simp only [List.cons_append, numbered, ih, List.length_cons]
    rw [Nat.add_right_comm, Nat.add_assoc]

/-- Every numbered entry belongs to the index, at one of the positions from the first one. -/
theorem mem_numbered {index : String} {first : Nat} {columns : List String} {e : IndexEntry}
    (h : e ∈ numbered index first columns) :
    e.index = index ∧ e.column ∈ columns ∧ first ≤ e.position ∧
      e.position < first + columns.length := by
  induction columns generalizing first with
  | nil => cases h
  | cons c columns ih =>
    rcases List.mem_cons.1 h with rfl | later
    · simp
    · obtain ⟨index, column, low, high⟩ := ih later
      refine ⟨index, List.mem_cons_of_mem _ column, ?_, ?_⟩
      · omega
      · simp only [List.length_cons]
        omega

/-- Numbered entries are placed in their order. -/
theorem placed_numbered (index : String) (columns : List String) :
    placed (numbered index 1 columns) = (columns.zipIdx 1).map Prod.swap := by
  -- From the end, as positions are placed one after the other.
  induction columns using List.reverseRecOn with
  | nil => rfl
  | append_singleton columns column ih =>
    rw [numbered_append_singleton, placed_append_singleton, ih, placeColumn_of_lt]
    · simp [List.zipIdx_append]
    · intro c h
      obtain ⟨d, found, rfl⟩ := List.mem_map.1 h
      have bound := List.snd_lt_of_mem_zipIdx found
      simpa [Nat.add_comm] using bound

/-- An entry is written over by one at the same position. -/
theorem placed_cons_cons_of_position {e f : IndexEntry} (same : e.position = f.position)
    (entries : List IndexEntry) : placed (e :: f :: entries) = placed (f :: entries) := by
  simp [placed, placeColumn, same]

/-- So their columns are those that were numbered. -/
theorem map_snd_placed_numbered (index : String) (columns : List String) :
    (placed (numbered index 1 columns)).map (·.2) = columns := by
  rw [placed_numbered, List.map_map]
  simp [Function.comp_def]

/-- Numbered columns after another entry at the first position are those that were numbered. -/
theorem map_snd_placed_cons_numbered {e : IndexEntry} (first : e.position = 1) (index : String)
    {columns : List String} (nonempty : columns ≠ []) :
    (placed (e :: numbered index 1 columns)).map (·.2) = columns := by
  obtain ⟨c, columns, rfl⟩ := List.exists_cons_of_ne_nil nonempty
  have overwritten := placed_cons_cons_of_position (e := e) (f := ⟨index, c, 1⟩) first
    (numbered index 2 columns)
  exact (congrArg (List.map (·.2)) overwritten).trans (map_snd_placed_numbered index (c :: columns))

/-! ## §2 Groups -/

/-- The entries that count. -/
def validEntries (t : LiveTable) : List IndexEntry := t.indexes.filter (·.isValid)

/-- The names of the indexes, in the order in which they are first listed. -/
def indexNames (t : LiveTable) : List String := (t.validEntries.map (·.index)).eraseDups

/-- The columns of an index, by position. -/
def columnsOf (t : LiveTable) (index : String) : List String :=
  (placed (t.validEntries.filter (·.index == index))).map (·.2)

/-- The groups of entries, one after another. -/
def groupsOf (entries : List IndexEntry) : List (String × List (Nat × String)) :=
  entries.foldl (fun groups e => placeEntry e groups) []

/-- An entry of an index that has a group changes that group alone. -/
theorem placeEntry_of_mem {e : IndexEntry} {names : List String} {f : String → List (Nat × String)}
    (distinct : names.Nodup) (known : e.index ∈ names) :
    placeEntry e (names.map fun n => (n, f n)) =
      names.map fun n =>
        (n, if n = e.index then placeColumn e.position e.column (f n) else f n) := by
  induction names with
  | nil => cases known
  | cons n names ih =>
    obtain ⟨fresh, distinct⟩ := List.nodup_cons.1 distinct
    by_cases same : n = e.index
    · -- The first group is the one, and no later group is.
      have others : ∀ k ∈ names, k ≠ e.index := by
        rintro k h rfl
        exact fresh (same ▸ h)
      simp only [List.map_cons, placeEntry, same, if_true]
      congr 1
      apply List.map_congr_left
      intro k h
      rw [if_neg (others k h)]
    · have later := (List.mem_cons.1 known).resolve_left (Ne.symm same)
      simp [placeEntry, same, ih distinct later]

/-- An entry of a new index makes a group that comes last. -/
theorem placeEntry_of_not_mem {e : IndexEntry} {names : List String}
    {f : String → List (Nat × String)} (fresh : e.index ∉ names) :
    placeEntry e (names.map fun n => (n, f n)) =
      (names.map fun n => (n, f n)) ++ [(e.index, [(e.position, e.column)])] := by
  induction names with
  | nil => rfl
  | cons n names ih =>
    have other : e.index ≠ n := fun same => fresh (same ▸ List.mem_cons_self ..)
    have others := ih fun later => fresh (List.mem_cons_of_mem _ later)
    simp [placeEntry, Ne.symm other, others]

/-- The group of each index is made from the entries of that index alone. -/
theorem groupsOf_eq (entries : List IndexEntry) :
    groupsOf entries = (entries.map (·.index)).eraseDups.map fun n =>
      (n, placed (entries.filter (·.index == n))) := by
  induction entries using List.reverseRecOn with
  | nil => rfl
  | append_singleton entries e ih =>
    have step : groupsOf (entries ++ [e]) = placeEntry e (groupsOf entries) := by
      simp [groupsOf]
    rw [step, ih, List.map_append, List.map_singleton, eraseDups_append_singleton]
    split
    case isTrue known =>
      -- The index has a group, which the entry joins.
      rw [placeEntry_of_mem (nodup_eraseDups _) (List.mem_eraseDups.2 known)]
      apply List.map_congr_left
      intro n _
      by_cases same : n = e.index
      · simp [same, placed_append_singleton]
      · simp [same, Ne.symm same]
    case isFalse fresh =>
      -- The entry is the first of its index; the groups of the others are left alone.
      rw [placeEntry_of_not_mem (fun listed => fresh (List.mem_eraseDups.1 listed)),
        List.map_append]
      congr 1
      · apply List.map_congr_left
        intro n listed
        have other : e.index ≠ n := fun same => fresh (same ▸ List.mem_eraseDups.1 listed)
        simp [other]
      · have noEntry : entries.filter (·.index == e.index) = [] := by
          refine List.filter_eq_nil_iff.2 fun d found same => fresh ?_
          exact List.mem_map.2 ⟨d, found, by simpa using same⟩
        simp [noEntry, placed, placeColumn]

/-- **Indexes are listed in the order of their first entries, each with its own columns.** -/
theorem indexColumns_eq (t : LiveTable) :
    t.indexColumns = t.indexNames.map fun n => (n, t.columnsOf n) := by
  show (groupsOf t.validEntries).map (fun group => (group.1, group.2.map (·.2))) = _
  rw [groupsOf_eq, List.map_map]
  rfl

@[simp]
theorem mem_indexNames {t : LiveTable} {n : String} :
    n ∈ t.indexNames ↔ ∃ e ∈ t.indexes, e.isValid = true ∧ e.index = n := by
  simp [indexNames, validEntries, List.mem_eraseDups, and_assoc]

/-- An index is listed with its columns if it has an entry that counts. -/
theorem mem_indexColumns {t : LiveTable} {n : String} {columns : List String} :
    (n, columns) ∈ t.indexColumns ↔ n ∈ t.indexNames ∧ columns = t.columnsOf n := by
  rw [indexColumns_eq, List.mem_map]
  constructor
  · rintro ⟨k, listed, same⟩
    obtain ⟨rfl, rfl⟩ := Prod.mk.inj same
    exact ⟨listed, rfl⟩
  · rintro ⟨listed, rfl⟩
    exact ⟨n, listed, rfl⟩

/-- A table passes if each of its entries does. -/
theorem validate_eq_ok_iff {t : LiveTable} :
    t.validate = .ok () ↔ ∀ e ∈ t.indexes, e.isValid = true := by
  -- The entries are checked from the first to the last.
  have all (entries : List IndexEntry) :
      validateEntries entries = .ok () ↔ ∀ e ∈ entries, e.isValid = true := by
    induction entries with
    | nil => simp [validateEntries]
    | cons e entries ih =>
      cases valid : e.isValid <;> simp [validateEntries, IndexEntry.validate, valid, ih]
  exact all t.indexes

/-- In a table that passes its check, all entries count. -/
theorem validEntries_of_validate {t : LiveTable} (h : t.validate = .ok ()) :
    t.validEntries = t.indexes :=
  List.filter_eq_self.2 (validate_eq_ok_iff.1 h)

/-- Numbered entries pass if they are few enough. -/
theorem forall_isValid_numbered_iff (index : String) (columns : List String) :
    (∀ e ∈ numbered index 1 columns, e.isValid = true) ↔ columns.length ≤ maxIndexColumns := by
  constructor
  · intro all
    -- The last entry has the highest position.
    rcases List.eq_nil_or_concat columns with rfl | ⟨init, last, rfl⟩
    · exact Nat.zero_le _
    · rw [List.concat_eq_append, numbered_append_singleton] at all
      have final := all _ (List.mem_append_right _ (List.mem_singleton_self _))
      simp only [IndexEntry.isValid, decide_eq_true_eq] at final
      simp only [List.concat_eq_append, List.length_append, List.length_singleton]
      omega
  · intro short e listed
    obtain ⟨-, -, low, high⟩ := mem_numbered listed
    simp only [IndexEntry.isValid, decide_eq_true_eq]
    omega

end TableMapper.LiveTable
