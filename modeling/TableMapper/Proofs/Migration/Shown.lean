import TableMapper.Proofs.Migration.UpToDate

/-!
# Tables that show a model

`Model.shownIn` is the table that shows exactly what a model declares, in the server's spelling of
types.  It agrees with the model (`Model.UpToDate`) unless the declared indexes get in each other's
way, which `Model.validate` does not rule out:

- an index with the name of the primary key's column or index is never recognised;
- an index over several columns may have the name of a property with an index of its own, and then
  no table shows both;
- an index may have more columns than a live index can.

`Model.IndexesKeep` excludes these, and `upToDate_shownIn_iff` says that nothing else has to be.
-/

namespace TableMapper

open Reconcile

namespace Model

/-! ## §1 The shown table -/

/-- The entries of an index of its own that a property has. -/
def inlineEntries (m : Model) : List IndexEntry :=
  (m.columnProperties.filter Property.wantsIndex).map fun p => ⟨p.name, p.name, 1⟩

/-- The table that shows what the model declares, with its types in the given spelling. -/
def shownIn (spelling : String → String) (m : Model) : LiveTable where
  fields := ⟨idColumn, spelling m.idKind.type, false⟩ ::
    m.columnProperties.map fun p =>
      ⟨p.name, spelling (Sql.ColumnType.ofProperty p).text, !p.isNotNull⟩
  indexes := ⟨primaryIndex, idColumn, 1⟩ ::
    (m.inlineEntries ++ m.indexes.flatMap fun index =>
      LiveTable.numbered index.name 1 index.columns)

/-- The declared indexes that a live table can show side by side. -/
structure IndexesKeep (m : Model) : Prop where
  /-- No index has more columns than a live one can. -/
  short : ∀ index ∈ m.indexes, index.columns.length ≤ maxIndexColumns
  /-- No index has the name of the primary key's column or index. -/
  free : ∀ index ∈ m.declaredIndexes, isKeyIndex index.name = false
  /-- An index over several columns with the name of an indexed property is the index of that
  property. -/
  agree : ∀ index ∈ m.indexes, ∀ p ∈ m.columnProperties, p.wantsIndex = true → p.name = index.name →
    index.columns = [index.name]

/-! ## §2 Columns -/

/-- A spelling of types that servers may choose. -/
def KeepsTypes (spelling : String → String) : Prop :=
  ∀ type, normalizeType (spelling type) = normalizeType type

variable {m : Model} {spelling : String → String}

/-- The table shows the column of each property. -/
theorem field?_shownIn (valid : m.Valid) {p : Property} (h : p ∈ m.columnProperties) :
    (m.shownIn spelling).field? p.name =
      some ⟨p.name, spelling (Sql.ColumnType.ofProperty p).text, !p.isNotNull⟩ := by
  have found := find?_eq_some_of_nodup valid.distinctColumns h
  have other : (idColumn == p.name) = false := by
    simpa using Ne.symm (name_ne_idColumn h)
  -- No column is called `id`, so the search passes the first field.
  have column : (m.columnProperties.map fun q => (⟨q.name,
      spelling (Sql.ColumnType.ofProperty q).text, !q.isNotNull⟩ : LiveField)).find?
        (·.name == p.name) = some ⟨p.name, spelling (Sql.ColumnType.ofProperty p).text,
          !p.isNotNull⟩ := by
    rw [List.find?_map]
    exact congrArg (Option.map _) found
  simp only [LiveTable.field?, shownIn, List.find?_cons, other, column]

/-- A column that takes NULL as its property says does not differ in that. -/
theorem nullabilityDiffers_isNotNull (p : Property) :
    nullabilityDiffers (!p.isNotNull) p.nullable = false := by
  unfold Property.isNotNull
  rcases p.nullable with _ | _ | _ <;> rfl

/-- A column that is shown as declared does not differ. -/
theorem columnDiffers_shownIn (keeps : KeepsTypes spelling) (p : Property) :
    columnDiffers p ⟨p.name, spelling (Sql.ColumnType.ofProperty p).text, !p.isNotNull⟩ =
      false := by
  simp [columnDiffers, nullabilityDiffers_isNotNull, keeps _]

/-! ## §3 Indexes -/

/-- The declared index of a property's own. -/
def inlineIndex (p : Property) : TableIndex :=
  ⟨p.name, [p.name], p.index.bind (·.kind), p.index.bind (·.method)⟩

/-- The indexes of properties come before those over several columns. -/
theorem declaredIndexes_eq (m : Model) :
    m.declaredIndexes = (m.columnProperties.filter Property.wantsIndex).map inlineIndex ++
      m.indexes := rfl

/-- Indexes of properties have distinct names, as properties do. -/
theorem distinct_inlineIndexes (valid : m.Valid) :
    (((m.columnProperties.filter Property.wantsIndex).map inlineIndex).map (·.name)).Nodup := by
  rw [List.map_map]
  exact nodup_map_filter _ valid.distinctColumns

/-- Only an index over several columns and one of a property can have the same name. -/
theorem nodup_declaredIndexes_iff (valid : m.Valid) : (m.declaredIndexes.map (·.name)).Nodup ↔
    ∀ p ∈ m.columnProperties, p.wantsIndex = true → ∀ index ∈ m.indexes, index.name ≠ p.name := by
  rw [declaredIndexes_eq, List.map_append, List.nodup_append]
  -- Each half is distinct already, so only a name in both can repeat.
  constructor
  · rintro ⟨-, -, apart⟩ p column wants index listed same
    have inline :
        p.name ∈ ((m.columnProperties.filter Property.wantsIndex).map inlineIndex).map (·.name) :=
      List.mem_map.2 ⟨inlineIndex p, List.mem_map_of_mem (List.mem_filter.2 ⟨column, wants⟩), rfl⟩
    exact apart _ inline _ (List.mem_map_of_mem listed) same.symm
  · intro apart
    refine ⟨distinct_inlineIndexes valid, valid.distinctIndexes, ?_⟩
    rintro _ inline _ multi same
    obtain ⟨_, made, rfl⟩ := List.mem_map.1 inline
    obtain ⟨p, found, rfl⟩ := List.mem_map.1 made
    obtain ⟨index, listed, rfl⟩ := List.mem_map.1 multi
    exact apart p (List.mem_filter.1 found).1 (List.mem_filter.1 found).2 index listed same.symm

/-- The entries of the shown table are those of the primary key and of the declared indexes. -/
theorem indexes_shownIn (m : Model) :
    (m.shownIn spelling).indexes = ⟨primaryIndex, idColumn, 1⟩ ::
      m.declaredIndexes.flatMap fun index => LiveTable.numbered index.name 1 index.columns := by
  have inline : m.inlineEntries =
      ((m.columnProperties.filter Property.wantsIndex).map inlineIndex).flatMap
      fun index => LiveTable.numbered index.name 1 index.columns := by
    rw [inlineEntries, List.map_eq_flatMap, List.flatMap_map]
    rfl
  rw [declaredIndexes_eq, List.flatMap_append, ← inline]
  rfl

/-- A name is declared for no index, for one, or for a property's own index and one over several
columns. -/
theorem declared_cases (valid : m.Valid) (n : String) :
    m.declaredIndexes.filter (·.name == n) = [] ∨
      (∃ index, m.declaredIndexes.filter (·.name == n) = [index]) ∨
      ∃ p ∈ m.columnProperties, ∃ index ∈ m.indexes,
        p.wantsIndex = true ∧ p.name = n ∧ index.name = n ∧
        m.declaredIndexes.filter (·.name == n) = [inlineIndex p, index] := by
  rw [declaredIndexes_eq, List.filter_append]
  -- Each of the two lists holds at most one index of the name.
  rcases filter_eq_nil_or_singleton (distinct_inlineIndexes valid) n
    with none | ⟨inline, listed, named, one⟩ <;>
    rcases filter_eq_nil_or_singleton valid.distinctIndexes n
      with none' | ⟨index, listed', named', one'⟩
  · exact .inl (by rw [none, none']; rfl)
  · exact .inr (.inl ⟨index, by rw [none, one']; rfl⟩)
  · exact .inr (.inl ⟨inline, by rw [one, none']; rfl⟩)
  · obtain ⟨p, found, rfl⟩ := List.mem_map.1 listed
    obtain ⟨column, wants⟩ := List.mem_filter.1 found
    exact .inr (.inr ⟨p, column, index, listed', wants, named, named', by rw [one, one']; rfl⟩)

/-- All entries of a numbered index have its name. -/
theorem filter_numbered (index : TableIndex) (n : String) :
    (LiveTable.numbered index.name 1 index.columns).filter (·.index == n) =
      if index.name == n then LiveTable.numbered index.name 1 index.columns else [] := by
  -- Every entry bears the index's name.
  split
  case isTrue same =>
    apply List.filter_eq_self.2
    intro e h
    rw [(LiveTable.mem_numbered h).1]
    exact same
  case isFalse other =>
    refine List.filter_eq_nil_iff.2 fun e h same => other ?_
    rwa [(LiveTable.mem_numbered h).1] at same

/-- The entries of a declared name are those of the indexes of that name. -/
theorem filter_flatMap_numbered (indexes : List TableIndex) (n : String) :
    (indexes.flatMap fun index => LiveTable.numbered index.name 1 index.columns).filter
      (·.index == n) =
      (indexes.filter (·.name == n)).flatMap fun index =>
        LiveTable.numbered index.name 1 index.columns := by
  induction indexes with
  | nil => rfl
  | cons index indexes ih =>
    rw [List.flatMap_cons, List.filter_append, ih, filter_numbered]
    by_cases same : index.name = n <;> simp [same]

/-- The columns that the shown table shows for a name. -/
theorem columnsOf_shownIn (checked : (m.shownIn spelling).validate = .ok ()) {n : String}
    (other : n ≠ primaryIndex) :
    (m.shownIn spelling).columnsOf n =
      (LiveTable.placed ((m.declaredIndexes.filter (·.name == n)).flatMap
      fun index => LiveTable.numbered index.name 1 index.columns)).map (·.2) := by
  rw [LiveTable.columnsOf, LiveTable.validEntries_of_validate checked, indexes_shownIn,
    List.filter_cons_of_neg (by simpa using Ne.symm other), filter_flatMap_numbered]

/-- A declared index has a column. -/
theorem columns_ne_nil_of_declared (valid : m.Valid) {index : TableIndex}
    (h : index ∈ m.declaredIndexes) :
    index.columns ≠ [] := by
  rw [declaredIndexes_eq, List.mem_append] at h
  rcases h with inline | multi
  · obtain ⟨p, -, rfl⟩ := List.mem_map.1 inline
    exact List.cons_ne_nil _ _
  · exact valid.indexHasColumns index multi

/-- The names of the shown table's indexes are the declared ones, besides that of the primary
key. -/
theorem mem_indexNames_shownIn (valid : m.Valid) (checked : (m.shownIn spelling).validate = .ok ())
    {n : String} (other : n ≠ primaryIndex) :
    n ∈ (m.shownIn spelling).indexNames ↔ ∃ index ∈ m.declaredIndexes, index.name = n := by
  have allValid := LiveTable.validate_eq_ok_iff.1 checked
  rw [LiveTable.mem_indexNames]
  constructor
  · rintro ⟨e, listed, -, named⟩
    rw [indexes_shownIn] at listed
    rcases List.mem_cons.1 listed with rfl | listed
    · exact absurd named.symm other
    · obtain ⟨index, declared, entry⟩ := List.mem_flatMap.1 listed
      exact ⟨index, declared, (LiveTable.mem_numbered entry).1.symm.trans named⟩
  · rintro ⟨index, declared, rfl⟩
    -- An index has a first column, which the table shows at position 1.
    obtain ⟨column, columns, some⟩ :=
      List.exists_cons_of_ne_nil (columns_ne_nil_of_declared valid declared)
    have listed : ⟨index.name, column, 1⟩ ∈ (m.shownIn spelling).indexes := by
      rw [indexes_shownIn]
      refine List.mem_cons_of_mem _ (List.mem_flatMap.2 ⟨index, declared, ?_⟩)
      rw [some]
      exact List.mem_cons_self ..
    exact ⟨_, listed, allValid _ listed, rfl⟩

/-- The table passes if the indexes over several columns are short enough. -/
theorem validate_shownIn_iff (m : Model) :
    (m.shownIn spelling).validate = .ok () ↔
      ∀ index ∈ m.indexes, index.columns.length ≤ maxIndexColumns := by
  rw [LiveTable.validate_eq_ok_iff]
  constructor
  · intro all index declared
    apply (LiveTable.forall_isValid_numbered_iff index.name index.columns).1
    intro e entry
    exact all e (List.mem_cons_of_mem _
      (List.mem_append_right _ (List.mem_flatMap.2 ⟨index, declared, entry⟩)))
  · intro short e listed
    -- The entries of the primary key and of single properties are at position 1.
    rcases List.mem_cons.1 listed with rfl | listed
    · rfl
    rcases List.mem_append.1 listed with inline | multi
    · obtain ⟨p, -, rfl⟩ := List.mem_map.1 inline
      rfl
    · obtain ⟨index, declared, entry⟩ := List.mem_flatMap.1 multi
      exact (LiveTable.forall_isValid_numbered_iff index.name index.columns).2
        (short index declared) e entry

/-- A declared name is recognised if the first index of the name has the columns that the table
shows. -/
theorem isDeclared_iff {n : String} {columns : List String} {index : TableIndex}
    {others : List TableIndex}
    (declared : m.declaredIndexes.filter (·.name == n) = index :: others) :
    isDeclared m.declaredIndexes (n, columns) = true ↔ index.columns = columns := by
  have first : m.declaredIndexes.find? (·.name == n) = some index := by
    rw [← List.head?_filter, declared]
    rfl
  simp [isDeclared, first]

/-- Of two indexes of one name, the table shows the one over several columns. -/
theorem columnsOf_shownIn_of_two (valid : m.Valid)
    (checked : (m.shownIn spelling).validate = .ok ()) {n : String} (other : n ≠ primaryIndex)
    {p : Property} {index : TableIndex} (h : index ∈ m.indexes)
    (two : m.declaredIndexes.filter (·.name == n) = [inlineIndex p, index]) :
    (m.shownIn spelling).columnsOf n = index.columns := by
  rw [columnsOf_shownIn checked other, two]
  -- Both have an entry at position 1, and the later one wins.
  have shown := LiveTable.map_snd_placed_cons_numbered (e := ⟨p.name, p.name, 1⟩) rfl index.name
    (valid.indexHasColumns index h)
  simpa [inlineIndex, LiveTable.numbered] using shown

/-- What the shown table shows for a declared name is recognised if the indexes keep. -/
theorem isDeclared_shownIn (valid : m.Valid) (keep : m.IndexesKeep)
    (checked : (m.shownIn spelling).validate = .ok ()) {index : TableIndex}
    (h : index ∈ m.declaredIndexes) :
    isDeclared m.declaredIndexes (index.name, (m.shownIn spelling).columnsOf index.name) =
      true := by
  obtain ⟨other, -⟩ := isKeyIndex_eq_false_iff.1 (keep.free index h)
  -- A name has no declared index, one, or an inline and a multi-column one.
  rcases declared_cases valid index.name with
    none | ⟨one, single⟩ | ⟨p, column, multi, listed, wants, named, named', two⟩
  · have listed : index ∈ m.declaredIndexes.filter (·.name == index.name) :=
      List.mem_filter.2 ⟨h, beq_self_eq_true _⟩
    rw [none] at listed
    cases listed
  · rw [isDeclared_iff single, columnsOf_shownIn checked other, single]
    simp [LiveTable.map_snd_placed_numbered]
  · rw [isDeclared_iff two, columnsOf_shownIn_of_two valid checked other listed two,
      keep.agree multi listed p column wants (named.trans named'.symm)]
    simp [inlineIndex, named, named']

/-! ## §4 Agreement -/

/-- Only indexes that keep are all recognised. -/
theorem indexesKeep_of_upToDate_shownIn (valid : m.Valid)
    (checked : (m.shownIn spelling).validate = .ok ())
    (upToDate : m.UpToDate (m.shownIn spelling)) : m.IndexesKeep := by
  refine ⟨(validate_shownIn_iff m).1 checked, fun index h => (upToDate.present index h).1, ?_⟩
  intro index h p column wants named
  have declared : index ∈ m.declaredIndexes := List.mem_append_right _ h
  obtain ⟨free, columns, listed, shown⟩ := upToDate.present index declared
  obtain ⟨other, -⟩ := isKeyIndex_eq_false_iff.1 free
  -- The property's own index is declared first, so the table must show its column.
  have inline : inlineIndex p ∈ m.declaredIndexes.filter (·.name == index.name) :=
    List.mem_filter.2
      ⟨List.mem_append_left _ (List.mem_map_of_mem (List.mem_filter.2 ⟨column, wants⟩)),
      beq_iff_eq.2 named⟩
  have multi : index ∈ m.declaredIndexes.filter (·.name == index.name) :=
    List.mem_filter.2 ⟨declared, beq_self_eq_true _⟩
  rcases declared_cases valid index.name
    with none | ⟨one, single⟩ | ⟨p', -, index', h', -, named', -, two⟩
  · rw [none] at multi
    cases multi
  · rw [single, List.mem_singleton] at inline multi
    rw [multi, ← inline, inlineIndex]
  · -- The table shows the index over several columns, and recognises the one of the property.
    rw [isDeclared_iff two] at shown
    obtain ⟨-, rfl⟩ := LiveTable.mem_indexColumns.1 listed
    rw [columnsOf_shownIn_of_two valid checked other h' two] at shown
    rw [two] at multi
    rcases List.mem_pair.1 multi with rfl | rfl
    · rfl
    · rw [← shown, inlineIndex, named']

/-- If the indexes keep, the shown table agrees with its model. -/
theorem upToDate_shownIn_of_indexesKeep (keeps : KeepsTypes spelling) (valid : m.Valid)
    (checked : (m.shownIn spelling).validate = .ok ()) (keep : m.IndexesKeep) :
    m.UpToDate (m.shownIn spelling) where
  idType field found := by
    obtain rfl : ⟨idColumn, spelling m.idKind.type, false⟩ = field := by
      simpa [LiveTable.field?, shownIn] using found
    exact keeps _
  column p column := ⟨_, field?_shownIn valid column, columnDiffers_shownIn keeps p⟩
  known field listed := by
    rcases List.mem_cons.1 listed with rfl | listed
    · rfl
    · obtain ⟨p, column, rfl⟩ := List.mem_map.1 listed
      exact knows_of_mem_columnProperties column
  declared := by
    rintro ⟨n, columns⟩ listed free
    obtain ⟨other, -⟩ := isKeyIndex_eq_false_iff.1 free
    obtain ⟨named, rfl⟩ := LiveTable.mem_indexColumns.1 listed
    obtain ⟨index, declared, rfl⟩ := (mem_indexNames_shownIn valid checked other).1 named
    exact isDeclared_shownIn valid keep checked declared
  present index declared := by
    have free := keep.free index declared
    -- An index of the key would not be recognised.
    obtain ⟨other, -⟩ := isKeyIndex_eq_false_iff.1 free
    have named := (mem_indexNames_shownIn valid checked other).2 ⟨index, declared, rfl⟩
    exact ⟨free, _, LiveTable.mem_indexColumns.2 ⟨named, rfl⟩,
      isDeclared_shownIn valid keep checked declared⟩

/-- A shown table that passes agrees with its model exactly if the declared indexes keep. -/
theorem upToDate_shownIn_iff (keeps : KeepsTypes spelling) (valid : m.Valid)
    (checked : (m.shownIn spelling).validate = .ok ()) :
    m.UpToDate (m.shownIn spelling) ↔ m.IndexesKeep :=
  ⟨indexesKeep_of_upToDate_shownIn valid checked,
    upToDate_shownIn_of_indexesKeep keeps valid checked⟩

end Model

end TableMapper
