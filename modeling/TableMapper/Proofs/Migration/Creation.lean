import TableMapper.Proofs.Migration.Altered

/-!
# Which tables can be made

The statement that makes the table of a valid model, as the server reads it from its text.  The
columns are always distinct, but a valid model may have indexes that no table can have side by side:
the check looks at the indexes over several columns alone, and they meet the properties and their
indexes only in the statement.

- `Buildable` says what a server asks of the columns and the indexes of a new table;
- `Model.IndexesFit` says what the check leaves open;
- `createTable_buildable_iff` says that nothing else is missing.
-/

namespace TableMapper

/-! ## §1 New tables -/

/-- The name and the columns of the index that a change adds. -/
def ServerChange.addedIndex? : ServerChange → Option (String × List String)
  | .addIndex n columns => some (n, columns)
  | _ => none

/-- A table can be made that has these columns and, besides the index of its key, these indexes. -/
structure Buildable (columns : List String) (indexes : List (String × List String)) : Prop where
  distinctColumns : columns.Nodup
  distinctIndexes : (indexes.map (·.1)).Nodup
  /-- No index has the name of the key's in any letter case. -/
  notPrimary : ∀ index ∈ indexes, Text.sameLetters index.1 primaryIndex = false
  known : ∀ index ∈ indexes, ∀ column ∈ index.2, column ∈ columns

namespace Model

variable {m : Model}

/-- The columns and the indexes of a statement that makes a table. -/
def readTable? (m : Model) (s : List Char) :
    Option (List String × List (String × List String)) := do
  let changes ← m.readCreate? s
  -- The line of the id makes the index of the key, before all others.
  let _ :: indexes := changes.filterMap (·.addedIndex?) | none
  some (changes.filterMap (·.addedName?), indexes)

/-- The columns of the model's table. -/
def columnNames (m : Model) : List String := idColumn :: m.columnProperties.map (·.name)

/-- The names and the columns of the declared indexes. -/
def namedIndexes (m : Model) : List (String × List String) :=
  m.declaredIndexes.map fun index => (index.name, index.columns)

/-- A new table has the columns of the model. -/
theorem filterMap_addedName?_creation (m : Model) :
    m.creation.filterMap (·.addedName?) = m.columnNames := by
  simp [creation, columnNames, List.filterMap_map, ServerChange.addedName?, storedField,
    storedId]

/-- It has the index of its key and the declared ones. -/
theorem filterMap_addedIndex?_creation (m : Model) :
    m.creation.filterMap (·.addedIndex?) = (primaryIndex, [idColumn]) :: m.namedIndexes := by
  simp [creation, namedIndexes, List.filterMap_map, ServerChange.addedIndex?]

/-- The statement names all columns and all declared indexes. -/
theorem readTable?_createTable (valid : m.Valid) :
    m.readTable? m.createTable.text.toList = some (m.columnNames, m.namedIndexes) := by
  rw [readTable?, Sql.CreateTable.text, String.toList_ofList, readCreate?_createTable valid]
  simp only [Option.bind_eq_bind, Option.bind_some, filterMap_addedIndex?_creation,
    filterMap_addedName?_creation]

/-! ## §2 What the check leaves open -/

/-- The declared indexes fit each other and the columns. -/
structure IndexesFit (m : Model) : Prop where
  /-- No property with an index of its own is named like the index of the key. -/
  notPrimary : ∀ p ∈ m.columnProperties, p.wantsIndex = true →
    Text.sameLetters p.name primaryIndex = false
  /-- No index over several columns is named like a property with an index of its own. -/
  apart : ∀ p ∈ m.columnProperties, p.wantsIndex = true → ∀ index ∈ m.indexes, index.name ≠ p.name
  /-- The columns of an index over several columns are the id or declared. -/
  known : ∀ index ∈ m.indexes, ∀ column ∈ index.columns, m.knows column = true

/-- The declared indexes are those of properties and those over several columns. -/
theorem forall_declaredIndexes_iff {P : String → List String → Prop} :
    (∀ index ∈ m.namedIndexes, P index.1 index.2) ↔
      (∀ p ∈ m.columnProperties, p.wantsIndex = true → P p.name [p.name]) ∧
        ∀ index ∈ m.indexes, P index.name index.columns := by
  rw [namedIndexes, declaredIndexes_eq, List.forall_mem_map, List.forall_mem_append,
    List.forall_mem_map]
  simp only [List.mem_filter, and_imp, inlineIndex]

/-- The check looks only at the indexes over several columns for the name of the key's index. -/
theorem notPrimary_iff (valid : m.Valid) :
    (∀ index ∈ m.namedIndexes, Text.sameLetters index.1 primaryIndex = false) ↔
      ∀ p ∈ m.columnProperties, p.wantsIndex = true →
        Text.sameLetters p.name primaryIndex = false := by
  rw [forall_declaredIndexes_iff (P := fun n _ => Text.sameLetters n primaryIndex = false)]
  exact and_iff_left valid.indexNotPrimary

/-- The index of a property is on a column of the table. -/
theorem known_iff : (∀ index ∈ m.namedIndexes, ∀ column ∈ index.2, column ∈ m.columnNames) ↔
    ∀ index ∈ m.indexes, ∀ column ∈ index.columns, m.knows column = true := by
  rw [forall_declaredIndexes_iff (P := fun _ columns => ∀ column ∈ columns, column ∈ m.columnNames)]
  simp only [knows_iff]
  apply and_iff_right
  intro p column _ n same
  rw [List.mem_singleton.1 same]
  exact List.mem_cons_of_mem _ (List.mem_map_of_mem column)

/-- A table can be made exactly if the indexes fit, since its columns are distinct. -/
theorem buildable_iff (valid : m.Valid) :
    Buildable m.columnNames m.namedIndexes ↔ m.IndexesFit := by
  -- Both sides speak of the same list of index names.
  have names : m.namedIndexes.map (·.1) = m.declaredIndexes.map (·.name) := by
    rw [namedIndexes, List.map_map]
    rfl
  constructor
  · intro buildable
    refine ⟨(notPrimary_iff valid).1 buildable.notPrimary, ?_, known_iff.1 buildable.known⟩
    exact (nodup_declaredIndexes_iff valid).1 (names ▸ buildable.distinctIndexes)
  · intro fit
    refine ⟨valid.distinctNames, ?_, (notPrimary_iff valid).2 fit.notPrimary, known_iff.2 fit.known⟩
    rw [names]
    exact (nodup_declaredIndexes_iff valid).2 fit.apart

/-- **The table of a valid model can be made exactly if its indexes fit.**  The statement is read as
columns, the id first, that are always distinct, and as all declared indexes.  The indexes have
distinct names, none of them that of the key's index, and columns of the table exactly if no indexed
property is named like the key's index, no index over several columns is named like an indexed
property, and those indexes are on columns that the model knows. -/
theorem createTable_buildable_iff (passes : m.validate = .ok ()) :
    ∃ columns indexes, m.readTable? m.createTable.text.toList = some (columns, indexes) ∧
      columns = idColumn :: m.columnProperties.map (·.name) ∧ columns.Nodup ∧
      indexes = m.declaredIndexes.map (fun index => (index.name, index.columns)) ∧
      (Buildable columns indexes ↔ m.IndexesFit) := by
  have valid := (validate_eq_ok_iff m).1 passes
  exact ⟨_, _, readTable?_createTable valid, rfl, valid.distinctNames, rfl, buildable_iff valid⟩

/-- A model with an indexed property and an index over several columns of another name. -/
def fitting : Model :=
  let name := Property.ofType "name" .string
  ⟨"t", none, [{ name with index := some ⟨none, none⟩ }, .ofType "age" .number],
    [.ofColumns "name_age" ["name", "age"]], ⟨none, .server⟩⟩

/-- The check accepts a model whose table can be made. -/
theorem createTable_buildable_fitting :
    fitting.validate = .ok () ∧ ∃ columns indexes,
      fitting.readTable? fitting.createTable.text.toList = some (columns, indexes) ∧
      Buildable columns indexes := by
  have passes : fitting.validate = .ok () := rfl
  obtain ⟨columns, indexes, read, -, -, -, buildable⟩ := createTable_buildable_iff passes
  exact ⟨passes, columns, indexes, read, buildable.2 ⟨by decide, by decide, by decide⟩⟩

/-- The model with its index over several columns named like the indexed property. -/
def clashing : Model := { fitting with indexes := [.ofColumns "name" ["name", "age"]] }

/-- The check accepts a model whose table has two indexes of one name. -/
theorem createTable_clashing :
    clashing.validate = .ok () ∧ ∃ columns indexes,
      clashing.readTable? clashing.createTable.text.toList = some (columns, indexes) ∧
      ¬ Buildable columns indexes := by
  have passes : clashing.validate = .ok () := rfl
  have valid := (validate_eq_ok_iff clashing).1 passes
  refine ⟨passes, _, _, readTable?_createTable valid, ?_⟩
  intro buildable
  exact absurd buildable.distinctIndexes (by decide)

end Model

end TableMapper
