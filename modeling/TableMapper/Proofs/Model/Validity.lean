import TableMapper.Model.Basic
import TableMapper.Proofs.Names

/-!
# Valid models

What `Model.validate` accepts, as a proposition: `Model.Valid` names each fact that the check
establishes.
-/

namespace TableMapper.Model

/-! ## §1 The check -/

/-- A model that passes the check. -/
structure Valid (m : Model) : Prop where
  named : m.name ≠ ""
  propertyNamed : ∀ p ∈ m.properties, p.name ≠ ""
  distinctProperties : (m.properties.map (·.name)).Nodup
  indexHasColumns : ∀ index ∈ m.indexes, index.columns ≠ []
  indexNotPrimary : ∀ index ∈ m.indexes, Text.sameLetters index.name primaryIndex = false
  distinctIndexes : (m.indexes.map (·.name)).Nodup

/-- Properties pass if they have names, none of them seen and no two the same. -/
theorem checkProperties_eq_ok_iff (model : String) (seen : List String)
    (properties : List Property) :
    checkProperties model seen properties = .ok () ↔
      (∀ p ∈ properties, p.name ≠ "" ∧ p.name ∉ seen) ∧ (properties.map (·.name)).Nodup := by
  induction properties generalizing seen with
  | nil => simp [checkProperties]
  | cons p properties ih =>
    -- The checks of one property, in the order they are made.
    by_cases unnamed : p.name = ""
    · simp [checkProperties, unnamed]
    · by_cases repeated : p.name ∈ seen
      · simp [checkProperties, unnamed, repeated]
      · simp only [checkProperties, unnamed, repeated, if_false, ih, List.mem_cons, List.map_cons,
          List.nodup_cons, List.mem_map, not_or, forall_eq_or_imp]
        constructor
        · rintro ⟨others, distinct⟩
          refine ⟨⟨⟨unnamed, id⟩, fun q h => ⟨(others q h).1, (others q h).2.2⟩⟩, ?_, distinct⟩
          rintro ⟨q, h, same⟩
          exact (others q h).2.1 same
        · rintro ⟨⟨-, others⟩, fresh, distinct⟩
          exact ⟨fun q h => ⟨(others q h).1, fun same => fresh ⟨q, h, same⟩, (others q h).2⟩,
            distinct⟩

/-- Indexes pass if they have columns, and names that are not reserved, not seen and no two the
same. -/
theorem checkIndexes_eq_ok_iff (model : String) (seen : List String) (indexes : List TableIndex) :
    checkIndexes model seen indexes = .ok () ↔
      (∀ index ∈ indexes, index.columns ≠ [] ∧ Text.sameLetters index.name primaryIndex = false ∧
        index.name ∉ seen) ∧ (indexes.map (·.name)).Nodup := by
  induction indexes generalizing seen with
  | nil => simp [checkIndexes]
  | cons index indexes ih =>
    by_cases empty : index.columns = []
    · simp [checkIndexes, empty]
    · cases reserved : Text.sameLetters index.name primaryIndex with
      | true => simp [checkIndexes, empty, reserved]
      | false =>
        by_cases repeated : index.name ∈ seen
        · simp [checkIndexes, empty, reserved, repeated]
        · simp only [checkIndexes, List.isEmpty_iff, empty, reserved, repeated, if_false, ih,
            List.mem_cons, List.map_cons, List.nodup_cons, List.mem_map, not_or, forall_eq_or_imp,
            Bool.false_eq_true]
          -- The later indexes must not have this one's name, which is now among those seen.
          constructor
          · rintro ⟨others, distinct⟩
            refine ⟨⟨⟨empty, trivial, id⟩, fun i h =>
              ⟨(others i h).1, (others i h).2.1, (others i h).2.2.2⟩⟩, ?_, distinct⟩
            rintro ⟨i, h, same⟩
            exact (others i h).2.2.1 same
          · rintro ⟨⟨-, others⟩, fresh, distinct⟩
            exact ⟨fun i h => ⟨(others i h).1, (others i h).2.1, fun same => fresh ⟨i, h, same⟩,
              (others i h).2.2⟩, distinct⟩

/-- **The check accepts exactly the valid models.** -/
theorem validate_eq_ok_iff (m : Model) : m.validate = .ok () ↔ m.Valid := by
  unfold validate
  by_cases unnamed : m.name = ""
  · simp only [unnamed, if_true]
    exact ⟨nofun, fun valid => absurd unnamed valid.named⟩
  · simp only [unnamed, if_false]
    have properties := checkProperties_eq_ok_iff m.name [] m.properties
    have indexes := checkIndexes_eq_ok_iff m.name [] m.indexes
    -- Indexes are looked at only if the properties pass.
    cases checked : checkProperties m.name [] m.properties with
    | error e =>
      refine ⟨nofun, fun valid => ?_⟩
      have passes :=
        properties.2 ⟨fun p h => ⟨valid.propertyNamed p h, by simp⟩, valid.distinctProperties⟩
      rw [checked] at passes
      cases passes
    | ok _ =>
      obtain ⟨named, distinct⟩ := properties.1 checked
      refine indexes.trans ⟨fun passes => ?_, fun valid => ?_⟩
      · exact ⟨unnamed, fun p h => (named p h).1, distinct, fun i h => (passes.1 i h).1,
          fun i h => (passes.1 i h).2.1, passes.2⟩
      · exact ⟨fun i h => ⟨valid.indexHasColumns i h, valid.indexNotPrimary i h, by simp⟩,
          valid.distinctIndexes⟩

/-! ## §2 Columns -/

variable {m : Model}

/-- A property is found by its name. -/
theorem Valid.property?_eq_some (valid : m.Valid) {p : Property} (h : p ∈ m.properties) :
    m.property? p.name = some p :=
  find?_eq_some_of_nodup valid.distinctProperties h

/-- No two columns of properties have one name. -/
theorem Valid.distinctColumns (valid : m.Valid) : (m.columnProperties.map (·.name)).Nodup :=
  nodup_map_filter _ valid.distinctProperties

/-- A property with a column is one of the properties. -/
theorem mem_properties {p : Property} (h : p ∈ m.columnProperties) : p ∈ m.properties :=
  (List.mem_filter.1 h).1

/-- A column of a property is not the id's. -/
theorem name_ne_idColumn {p : Property} (h : p ∈ m.columnProperties) : p.name ≠ idColumn := by
  simpa using (List.mem_filter.1 h).2

/-- The columns of the table, the id first, have different names. -/
theorem Valid.distinctNames (valid : m.Valid) :
    (idColumn :: m.columnProperties.map (·.name)).Nodup := by
  refine List.nodup_cons.2 ⟨fun listed => ?_, valid.distinctColumns⟩
  obtain ⟨p, column, named⟩ := List.mem_map.1 listed
  exact name_ne_idColumn column named

/-- The model knows the columns of its properties. -/
theorem knows_of_mem_columnProperties {p : Property} (h : p ∈ m.columnProperties) :
    m.knows p.name = true := by
  simp only [knows, property?, Bool.or_eq_true, List.find?_isSome]
  exact .inr ⟨p, mem_properties h, by simp⟩

/-- A column that the model knows is the id's or that of a property. -/
theorem exists_columnProperty_of_knows {n : String} (known : m.knows n = true)
    (other : n ≠ idColumn) :
    ∃ p ∈ m.columnProperties, p.name = n := by
  rcases Bool.or_eq_true_iff.1 known with id | declared
  · exact absurd (beq_iff_eq.1 id) other
  · obtain ⟨p, found⟩ := Option.isSome_iff_exists.1 declared
    have named : p.name = n := by simpa using List.find?_some found
    refine ⟨p, List.mem_filter.2 ⟨List.mem_of_find?_eq_some found, ?_⟩, named⟩
    simpa [named] using other

/-- These are all that it knows. -/
theorem knows_iff {n : String} :
    m.knows n = true ↔ n ∈ idColumn :: m.columnProperties.map (·.name) := by
  rw [List.mem_cons, List.mem_map]
  constructor
  · intro known
    -- The id column is known without being declared.
    by_cases same : n = idColumn
    · exact .inl same
    · exact .inr (exists_columnProperty_of_knows known same)
  · rintro (rfl | ⟨p, column, rfl⟩)
    · rfl
    · exact knows_of_mem_columnProperties column

end TableMapper.Model
