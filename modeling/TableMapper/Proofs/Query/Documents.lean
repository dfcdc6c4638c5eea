import TableMapper.Proofs.Query.Grammar
import TableMapper.Proofs.Value.Normal

/-!
# Condition trees as documents

A tree is written in the grammar from which it is read, and is read again from what was written.

- `Condition.toJson` and `ConditionTree.toJson` write conditions and trees;
- `Restorable` says of a tree that its names and its values can be told from the document.  How the
  disjunctions in it are named is a parameter, for they may be named in any letter case but come
  back as `or`;
- `Restorable.ofJson_toJson` reads the tree back, and `ofJson_acceptsGrammar` adds what is known of
  all documents.
-/

namespace TableMapper

/-! ## §1 Writing -/

mutual

/-- The document of a condition. -/
def Condition.toJson : Condition → Json
  | .equal v => v.toJson
  | .range low high => .object [("between", .array [low.toJson, high.toJson])]
  | .list values false => .array (values.map Value.toJson)
  | .list values true => .object [("nin", .array (values.map Value.toJson))]
  | .compare relation v => .object [(relation.operator, v.toJson)]
  | .like pattern => .object [("like", .string pattern)]
  | .or disjuncts => .array (ConditionTree.disjunctsToJson disjuncts)

def ConditionTree.entriesToJson : List (String × Condition) → List (String × Json)
  | [] => []
  | (name, c) :: rest => (name, c.toJson) :: ConditionTree.entriesToJson rest

def ConditionTree.disjunctsToJson : List (List (String × Condition)) → List Json
  | [] => []
  | tree :: rest => .object (ConditionTree.entriesToJson tree) :: ConditionTree.disjunctsToJson rest

end

/-- The document of a tree. -/
def ConditionTree.toJson (tree : ConditionTree) : Json := .object (entriesToJson tree)

mutual

/-- The condition with the disjunctions in it named `or`. -/
def Condition.renamed : Condition → Condition
  | .or disjuncts => .or (ConditionTree.renamedAll disjuncts)
  | c => c

/-- The tree with the disjunctions in it named `or`. -/
def ConditionTree.renamed : List (String × Condition) → List (String × Condition)
  | [] => []
  | (name, c) :: rest => (ConditionTree.nameOf name, c.renamed) :: ConditionTree.renamed rest

def ConditionTree.renamedAll : List (List (String × Condition)) → List (List (String × Condition))
  | [] => []
  | tree :: rest => ConditionTree.renamed tree :: ConditionTree.renamedAll rest

end

/-! ## §2 Trees that can be told from their documents -/

/-- Whether the value is neither an array nor a document. -/
def Value.isScalar : Value → Bool
  | .array _ => false
  | .json _ => false
  | _ => true

/-- The value is that of a document, in which the keys of each object differ. -/
def Value.IsRead (v : Value) : Prop := ∃ j : Json, j.DistinctKeys ∧ Value.ofJson j = v

namespace Condition

def isOr : Condition → Bool
  | .or _ => true
  | _ => false

/-- The values of the condition are those of documents, and equality is with a scalar. -/
def ReadValues : Condition → Prop
  | .equal v => v.IsRead ∧ v.isScalar = true
  | .range low high => low.IsRead ∧ high.IsRead
  | .list values _ => ∀ v ∈ values, v.IsRead
  | .compare _ v => v.IsRead
  | .like _ => True
  | .or _ => True

end Condition

namespace ConditionTree

/-- At every level of the tree the names differ, one `or` in any letter case names a disjunction and
nothing else, and values are those of documents. -/
inductive Restorable (orNames : String → Prop) : ConditionTree → Prop where
  | intro {tree : ConditionTree} (distinct : (tree.map (·.1)).Nodup)
      (once : ∀ entry ∈ tree, ∀ other ∈ tree, Text.sameLetters entry.1 orKey = true →
      Text.sameLetters other.1 orKey = true → entry.1 = other.1)
      (disjunctions : ∀ entry ∈ tree, entry.2.isOr = true → orNames entry.1)
      (fields : ∀ entry ∈ tree, entry.2.isOr = false → Text.sameLetters entry.1 orKey = false)
      (values : ∀ entry ∈ tree, entry.2.ReadValues)
      (below : ∀ entry ∈ tree, ∀ disjuncts, entry.2 = .or disjuncts →
      ∀ t ∈ disjuncts, Restorable orNames t) :
    Restorable orNames tree

/-- The names that are `or` in any letter case. -/
def OrInAnyCase (name : String) : Prop := Text.sameLetters name orKey = true

/-- The name `or`. -/
def OrExactly (name : String) : Prop := name = orKey

end ConditionTree

/-! ## §3 Values and conditions -/

/-- What leaves the elements of a list leaves the list. -/
theorem map_eq_self {α : Type} {f : α → α} {l : List α} (same : ∀ x ∈ l, f x = x) : l.map f = l :=
  (List.map_congr_left same).trans (List.map_id l)

namespace Value

variable {v : Value}

/-- A value that came out of a document comes back from its own. -/
theorem IsRead.ofJson_toJson (read : v.IsRead) : ofJson v.toJson = v := by
  obtain ⟨j, -, rfl⟩ := read
  exact ofJson_toJson_ofJson j

/-- Values of documents, written one by one. -/
theorem map_ofJson_toJson {values : List Value} (read : ∀ v ∈ values, v.IsRead) :
    (values.map toJson).map ofJson = values := by
  rw [List.map_map]
  exact map_eq_self fun v listed => (read v listed).ofJson_toJson

theorem distinctKeys_toJson_ofJson {j : Json} (distinct : j.DistinctKeys) :
    (ofJson j).toJson.DistinctKeys := by
  induction j using Json.tree with
  | null | bool | string => exact distinct
  -- A number may come back as another numeral, which still has no keys.
  | number n =>
    obtain ⟨again, document, -⟩ := exists_toJson_ofNumber n
    have numeral : (ofJson (.number n)).toJson = .number again := document
    rw [numeral]
    simp [Json.DistinctKeys, Json.parts, Json.keys]
  | array items ih =>
    rw [Json.distinctKeys_array] at distinct
    rw [ofJson_array, toJson_array, Json.distinctKeys_array, List.map_map, List.forall_mem_map]
    exact fun item listed => ih item listed (distinct item listed)
  | object entries => exact distinct

theorem IsRead.distinctKeys (read : v.IsRead) : v.toJson.DistinctKeys := by
  obtain ⟨j, distinct, rfl⟩ := read
  exact distinctKeys_toJson_ofJson distinct

/-- The document of a scalar is one. -/
theorem isScalar_toJson (scalar : v.isScalar = true) : v.toJson.isScalar = true := by
  cases v with
  | json | array => cases scalar
  | float x =>
    rw [toJson]
    split <;> rfl
  | _ => rfl

end Value

namespace Condition

variable {field : String} {c : Condition}

theorem ofJson_of_isScalar {j : Json} (scalar : j.isScalar = true) :
    ofJson field j = .ok (.equal (Value.ofJson j)) := by
  cases j with
  | array | object => cases scalar
  | _ => rfl

theorem isOr_renamed (c : Condition) : c.renamed.isOr = c.isOr := by
  cases c <;> rfl

theorem readValues_renamed : c.renamed.ReadValues ↔ c.ReadValues := by
  cases c <;> rfl

theorem renamed_of_field (notOr : c.isOr = false) : c.renamed = c := by
  cases c with
  | or => cases notOr
  | _ => rfl

/-- A condition on a field comes back. -/
theorem ofJson_toJson (notOr : c.isOr = false) (values : c.ReadValues) :
    ofJson field c.toJson = .ok c := by
  cases c with
  -- A plain value is no list and no object, so it is read as equality.
  | equal v =>
    rw [toJson, ofJson_of_isScalar (Value.isScalar_toJson values.2), values.1.ofJson_toJson]
  | range low high =>
    show Except.ok (range (.ofJson low.toJson) (.ofJson high.toJson)) = _
    rw [values.1.ofJson_toJson, values.2.ofJson_toJson]
  | list items negated =>
    cases negated with
    | false | true =>
      show Except.ok (list ((items.map Value.toJson).map Value.ofJson) _) = _
      rw [Value.map_ofJson_toJson values]
  | compare relation v =>
    have v_read : v.IsRead := values
    simp only [toJson, ofJson, ofOperator, relation?_operator, v_read.ofJson_toJson]
  | like pattern => rfl
  | or => cases notOr

/-- The document of a field's condition repeats no key. -/
theorem distinctKeys_toJson (notOr : c.isOr = false) (values : c.ReadValues) :
    c.toJson.DistinctKeys := by
  have single {operator : String} {j : Json} (distinct : j.DistinctKeys) :
      (Json.object [(operator, j)]).DistinctKeys := by
    rw [Json.distinctKeys_object]
    simpa using distinct
  have list {items : List Value} (read : ∀ v ∈ items, v.IsRead) :
      (Json.array (items.map Value.toJson)).DistinctKeys := by
    rw [Json.distinctKeys_array, List.forall_mem_map]
    exact fun v listed => (read v listed).distinctKeys
  -- An operator is the only key of its object, and values come from documents themselves.
  cases c with
  | equal v => exact values.1.distinctKeys
  | range low high =>
    apply single
    rw [Json.distinctKeys_array]
    simpa using ⟨values.1.distinctKeys, values.2.distinctKeys⟩
  | list items negated =>
    cases negated with
    | false => exact list values
    | true => exact single (list values)
  | compare relation v =>
    have read : v.IsRead := values
    exact single read.distinctKeys
  | like pattern => exact single (by simp [Json.DistinctKeys, Json.parts, Json.keys])
  | or => cases notOr

end Condition

/-! ## §4 Trees -/

namespace ConditionTree

variable {orNames : String → Prop} {tree : ConditionTree} {name : String}

theorem sameLetters_orKey : Text.sameLetters orKey orKey = true := by decide

/-- Renaming keeps whether a name is the reserved one. -/
theorem sameLetters_nameOf (name : String) :
    Text.sameLetters (nameOf name) orKey = Text.sameLetters name orKey := by
  cases named : Text.sameLetters name orKey with
  | true => rw [nameOf_of_or named, sameLetters_orKey]
  | false => rw [nameOf_of_field named, named]

theorem entriesToJson_eq_map (tree : ConditionTree) :
    entriesToJson tree = tree.map fun entry => (entry.1, entry.2.toJson) := by
  induction tree with
  | nil => rfl
  | cons entry rest ih => rw [entriesToJson, ih, List.map_cons]

theorem disjunctsToJson_eq_map (disjuncts : List ConditionTree) :
    disjunctsToJson disjuncts = disjuncts.map toJson := by
  induction disjuncts with
  | nil => rfl
  | cons tree rest ih => rw [disjunctsToJson, ih, List.map_cons, toJson]

/-- Renaming goes entry by entry. -/
theorem renamed_eq_map (tree : ConditionTree) :
    renamed tree = tree.map fun entry => (nameOf entry.1, entry.2.renamed) := by
  induction tree with
  | nil => rfl
  | cons entry rest ih => rw [renamed, ih, List.map_cons]

theorem renamedAll_eq_map (disjuncts : List ConditionTree) :
    renamedAll disjuncts = disjuncts.map renamed := by
  induction disjuncts with
  | nil => rfl
  | cons tree rest ih => rw [renamedAll, ih, List.map_cons]

/-- A single condition on a field can be told from its document. -/
theorem Restorable.ofField {c : Condition} (notOr : c.isOr = false)
    (named : Text.sameLetters name orKey = false)
    (values : c.ReadValues) : Restorable orNames [(name, c)] := by
  apply Restorable.intro
  case below =>
    intro entry listed disjuncts kind
    rw [List.mem_singleton.1 listed] at kind
    cases kind
    cases notOr
  all_goals simp [notOr, named, values]

/-- A single disjunction can be told from its document if its disjuncts can. -/
theorem Restorable.ofOr {disjuncts : List ConditionTree} (named : orNames name)
    (below : ∀ t ∈ disjuncts, Restorable orNames t) :
    Restorable orNames [(name, .or disjuncts)] := by
  -- A tree of one entry, so only what lies below it is left to show.
  apply Restorable.intro
  case below =>
    intro entry listed
    rw [List.mem_singleton.1 listed]
    intro _ same
    cases same
    exact below
  all_goals simp [named, Condition.isOr, Condition.ReadValues]

/-- **A tree comes back from its document**, with its disjunctions under the name `or`. -/
theorem Restorable.ofJson_toJson (restorable : Restorable OrInAnyCase tree) :
    ofJson tree.toJson = .ok (renamed tree) := by
  induction restorable with
  | @intro tree distinct once disjunctions fields values below ih =>
    rw [toJson, ofJson_object, entriesToJson_eq_map, renamed_eq_map, tryMap_map_eq_ok_map_iff]
    intro (name, c) listed
    rw [ofEntry_eq_ok_iff]
    -- An entry is a disjunction under the reserved name, or a field.
    cases kind : c.isOr with
    | true =>
      cases c with
      | or disjuncts =>
        have named := disjunctions _ listed rfl
        refine .inl ⟨named, _, disjuncts.map renamed, rfl, ?_, ?_⟩
        · rw [disjunctsToJson_eq_map, tryMap_map_eq_ok_map_iff]
          exact ih _ listed disjuncts rfl
        · rw [nameOf_of_or named, Condition.renamed, renamedAll_eq_map]
      | _ => cases kind
    | false =>
      have named := fields _ listed kind
      refine .inr ⟨named, c, Condition.ofJson_toJson kind (values _ listed), ?_⟩
      rw [nameOf_of_field named, Condition.renamed_of_field kind]

/-- The document is one: its keys differ. -/
theorem Restorable.distinctKeys (restorable : Restorable orNames tree) :
    tree.toJson.DistinctKeys := by
  induction restorable with
  | @intro tree distinct once disjunctions fields values below ih =>
    rw [toJson, Json.distinctKeys_object, entriesToJson_eq_map, List.map_map, List.forall_mem_map]
    refine ⟨distinct, ?_⟩
    intro (name, c) listed
    -- Only a disjunction holds further trees.
    cases c with
    | or disjuncts =>
      rw [Condition.toJson, disjunctsToJson_eq_map, Json.distinctKeys_array, List.forall_mem_map]
      exact ih _ listed disjuncts rfl
    | _ => exact Condition.distinctKeys_toJson rfl (values _ listed)

/-- The names still differ when the disjunctions are named `or`, for there was only one of that
name. -/
theorem nodup_nameOf (distinct : (tree.map (·.1)).Nodup)
    (once : ∀ entry ∈ tree, ∀ other ∈ tree, Text.sameLetters entry.1 orKey = true →
      Text.sameLetters other.1 orKey = true → entry.1 = other.1) :
    ((tree.map (·.1)).map nameOf).Nodup := by
  refine List.Nodup.map_on ?_ distinct
  intro name listed other otherListed same
  have letters : Text.sameLetters name orKey = Text.sameLetters other orKey := by
    rw [← sameLetters_nameOf, same, sameLetters_nameOf]
  -- Two names can only meet at the reserved one, which stands once.
  cases named : Text.sameLetters name orKey with
  | true =>
    obtain ⟨entry, inside, rfl⟩ := List.mem_map.1 listed
    obtain ⟨another, anotherInside, rfl⟩ := List.mem_map.1 otherListed
    exact once entry inside another anotherInside named (letters.symm.trans named)
  | false => rwa [nameOf_of_field named, nameOf_of_field (letters.symm.trans named)] at same

/-- What comes back can be told from its document, too. -/
theorem Restorable.renamed (restorable : Restorable OrInAnyCase tree) :
    Restorable OrExactly (renamed tree) := by
  induction restorable with
  | @intro tree distinct once disjunctions fields values below ih =>
    rw [renamed_eq_map]
    apply Restorable.intro
    case distinct =>
      have names := nodup_nameOf distinct once
      rwa [List.map_map] at names ⊢
    all_goals rw [List.forall_mem_map]
    -- Only disjunctions are renamed, so whether a name is an `or` stays as it was.
    case once =>
      intro entry _
      rw [List.forall_mem_map]
      intro other _ named otherNamed
      rw [sameLetters_nameOf] at named otherNamed
      exact (nameOf_of_or named).trans (nameOf_of_or otherNamed).symm
    case disjunctions =>
      intro entry listed kind
      rw [Condition.isOr_renamed] at kind
      exact nameOf_of_or (disjunctions entry listed kind)
    case fields =>
      intro entry listed kind
      rw [Condition.isOr_renamed] at kind
      rw [sameLetters_nameOf]
      exact fields entry listed kind
    case values =>
      intro entry listed
      exact Condition.readValues_renamed.2 (values entry listed)
    case below =>
      intro (name, c) listed disjuncts kind
      cases c with
      | or before =>
        cases kind
        rw [renamedAll_eq_map, List.forall_mem_map]
        exact ih _ listed before rfl
      | _ => cases kind

/-- Where the disjunctions are named `or` already, nothing is renamed. -/
theorem Restorable.renamed_eq (restorable : Restorable OrExactly tree) :
    ConditionTree.renamed tree = tree := by
  induction restorable with
  | @intro tree distinct once disjunctions fields values below ih =>
    rw [renamed_eq_map]
    apply map_eq_self
    intro (name, c) listed
    -- Renaming touches disjunctions alone, and these have their name already.
    cases kind : c.isOr with
    | true =>
      have named : name = orKey := disjunctions _ listed kind
      cases c with
      | or disjuncts =>
        have same : disjuncts.map ConditionTree.renamed = disjuncts :=
          map_eq_self (ih _ listed disjuncts rfl)
        simp only [named, nameOf_of_or sameLetters_orKey, Condition.renamed,
          renamedAll_eq_map, same]
      | _ => cases kind
    | false =>
      have named := fields _ listed kind
      simp only [nameOf_of_field named, Condition.renamed_of_field kind]

/-- **Reading accepts exactly the grammar and loses nothing.**  Every error is one of the filter,
and a tree has the names of the keys in their order.  A tree whose names and values can be told from
its document comes back from it, its disjunctions under the name `or`: it comes back as it was
exactly if they were named so. -/
theorem ofJson_acceptsGrammar :
    (∀ j, (∃ tree, ofJson j = .ok tree) ↔ Accepted j) ∧
    (∀ j e, ofJson j = .error e → ∃ fault, e = .invalidFilter fault) ∧
    (∀ entries tree, ofJson (.object entries) = .ok tree →
      tree.map (·.1) = entries.map fun entry => nameOf entry.1) ∧
    ∀ tree, Restorable OrInAnyCase tree →
      tree.toJson.DistinctKeys ∧ ofJson tree.toJson = .ok (renamed tree) ∧
        (ofJson tree.toJson = .ok tree ↔ Restorable OrExactly tree) := by
  refine ⟨exists_ofJson_iff, fun j e => invalidFilter_of_ofJson,
    fun entries tree => names_of_ofJson, ?_⟩
  intro tree restorable
  refine ⟨restorable.distinctKeys, restorable.ofJson_toJson, ?_⟩
  rw [restorable.ofJson_toJson, Except.ok.injEq]
  -- A tree that comes back as it is was renamed to itself.
  constructor
  · intro same
    have again := restorable.renamed
    rwa [same] at again
  · exact Restorable.renamed_eq

/-- A tree, its document and the tree of that. -/
theorem acceptsGrammar_of_age :
    Restorable OrInAnyCase [("Or", .or [[("age", .compare .gt (.int 18))]])] ∧
      ofJson (ConditionTree.toJson [("Or", .or [[("age", .compare .gt (.int 18))]])]) =
        .ok [("or", .or [[("age", .compare .gt (.int 18))]])] ∧
      List.map (·.1) [("or", Condition.or [[("age", .compare .gt (.int 18))]])] = ["or"] ∧
      ∃ fault, Error.invalidFilter (.whereNotObject .null) = .invalidFilter fault := by
  have read : (Value.int 18).IsRead := ⟨.number (.natural 18), by decide, rfl⟩
  have adult : Restorable OrInAnyCase [("age", .compare .gt (.int 18))] :=
    .ofField rfl (by decide) read
  have restorable : Restorable OrInAnyCase [("Or", .or [[("age", .compare .gt (.int 18))]])] :=
    .ofOr (by unfold OrInAnyCase; decide) (by simpa using adult)
  -- The four parts of the theorem, each at its own document.
  refine ⟨restorable, (ofJson_acceptsGrammar.2.2.2 _ restorable).2.1, ?_, ?_⟩
  · exact ofJson_acceptsGrammar.2.2.1
      [("OR", .array [.object [("age", .object [("gt", .number (.natural 18))])]])] _ rfl
  · exact ofJson_acceptsGrammar.2.1 .null _ rfl

/-- A disjunction that is named in capital letters comes back under another name. -/
theorem not_restored_of_capitals :
    Restorable OrInAnyCase [("OR", .or [])] ∧
      ofJson (ConditionTree.toJson [("OR", .or [])]) ≠ .ok [("OR", .or [])] := by
  constructor
  · exact .ofOr (by unfold OrInAnyCase; decide) nofun
  · intro same
    have named : ofJson (ConditionTree.toJson [("OR", .or [])]) = .ok [("or", .or [])] := rfl
    rw [named] at same
    simp at same

end ConditionTree

end TableMapper
