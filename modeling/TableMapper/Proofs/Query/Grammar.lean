import Mathlib.Data.List.Nodup
import TableMapper.Proofs.Json.Nesting
import TableMapper.Proofs.TryMap
import TableMapper.Query.Condition

/-!
# The grammar of condition trees

Which documents are condition trees, told from the documents alone.

- `Condition.Accepted` is what a field may hold: null and scalars, arrays, `{}`, and objects with
  one operator;
- `ConditionTree.Accepted` is what a tree may hold: such conditions, and arrays of trees under `or`;
- `ConditionTree.exists_ofJson_iff` says that these documents are read, and
  `invalidFilter_of_ofJson` and `names_of_ofJson` say what the errors and the trees are.
-/

namespace TableMapper

/-! ## §1 What a field may hold -/

/-- Null, a truth value, a number or a text. -/
def Json.isScalar : Json → Bool
  | .array _ => false
  | .object _ => false
  | _ => true

/-- The word for a relation. -/
def Relation.operator : Relation → String
  | .gt => "gt"
  | .gte => "gte"
  | .lt => "lt"
  | .lte => "lte"
  | .neq => "neq"

namespace Condition

/-- The documents that are a condition on a field. -/
inductive Accepted : Json → Prop where
  | scalar {j : Json} (scalar : j.isScalar = true) : Accepted j
  | list (items : List Json) : Accepted (.array items)
  | nothing : Accepted (.object [])
  | compare (relation : Relation) (operand : Json) :
    Accepted (.object [(relation.operator, operand)])
  | inq (operand : Json) : Accepted (.object [("inq", operand)])
  | nin (operand : Json) : Accepted (.object [("nin", operand)])
  | between (low high : Json) : Accepted (.object [("between", .array [low, high])])
  | like (pattern : String) : Accepted (.object [("like", .string pattern)])

variable {field operator : String} {operand j : Json} {e : Error}

/-- The word of a relation is read as the relation. -/
theorem relation?_operator (relation : Relation) : relation? relation.operator = some relation := by
  cases relation <;> rfl

theorem eq_operator_of_relation? {relation : Relation} (h : relation? operator = some relation) :
    operator = relation.operator := by
  unfold relation? at h
  repeat' split at h
  all_goals cases h
  all_goals assumption

/-- An operator makes a condition of its operand exactly if the two are in the grammar. -/
theorem exists_ofOperator_iff :
    (∃ c, ofOperator field operator operand = .ok c) ↔
      Accepted (.object [(operator, operand)]) := by
  constructor
  · intro ⟨c, read⟩
    unfold ofOperator at read
    -- Relations take any operand, as do the two memberships; only two operators look at the form of
    -- theirs.
    split at read
    case h_1 relation known =>
      rw [eq_operator_of_relation? known]
      exact .compare relation operand
    case h_2 =>
      split_ifs at read with between inq nin like
      · subst between
        split at read
        case h_1 low high => exact .between low high
        case h_2 => cases read
      · subst inq
        exact .inq operand
      · subst nin
        exact .nin operand
      · subst like
        split at read
        case h_1 pattern => exact .like pattern
        case h_2 => cases read
  · intro accepted
    cases accepted with
    | scalar scalar => cases scalar
    | compare relation =>
      refine ⟨.compare relation (Value.ofJson operand), ?_⟩
      simp only [ofOperator, relation?_operator]
    | inq | nin | between | like => exact ⟨_, rfl⟩

/-- A document under a field is read exactly if the grammar accepts it. -/
theorem exists_ofJson_iff : (∃ c, ofJson field j = .ok c) ↔ Accepted j := by
  -- Only an object can be a tree.
  cases j with
  | null | bool | number | string => exact iff_of_true ⟨_, rfl⟩ (.scalar rfl)
  | array items => exact iff_of_true ⟨_, rfl⟩ (.list items)
  | object entries =>
    match entries with
    | [] => exact iff_of_true ⟨_, rfl⟩ .nothing
    | [(operator, operand)] => exact exists_ofOperator_iff
    | _ :: _ :: _ =>
      -- Two operators at once are in no clause of the grammar.
      refine iff_of_false ?_ ?_
      · intro ⟨c, read⟩
        cases read
      · intro accepted
        cases accepted with
        | scalar scalar => cases scalar

theorem invalidFilter_of_ofOperator (h : ofOperator field operator operand = .error e) :
    ∃ fault, e = .invalidFilter fault := by
  unfold ofOperator at h
  repeat' split at h
  all_goals cases h
  all_goals exact ⟨_, rfl⟩

/-- Only a fault of the filter is reported. -/
theorem invalidFilter_of_ofJson (h : ofJson field j = .error e) :
    ∃ fault, e = .invalidFilter fault := by
  unfold ofJson at h
  split at h
  case h_3 => exact invalidFilter_of_ofOperator h
  case h_4 =>
    cases h
    exact ⟨_, rfl⟩
  all_goals cases h

end Condition

/-! ## §2 The documents of trees -/

namespace ConditionTree

mutual

/-- The documents that are a tree. -/
inductive Accepted : Json → Prop where
  | object {entries : List (String × Json)}
      (each : ∀ entry ∈ entries, AcceptedEntry entry.1 entry.2) :
    Accepted (.object entries)

/-- What may stand in a tree: an array of trees under `or`, and a condition under any other key. -/
inductive AcceptedEntry : String → Json → Prop where
  | or {key : String} {items : List Json} (named : Text.sameLetters key orKey = true)
      (each : ∀ item ∈ items, Accepted item) : AcceptedEntry key (.array items)
  | field {key : String} {value : Json} (named : Text.sameLetters key orKey = false)
      (accepted : Condition.Accepted value) : AcceptedEntry key value

end

/-- The name of a key in a tree. -/
def nameOf (key : String) : String := if Text.sameLetters key orKey then orKey else key

theorem nameOf_of_or {key : String} (named : Text.sameLetters key orKey = true) :
    nameOf key = orKey :=
  if_pos named

theorem nameOf_of_field {key : String} (named : Text.sameLetters key orKey = false) :
    nameOf key = key :=
  if_neg (Bool.eq_false_iff.1 named)

/-- The entry of a tree for that of an object. -/
def ofEntry (entry : String × Json) : Except Error (String × Condition) :=
  if Text.sameLetters entry.1 orKey then
    match entry.2 with
    | .array items =>
      match tryMap ofJson items with
      | .error e => .error e
      | .ok disjuncts => .ok (orKey, .or disjuncts)
    | _ => .error (.invalidFilter .orNotArray)
  else
    match Condition.ofJson entry.1 entry.2 with
    | .error e => .error e
    | .ok condition => .ok (entry.1, condition)

variable {entries : List (String × Json)} {entry : String × Json} {tree : ConditionTree} {e : Error}

theorem ofDisjuncts_eq_tryMap (items : List Json) : ofDisjuncts items = tryMap ofJson items := by
  induction items with
  | nil => rfl
  | cons item rest ih =>
    rw [ofDisjuncts, tryMap, ih]
    cases ofJson item with
    | error e => rfl
    | ok tree => cases tryMap ofJson rest <;> rfl

/-- The entries of an object are read one by one until one fails. -/
theorem ofEntries_eq_tryMap (entries : List (String × Json)) :
    ofEntries entries = tryMap ofEntry entries := by
  induction entries with
  | nil => rfl
  | cons entry rest ih =>
    obtain ⟨key, value⟩ := entry
    unfold ofEntries tryMap
    rw [ih]
    -- Both sides read the rest in the same way.
    generalize tryMap ofEntry rest = others
    rw [ofEntry]
    split
    case isTrue =>
      cases value with
      | array items =>
        simp only [ofDisjuncts_eq_tryMap]
        cases tryMap ofJson items with
        | error e => rfl
        | ok disjuncts => cases others <;> rfl
      | _ => rfl
    case isFalse =>
      cases Condition.ofJson key value with
      | error e => rfl
      | ok condition => cases others <;> rfl

/-- An object is read entry by entry. -/
theorem ofJson_object (entries : List (String × Json)) :
    ofJson (.object entries) = tryMap ofEntry entries := by
  rw [ofJson, ofEntries_eq_tryMap]

/-- Induction on what stands in the arrays of an object, which is where trees are within trees. -/
theorem disjunctively {motive : Json → Prop}
    (step : ∀ j,
      (∀ entries, j = .object entries → ∀ entry ∈ entries, ∀ items, entry.2 = .array items →
      ∀ item ∈ items, motive item) → motive j) (j : Json) : motive j := by
  -- The property of the items of an array is carried along.
  have both : motive j ∧ ∀ items, j = .array items → ∀ item ∈ items, motive item := by
    induction j using Json.tree with
    | array items ih =>
      refine ⟨step _ nofun, ?_⟩
      intro _ same item listed
      cases same
      exact (ih item listed).1
    | object entries ih =>
      refine ⟨step _ ?_, nofun⟩
      intro _ same entry listed
      cases same
      exact (ih entry listed).2
    | null | bool | number | string => exact ⟨step _ nofun, nofun⟩
  exact both.1

/-- Every way an entry can be read. -/
theorem ofEntry_eq_ok_iff {named : String × Condition} :
    ofEntry entry = .ok named ↔
      (Text.sameLetters entry.1 orKey = true ∧ ∃ items disjuncts, entry.2 = .array items ∧
        tryMap ofJson items = .ok disjuncts ∧ named = (orKey, .or disjuncts)) ∨
      (Text.sameLetters entry.1 orKey = false ∧ ∃ c, Condition.ofJson entry.1 entry.2 = .ok c ∧
        named = (entry.1, c)) := by
  obtain ⟨key, value⟩ := entry
  unfold ofEntry
  -- The name decides which of the two readings is tried.
  cases Text.sameLetters key orKey with
  | true =>
    cases value with
    | array items => cases read : tryMap ofJson items <;> simp [read, eq_comm]
    | _ => simp
  | false => cases Condition.ofJson key value <;> simp [eq_comm]

/-- An entry is read exactly if it is in the grammar, once this is known of the disjuncts in it. -/
theorem exists_ofEntry_iff (disjunct : ∀ items, entry.2 = .array items → ∀ item ∈ items,
    ((∃ tree, ofJson item = .ok tree) ↔ Accepted item)) :
    (∃ named, ofEntry entry = .ok named) ↔ AcceptedEntry entry.1 entry.2 := by
  constructor
  · intro ⟨named, read⟩
    -- The two readings of an entry are the two rules of the grammar.
    rcases ofEntry_eq_ok_iff.1 read
      with ⟨isOr, items, disjuncts, array, read, -⟩ | ⟨notOr, c, read, -⟩
    · rw [array]
      apply AcceptedEntry.or isOr
      intro item inside
      apply (disjunct items array item inside).1
      exact exists_tryMap_eq_ok_iff.1 ⟨disjuncts, read⟩ item inside
    · exact .field notOr (Condition.exists_ofJson_iff.1 ⟨c, read⟩)
  · intro accepted
    obtain ⟨key, value⟩ := entry
    cases accepted with
    | @or _ items isOr each =>
      have all : ∀ item ∈ items, ∃ tree, ofJson item = .ok tree := by
        intro item inside
        exact (disjunct items rfl item inside).2 (each item inside)
      obtain ⟨disjuncts, read⟩ := exists_tryMap_eq_ok_iff.2 all
      exact ⟨_, ofEntry_eq_ok_iff.2 (.inl ⟨isOr, items, disjuncts, rfl, read, rfl⟩)⟩
    | field notOr accepted =>
      obtain ⟨c, read⟩ := Condition.exists_ofJson_iff.2 accepted
      exact ⟨_, ofEntry_eq_ok_iff.2 (.inr ⟨notOr, c, read, rfl⟩)⟩

/-- **The documents that are trees are those of the grammar.** -/
theorem exists_ofJson_iff (j : Json) : (∃ tree, ofJson j = .ok tree) ↔ Accepted j := by
  induction j using disjunctively with
  | step j ih =>
    cases j with
    | object entries =>
      rw [ofJson_object, exists_tryMap_eq_ok_iff,
        forall₂_congr fun entry listed => exists_ofEntry_iff (ih entries rfl entry listed)]
      constructor
      · exact .object
      · intro ⟨each⟩
        exact each
    | _ =>
      refine iff_of_false ?_ nofun
      intro ⟨tree, read⟩
      cases read

/-- An entry fails as a filter, or as one of its disjuncts does. -/
theorem ofEntry_eq_error (h : ofEntry entry = .error e) :
    (∃ fault, e = .invalidFilter fault) ∨
      ∃ items, entry.2 = .array items ∧ ∃ item ∈ items, ofJson item = .error e := by
  obtain ⟨key, value⟩ := entry
  -- The fault is the entry's own, or it comes out of a disjunct.
  unfold ofEntry at h
  split at h
  case isTrue =>
    split at h
    case h_1 items array =>
      split at h
      case h_1 failed =>
        cases h
        exact .inr ⟨items, array, exists_mem_of_tryMap_eq_error failed⟩
      case h_2 => cases h
    case h_2 =>
      cases h
      exact .inl ⟨_, rfl⟩
  case isFalse =>
    split at h
    case h_1 failed =>
      cases h
      exact .inl (Condition.invalidFilter_of_ofJson failed)
    case h_2 => cases h

/-- A tree is refused for a fault of the filter and for nothing else. -/
theorem invalidFilter_of_ofJson {j : Json} (h : ofJson j = .error e) :
    ∃ fault, e = .invalidFilter fault := by
  -- A fault below is one of a smaller document.
  induction j using disjunctively with
  | step j ih =>
    cases j with
    | object entries =>
      rw [ofJson_object] at h
      obtain ⟨entry, listed, failed⟩ := exists_mem_of_tryMap_eq_error h
      rcases ofEntry_eq_error failed with fault | ⟨items, array, item, inside, failed⟩
      · exact fault
      · exact ih entries rfl entry listed items array item inside failed
    | _ =>
      cases h
      exact ⟨_, rfl⟩

/-- A tree has the names of the keys, in their order. -/
theorem names_of_ofJson (h : ofJson (.object entries) = .ok tree) :
    tree.map (·.1) = entries.map fun entry => nameOf entry.1 := by
  rw [ofJson_object] at h
  refine (map_eq_map_of_tryMap h ?_).symm
  intro entry named read
  rcases ofEntry_eq_ok_iff.1 read with ⟨isOr, _, _, _, _, rfl⟩ | ⟨notOr, _, _, rfl⟩
  · exact nameOf_of_or isOr
  · exact nameOf_of_field notOr

end ConditionTree

end TableMapper
