import TableMapper.Proofs.Column.Faults
import TableMapper.Query.Predicate

/-!
# Errors of condition trees

What goes wrong when a tree is compiled is the fault of one of its values, or of a disjunction that
has nothing to choose from.  The trees of disjunctions are followed to any depth.
-/

namespace TableMapper

/-- The errors that the compilation of a tree reports. -/
inductive Error.OfCondition : Error → Prop where
  | value {e : Error} (encoding : e.OfEncoding) : OfCondition e
  | emptyOr : OfCondition (.invalidFilter .emptyOr)
  | emptyDisjunct : OfCondition (.invalidFilter .emptyDisjunct)

theorem Error.OfCondition.ne_missingWhereOrUpdate {e : Error} (h : e.OfCondition) :
    e ≠ .missingWhereOrUpdate := by
  rintro rfl
  cases h with
  | value encoding => cases encoding

namespace Model

variable {m : Model} {key : String} {e : Error}

/-! ## §1 Single conditions -/

theorem ofEncoding_of_ends {low high : Value} (h : m.ends key low high = .error e) :
    e.OfEncoding := by
  -- Either end may fail, the lower one first.
  unfold ends at h
  split at h
  case h_1 failed =>
    cases h
    exact ofEncoding_of_literal failed
  case h_2 =>
    split at h
    case h_1 failed =>
      cases h
      exact ofEncoding_of_literal failed
    case h_2 => cases h

theorem ofEncoding_of_membership {values : List Value} {negated : Bool}
    (h : m.membership key values negated = .error e) : e.OfEncoding := by
  unfold membership at h
  split at h
  -- The empty list is no error.
  case isTrue => cases h
  case isFalse =>
    split at h
    case h_1 failed =>
      cases h
      obtain ⟨v, -, found⟩ := exists_mem_of_tryMap_eq_error failed
      exact ofEncoding_of_literal found
    case h_2 => cases h

/-- Equality fails only where its value cannot be encoded. -/
theorem ofEncoding_of_equality {v : Value} (h : m.equality key v = .error e) : e.OfEncoding := by
  -- Null never fails, a list as a membership, the rest as a literal.
  unfold equality at h
  split at h
  case h_1 => cases h
  case h_2 => exact ofEncoding_of_membership h
  case h_3 =>
    split at h
    case h_1 failed =>
      cases h
      exact ofEncoding_of_literal failed
    case h_2 => cases h

/-! ## §2 Trees -/

mutual

/-- A condition fails for an operand or for an empty disjunction. -/
theorem ofCondition_of_predicate (m : Model) (key : String) (c : Condition)
    (h : predicate m key c = .error e) : e.OfCondition := by
  -- A predicate fails as one of its values does, or as a disjunction.
  cases c with
  | equal v => exact .value (ofEncoding_of_equality h)
  | range low high =>
    simp only [predicate] at h
    split at h
    case h_1 failed =>
      cases h
      exact .value (ofEncoding_of_ends failed)
    case h_2 => cases h
  | list values negated => exact .value (ofEncoding_of_membership h)
  | compare relation v =>
    simp only [predicate] at h
    split at h
    case h_1 failed =>
      cases h
      exact .value (ofEncoding_of_literal failed)
    case h_2 => cases h
  | like pattern => cases h
  | or trees =>
    simp only [predicate] at h
    split at h
    case isTrue =>
      cases h
      exact .emptyOr
    case isFalse =>
      split at h
      case h_1 failed =>
        cases h
        exact ofCondition_of_disjuncts m trees failed
      case h_2 => cases h

theorem ofCondition_of_disjuncts (m : Model) (trees : List (List (String × Condition)))
    (h : disjuncts m trees = .error e) : e.OfCondition := by
  cases trees with
  | nil => cases h
  | cons tree rest =>
    -- The disjunct is empty, fails itself, or a later one fails.
    simp only [disjuncts] at h
    split at h
    case isTrue =>
      cases h
      exact .emptyDisjunct
    case isFalse =>
      split at h
      case h_1 failed =>
        cases h
        exact ofCondition_of_predicates m tree failed
      case h_2 =>
        split at h
        case h_1 failed =>
          cases h
          exact ofCondition_of_disjuncts m rest failed
        case h_2 => cases h

/-- **A tree fails for one of its values or for an empty disjunction.** -/
theorem ofCondition_of_predicates (m : Model) (tree : List (String × Condition))
    (h : predicates m tree = .error e) : e.OfCondition := by
  cases tree with
  | nil => cases h
  | cons entry rest =>
    obtain ⟨key, c⟩ := entry
    -- The first entry fails, or one after it.
    simp only [predicates] at h
    split at h
    case h_1 failed =>
      cases h
      exact ofCondition_of_predicate m key c failed
    case h_2 =>
      split at h
      case h_1 failed =>
        cases h
        exact ofCondition_of_predicates m rest failed
      case h_2 => cases h

end

/-- So does a whole tree. -/
theorem ofCondition_of_whereText {tree : ConditionTree} (h : m.whereText tree = .error e) :
    e.OfCondition := by
  unfold whereText at h
  -- Only the predicates can fail, writing them cannot.
  cases failed : m.predicates tree with
  | error found =>
    rw [failed] at h
    cases h
    exact ofCondition_of_predicates m tree failed
  | ok conjunction =>
    rw [failed] at h
    cases h

end Model

end TableMapper
