import TableMapper.Proofs.Column.Encodable
import TableMapper.Proofs.Query.Updating

/-!
# The first fault of a condition tree

What a tree asks of its values and of its disjunctions, in the order in which it is written, and the
proof that a tree has a text exactly if nothing of that fails, and otherwise fails as the first of
it does.

- `Demand` is what can fail in a tree, and `ConditionTree.demands` lists it from left to right, each
  disjunction in the place where it stands;
- `Model.Meets` and `Model.Fails` say when a demand is met and with which error it fails;
- `whereText_failsFirst` is the law of all trees.
-/

namespace TableMapper

/-! ## §1 Demands -/

/-- What can fail in a tree. -/
inductive Demand where
  /-- The value has to have a literal under the key. -/
  | operand (key : String) (v : Value)
  /-- A disjunction without disjuncts stands here. -/
  | disjunct
  /-- A disjunct without conditions stands here. -/
  | condition

namespace ConditionTree

mutual

/-- The demands of a condition on a key.  Equality with a list asks for each of its items. -/
def demandsOf (key : String) : Condition → List Demand
  | .equal (.array values) => values.map (.operand key)
  | .equal v => [.operand key v]
  | .range low high => [.operand key low, .operand key high]
  | .list values _ => values.map (.operand key)
  | .compare _ v => [.operand key v]
  | .like _ => []
  | .or [] => [.disjunct]
  | .or (tree :: rest) => demandsOfAny (tree :: rest)

def demandsOfAny : List (List (String × Condition)) → List Demand
  | [] => []
  | [] :: rest => .condition :: demandsOfAny rest
  | (entry :: tree) :: rest => demands (entry :: tree) ++ demandsOfAny rest

/-- The demands of a tree, from left to right. -/
def demands : List (String × Condition) → List Demand
  | [] => []
  | (key, c) :: rest => demandsOf key c ++ demands rest

end

end ConditionTree

namespace Model

open ConditionTree (demandsOf demandsOfAny demands)

/-- Whether what is asked for is there. -/
def Meets (m : Model) : Demand → Prop
  | .operand key v => m.Encodable key v
  | .disjunct => False
  | .condition => False

/-- What is asked for is not there, with the error of that. -/
inductive Fails (m : Model) : Demand → Error → Prop where
  | operand {key : String} {v : Value} {e : Error} (offends : m.Offends key v e) :
    Fails m (.operand key v) e
  | disjunct : Fails m .disjunct (.invalidFilter .emptyOr)
  | condition : Fails m .condition (.invalidFilter .emptyDisjunct)

/-- A number or a date is asked for, and not only is there a list instead: the value is none, or it
has an item without a literal. -/
def AsksForKind (m : Model) : Demand → Prop
  | .operand key v =>
    m.isUuidId key = false ∧ (∃ p, m.property? key = some p ∧ (p.type = .number ∨ p.type = .date)) ∧
      ∀ items, v = .array items → ∃ item ∈ items, ¬ m.Encodable key item
  | .disjunct => False
  | .condition => False

variable {m : Model} {key : String} {v : Value} {e : Error}

/-! ## §2 The first fault -/

/-- The error of a demand that is not met. -/
def faultOf? (m : Model) : Demand → Option Error
  | .operand key v => errorOf? (m.literal key v)
  | .disjunct => some (.invalidFilter .emptyOr)
  | .condition => some (.invalidFilter .emptyDisjunct)

theorem faultOf?_eq_none_iff {d : Demand} : m.faultOf? d = none ↔ m.Meets d := by
  cases d with
  | operand key v => rw [faultOf?, errorOf?_eq_none_iff, exists_literal_iff, Meets]
  | disjunct | condition => simp [faultOf?, Meets]

/-- The fault found for a demand is the one it fails with. -/
theorem faultOf?_eq_some_iff {d : Demand} : m.faultOf? d = some e ↔ m.Fails d e := by
  constructor
  · intro fault
    -- Only an operand can be met; the other two demands always fail.
    cases d with
    | operand key v => exact .operand (literal_eq_error_iff.1 (errorOf?_eq_some_iff.1 fault))
    | disjunct =>
      cases fault
      exact .disjunct
    | condition =>
      cases fault
      exact .condition
  · intro fails
    cases fails with
    | operand offends => exact errorOf?_eq_some_iff.2 (literal_eq_error_iff.2 offends)
    | disjunct | condition => rfl

theorem errorOf?_literals (values : List Value) :
    errorOf? (m.literals key values) = (values.map (.operand key)).findSome? m.faultOf? := by
  rw [literals, errorOf?_tryMap, List.findSome?_map]
  rfl

theorem errorOf?_membership (values : List Value) (negated : Bool) :
    errorOf? (m.membership key values negated) =
      (values.map (.operand key)).findSome? m.faultOf? := by
  rw [← errorOf?_literals, membership]
  cases values with
  | nil => rfl
  | cons v values =>
    simp only [List.isEmpty_cons, Bool.false_eq_true, if_false]
    cases m.literals key (v :: values) <;> rfl

theorem errorOf?_ends (low high : Value) :
    errorOf? (m.ends key low high) =
      [.operand key low, .operand key high].findSome? m.faultOf? := by
  simp only [ends, List.findSome?_cons, List.findSome?_nil, faultOf?]
  cases m.literal key low with
  | error e => rfl
  | ok low => cases m.literal key high <;> rfl

theorem errorOf?_equality (v : Value) :
    errorOf? (m.equality key v) = (demandsOf key (.equal v)).findSome? m.faultOf? := by
  cases v with
  | null => rfl
  | array values => exact errorOf?_membership values false
  | _ =>
    simp only [equality, demandsOf, List.findSome?_cons, List.findSome?_nil, faultOf?]
    split <;> simp [*, errorOf?]

mutual

/-- The error of a condition is that of the first demand it does not meet. -/
theorem errorOf?_predicate (m : Model) (key : String) (c : Condition) :
    errorOf? (predicate m key c) = (demandsOf key c).findSome? m.faultOf? := by
  -- One case for each condition; a disjunction is the mutual one.
  cases c with
  | equal v => exact errorOf?_equality v
  | range low high =>
    rw [demandsOf, ← errorOf?_ends, predicate]
    cases m.ends key low high <;> rfl
  | list values negated => exact errorOf?_membership values negated
  | compare relation v =>
    simp only [predicate, demandsOf, List.findSome?_cons, List.findSome?_nil, faultOf?]
    cases m.literal key v <;> rfl
  | like pattern => rfl
  | or trees =>
    cases trees with
    | nil => rfl
    | cons tree trees =>
      rw [demandsOf, ← errorOf?_disjuncts m (tree :: trees), predicate]
      simp only [List.isEmpty_cons, Bool.false_eq_true, if_false]
      cases disjuncts m (tree :: trees) <;> rfl

/-- The same for the disjuncts of a disjunction. -/
theorem errorOf?_disjuncts (m : Model) (trees : List (List (String × Condition))) :
    errorOf? (disjuncts m trees) = (demandsOfAny trees).findSome? m.faultOf? := by
  cases trees with
  | nil => rfl
  | cons tree rest =>
    cases tree with
    | nil => rfl
    | cons entry tree =>
      -- Demands follow the order in which the compiler visits.
      rw [demandsOfAny, List.findSome?_append, ← errorOf?_predicates m (entry :: tree),
        ← errorOf?_disjuncts m rest, disjuncts]
      simp only [List.isEmpty_cons, Bool.false_eq_true, if_false]
      cases predicates m (entry :: tree) with
      | error e => rfl
      | ok conjunction => cases disjuncts m rest <;> rfl

/-- **The error of a tree is that of its first demand that is not met.** -/
theorem errorOf?_predicates (m : Model) (tree : List (String × Condition)) :
    errorOf? (predicates m tree) = (demands tree).findSome? m.faultOf? := by
  cases tree with
  | nil => rfl
  | cons entry rest =>
    obtain ⟨key, c⟩ := entry
    -- The first entry's demands come before those of the rest.
    rw [demands, List.findSome?_append, ← errorOf?_predicate m key c,
      ← errorOf?_predicates m rest, predicates]
    cases predicate m key c with
    | error e => rfl
    | ok first => cases predicates m rest <;> rfl

end

/-! ## §3 Kinds of errors -/

open Encoding (Fits)

/-- Only numbers and dates are refused for what they are. -/
theorem number_or_date_of_not_fits {type : PropertyType} (other : ¬ Fits type v) :
    type = .number ∨ type = .date := by
  cases type with
  | number => exact .inl rfl
  | date => exact .inr rfl
  | _ => exact absurd trivial other

/-- A value that misfits its column cannot be encoded. -/
theorem Misfits.not_encodable (misfits : m.Misfits key v e) : ¬ m.Encodable key v := by
  rw [encodable_iff]
  rintro (serialized | rfl | ⟨-, fit⟩)
  · exact not_misfits_of_isSerializedKey serialized misfits
  · cases misfits with
    | intro _ _ notNull => cases notNull
  · exact fit e misfits

/-- Where numbers or dates are asked for, what does not misfit has a literal. -/
theorem encodable_of_not_misfits {p : Property} (declared : m.property? key = some p)
    (notUuid : m.isUuidId key = false) (kind : p.type = .number ∨ p.type = .date)
    (fit : ∀ e, ¬ m.Misfits key v e) : m.Encodable key v := by
  cases null : v.isNull with
  | true =>
    cases v with
    | null => exact .null
    | _ => cases null
  | false =>
    -- A value that does not fit its type would misfit.
    have fits : Fits p.type v := by
      by_contra other
      exact fit _ (.intro declared notUuid null other)
    rcases kind with type | type <;> rw [type] at fits
    · exact .number declared type fits
    · exact .date declared type fits

/-- What kind of error a demand fails with. -/
theorem Fails.kind {d : Demand} (fails : m.Fails d e) :
    (m.AsksForKind d ∧ ∃ key v fault, d = .operand key v ∧ e = .invalidValue key fault) ∨
      (¬ m.AsksForKind d ∧ ∃ fault, e = .invalidFilter fault) := by
  cases fails with
  | disjunct | condition => exact .inr ⟨id, _, rfl⟩
  | operand offends =>
    cases offends with
    | single single misfits =>
      cases misfits with
      | intro declared notUuid _ other =>
        refine .inl ⟨⟨notUuid, ⟨_, declared, number_or_date_of_not_fits other⟩, ?_⟩, _, _,
          _, rfl, rfl⟩
        intro items array
        exact absurd array (single items)
    | @item before after v e _ misfits =>
      have listed : v ∈ before ++ v :: after := by simp
      have notEncodable := misfits.not_encodable
      cases misfits with
      | intro declared notUuid _ other =>
        refine .inl ⟨⟨notUuid, ⟨_, declared, number_or_date_of_not_fits other⟩, ?_⟩, _, _,
          _, rfl, rfl⟩
        intro items array
        cases array
        exact ⟨v, listed, notEncodable⟩
    -- If all items fit, the only fault is that there is a list, whatever the kind of the column.
    | list _ fit =>
      refine .inr ⟨?_, _, rfl⟩
      intro ⟨notUuid, ⟨p, declared, kind⟩, items⟩
      obtain ⟨item, listed, notEncodable⟩ := items _ rfl
      exact notEncodable (encodable_of_not_misfits declared notUuid kind (fit item listed))

/-- **A tree has a text exactly if nothing in it fails, and otherwise fails as the first of it
does.**  Every disjunction has to have a disjunct, every disjunct a condition, and every value a
literal under its own key.  The error is one of a value if a number or a date was asked for and the
value is not just a list of such, and one of the filter otherwise. -/
theorem whereText_failsFirst (m : Model) (tree : ConditionTree) :
    ((∃ text, m.whereText tree = .ok text) ↔ ∀ d ∈ demands tree, m.Meets d) ∧
    (∀ e, m.whereText tree = .error e ↔
      ∃ before d after, demands tree = before ++ d :: after ∧ (∀ b ∈ before, m.Meets b) ∧
        m.Fails d e) ∧
    ∀ d e, m.Fails d e →
      (m.AsksForKind d ∧ ∃ key v fault, d = .operand key v ∧ e = .invalidValue key fault) ∨
        (¬ m.AsksForKind d ∧ ∃ fault, e = .invalidFilter fault) := by
  refine ⟨?_, ?_, fun d e => Fails.kind⟩
  · rw [exists_whereText_iff, ← errorOf?_eq_none_iff, errorOf?_predicates,
      List.findSome?_eq_none_iff]
    simp only [faultOf?_eq_none_iff]
  · intro e
    -- The first failing demand is the first found in the list.
    rw [whereText_eq_error_iff, ← errorOf?_eq_some_iff, errorOf?_predicates,
      List.findSome?_eq_some_iff]
    simp only [faultOf?_eq_none_iff, faultOf?_eq_some_iff]
    constructor
    · intro ⟨before, d, after, split, fails, met⟩
      exact ⟨before, d, after, split, met, fails⟩
    · intro ⟨before, d, after, split, met, fails⟩
      exact ⟨before, d, after, split, fails, met⟩

end Model

end TableMapper
