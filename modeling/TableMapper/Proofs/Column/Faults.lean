import TableMapper.Column.Encoding
import TableMapper.Proofs.TryMap

/-!
# Errors of encoding

What goes wrong when a value is encoded is the value's fault, or a list stands where one value is
wanted.  It is never a fault of the data or of the model as a whole.
-/

namespace TableMapper

/-- The errors that encoding reports. -/
inductive Error.OfEncoding : Error → Prop where
  | value (key : String) (fault : ValueFault) : OfEncoding (.invalidValue key fault)
  | listForSingle (key : String) : OfEncoding (.invalidFilter (.listForSingle key))

namespace Encoding

variable {key : String} {v : Value} {e : Error}

/-- What is no number fails for the value. -/
theorem ofEncoding_of_number (h : number key v = .error e) : e.OfEncoding := by
  unfold number at h
  split at h
  -- Integers, truth values and dates always have a number; doubles and texts may have none.
  case h_1 | h_3 | h_5 => cases h
  case h_2 =>
    split at h
    case isTrue => cases h
    case isFalse =>
      cases h
      exact .value ..
  case h_4 =>
    split at h
    case h_1 => cases h
    case h_2 =>
      cases h
      exact .value ..
  case h_6 =>
    cases h
    exact .value ..

/-- What is no date fails for the value. -/
theorem ofEncoding_of_instant (h : instant key v = .error e) : e.OfEncoding := by
  unfold instant at h
  split at h
  case h_1 => cases h
  case h_2 | h_3 =>
    split at h
    case h_1 => cases h
    case h_2 =>
      cases h
      exact .value ..
  case h_4 =>
    cases h
    exact .value ..

theorem ofEncoding_of_typed {type : PropertyType} (h : typed key type v = .error e) :
    e.OfEncoding := by
  unfold typed at h
  split at h
  case h_1 => exact ofEncoding_of_number h
  case h_2 =>
    unfold date at h
    split at h
    case h_1 failed =>
      cases h
      exact ofEncoding_of_instant failed
    case h_2 => cases h
  -- Columns of all other types take any value.
  all_goals cases h

/-- So does what is written to the column of a property. -/
theorem ofEncoding_of_scalar {property : Option Property} (h : scalar key property v = .error e) :
    e.OfEncoding := by
  unfold scalar at h
  split at h
  case isTrue => cases h
  case isFalse =>
    split at h
    case h_1 => cases h
    case h_2 => exact ofEncoding_of_typed h

end Encoding

namespace Model

variable {m : Model} {key : String} {v : Value} {e : Error}

/-- A value that is not a list is written like an item of one. -/
theorem literal_of_single (plain : m.isSerializedKey key = false)
    (single : ∀ items, v ≠ .array items) :
    m.literal key v = m.itemLiteral key v := by
  -- NULL is written before anything else is looked at.
  cases null : v.isNull with
  | true => simp [literal, encode, itemLiteral, Encoding.scalar, null]
  | false =>
    have encoded : m.encode key v = (m.itemLiteral key v).map .single := by
      unfold encode
      rw [null, plain, if_neg Bool.false_ne_true, if_neg Bool.false_ne_true]
      split
      · exact absurd rfl (single _)
      · cases m.itemLiteral key v <;> rfl
    rw [literal, encoded]
    cases m.itemLiteral key v <;> rfl

/-- An item fails for its value. -/
theorem ofEncoding_of_itemLiteral (h : m.itemLiteral key v = .error e) : e.OfEncoding := by
  unfold itemLiteral at h
  split at h
  case isTrue => cases h
  case isFalse => exact Encoding.ofEncoding_of_scalar h

/-- A list fails as one of its items does. -/
theorem ofEncoding_of_encode (h : m.encode key v = .error e) : e.OfEncoding := by
  unfold encode at h
  split at h
  case isTrue => cases h
  split at h
  case isTrue => cases h
  split at h
  -- An array fails with one of its items, any other value by itself.
  case h_1 items =>
    split at h
    case h_1 failed =>
      cases h
      obtain ⟨item, -, found⟩ := exists_mem_of_tryMap_eq_error failed
      exact ofEncoding_of_itemLiteral found
    case h_2 => cases h
  case h_2 =>
    split at h
    case h_1 failed =>
      cases h
      exact ofEncoding_of_itemLiteral failed
    case h_2 => cases h

/-- **A value without a single literal fails for its own sake.** -/
theorem ofEncoding_of_literal (h : m.literal key v = .error e) : e.OfEncoding := by
  unfold literal at h
  split at h
  case h_1 failed =>
    cases h
    exact ofEncoding_of_encode failed
  case h_2 => cases h
  case h_3 =>
    cases h
    exact .listForSingle key

end Model

end TableMapper
