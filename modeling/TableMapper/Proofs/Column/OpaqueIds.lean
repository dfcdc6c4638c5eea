import TableMapper.Column.Decoding
import TableMapper.Proofs.Column.Stability
import TableMapper.Proofs.Column.TextIds

/-!
# UUIDs on their way to a column and back

The id of a model whose ids are UUIDs is written as the text that it is, whatever type the model
declares for it.  What comes back is decoded by that type all the same, so an id returns as it was
stored unless it is declared as a date, a truth value or a document (`Model.opaqueIds_iff`).
-/

namespace TableMapper

open Sql (heldText)

/-- Whether values of the type are texts that are left as they are when they come back. -/
def PropertyType.keepsTexts : PropertyType → Bool
  | .date => false
  | .boolean => false
  | .json => false
  | .array _ => false
  | _ => true

namespace Model

variable {m : Model} {key : String}

/-- The id comes back as it was stored, alone and in a row, and is written again as the same
literal. -/
structure IdReturns (m : Model) (id : String) : Prop where
  decoded : m.decode idColumn (.string id) = .string id
  inRow : ∀ row : Row, row.get? idColumn = some (.string id) →
    (m.decodeRow row).get? idColumn = some (.string id)
  sought : m.literal idColumn (m.decode idColumn (.string id)) = .ok (.quoted id)

/-- A column of a decoded row holds what the column held, decoded. -/
theorem get?_decodeRow (row : Row) (key : String) :
    (m.decodeRow row).get? key = (row.get? key).map (m.decode key) := by
  induction row with
  | nil => rfl
  | cons column row ih =>
    obtain ⟨name, value⟩ := column
    have rest : (m.decodeRow ((name, value) :: row)) =
        (name, m.decode name value) :: m.decodeRow row := rfl
    rw [rest, Row.get?, Row.get?, ih]
    split
    case isTrue same => rw [same, Option.map_some]
    case isFalse => rfl

/-- Texts of columns that keep them come back as they are. -/
theorem decode_string (declared : ∀ p, m.property? key = some p → p.type.keepsTexts = true)
    (s : String) :
    m.decode key (.string s) = .string s := by
  rw [decode]
  cases property : m.property? key with
  | none => rfl
  | some p =>
    have keeps := declared p property
    show Decoding.typed p.type (.string s) = .string s
    -- The types that read their texts are those that are excluded.
    cases type : p.type with
    | date | boolean | json | array =>
      rw [type] at keeps
      cases keeps
    | string | text | number | enumeration | point => rfl

/-- The empty text is no date, no document and, as a truth value, false. -/
theorem decode_empty_ne {p : Property} (declared : m.property? key = some p)
    (changes : p.type.keepsTexts = false) :
    m.decode key (.string "") ≠ .string "" := by
  have decoded : m.decode key (.string "") = Decoding.typed p.type (.string "") := by
    rw [decode, declared]
    rfl
  rw [decoded]
  -- Each of these types makes something else of the empty text.
  cases type : p.type with
  | date =>
    exact (Value.noConfusion : Value.null = .string "" → False)
  | boolean =>
    exact (Value.noConfusion : Value.bool false = .string "" → False)
  | json =>
    exact (Value.noConfusion : Value.null = .string "" → False)
  | array inner =>
    exact (Value.noConfusion : Value.null = .string "" → False)
  | string | text | number | enumeration | point =>
    rw [type] at changes
    cases changes

/-- **A UUID is always written as its text, and it returns as it was stored exactly if the id is not
declared as a date, a truth value or a document.**  The text of its literal is quoted, and the id is
what the server holds for it. -/
theorem opaqueIds_iff (uuid : m.idMode.isUuid = true) :
    (∀ id, m.literal idColumn (.string id) = .ok (.quoted id) ∧
      Sql.readString? (Sql.Literal.quoted id).text.toList = some (id.toList, [])) ∧
      ((∀ id, m.IdReturns id) ↔ ∀ p, m.idProperty? = some p → p.type.keepsTexts = true) := by
  refine ⟨fun id => ⟨literal_string_of_uuid uuid id, ?_⟩, fun returns p declared => ?_,
    fun keeps id => ?_⟩
  · simpa [Sql.Literal.text, Sql.Literal.chars] using
      Sql.readString?_stringChars id.toList (by simp : [].head? ≠ some '\'')
  · -- The empty id is enough to tell.
    by_contra changes
    exact decode_empty_ne declared (Bool.eq_false_iff.2 changes) (returns "").decoded
  · have decoded := decode_string keeps id
    refine ⟨decoded, fun row held => ?_, ?_⟩
    · rw [get?_decodeRow, held, Option.map_some, decoded]
    · rw [decoded, literal_string_of_uuid uuid]

/-- A model whose ids are random UUIDs, with the id declared as a column of the given type. -/
def tagged (type : PropertyType) : Model := ⟨"tag", none, [.ofType "id" type], [], ⟨none, .random⟩⟩

/-- An id declared as a number is a text all the same, and returns. -/
theorem opaqueIds_number :
    (tagged .number).idMode.isUuid = true ∧
      (tagged .number).IdReturns "6f1e8c1a-2b3c-4d5e-8f90-123456789abc" := by
  obtain ⟨-, returns⟩ := opaqueIds_iff (rfl : (tagged .number).idMode.isUuid = true)
  refine ⟨rfl, returns.2 ?_ _⟩
  rintro p ⟨⟩
  rfl

/-- An id declared as a date is lost: the model is valid and the id is written as its text, but
comes back as null. -/
theorem opaqueIds_lost :
    (tagged .date).validate = .ok () ∧ (tagged .date).idMode.isUuid = true ∧
      (tagged .date).literal idColumn (.string "6f1e8c1a-2b3c-4d5e-8f90-123456789abc") =
        .ok (.quoted "6f1e8c1a-2b3c-4d5e-8f90-123456789abc") ∧
      (tagged .date).decode idColumn (.string "6f1e8c1a-2b3c-4d5e-8f90-123456789abc") ≠
        .string "6f1e8c1a-2b3c-4d5e-8f90-123456789abc" ∧
      (tagged .date).decodeRow [(idColumn, .string "6f1e8c1a-2b3c-4d5e-8f90-123456789abc")] =
        [(idColumn, .null)] :=
  ⟨rfl, rfl, rfl, nofun, rfl⟩

end Model

end TableMapper
