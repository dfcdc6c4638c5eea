import TableMapper.Column.Encoding
import TableMapper.Proofs.Calendar.InstantText
import TableMapper.Proofs.Column.Faults
import TableMapper.Proofs.Number.Digits

/-!
# Ids that are written as text

In a model whose ids are UUIDs an id is written as the text of its value, whatever its kind.

- `Value.Falsy` lists the values that do not count as true;
- `Encoding.textOf_ne_empty` says that all others have a text, and `Model.exists_quoted_of_uuid`
  what is written for an id that is one of them.
-/

namespace TableMapper

/-! ## §1 Values that do not count as true -/

/-- Null, false, a zero, no number, the empty text and the text `0`. -/
inductive Value.Falsy : Value → Prop where
  | null : Falsy .null
  | false : Falsy (.bool false)
  | zero : Falsy (.int 0)
  | floatZero {x : Binary64} (zero : x.isZero = true) : Falsy (.float x)
  | notNumber {x : Binary64} (nan : x.isNaN = true) : Falsy (.float x)
  | empty : Falsy (.string "")
  | zeroText : Falsy (.string "0")

/-- These are the values that count as false. -/
theorem Value.isTruthy_eq_false_iff {v : Value} : v.isTruthy = false ↔ v.Falsy := by
  constructor
  · intro h
    -- One case for each kind of value; dates, documents and lists always count as true.
    cases v with
    | null => exact .null
    | bool b =>
      cases h
      exact .false
    | int i =>
      have zero : i = 0 := by simpa [isTruthy] using h
      exact zero ▸ .zero
    | float x =>
      by_cases nan : x.isNaN = true
      · exact .notNumber nan
      · exact .floatZero (by simpa [isTruthy, nan] using h)
    | string s =>
      by_cases empty : s = ""
      · exact empty ▸ .empty
      · have zero : s = "0" := by simpa [isTruthy, empty] using h
        exact zero ▸ .zeroText
    | date t => cases h
    | json j => cases h
    | array items => cases h
  · intro h
    cases h with
    | floatZero zero => simp [isTruthy, zero]
    | notNumber nan => simp [isTruthy, nan]
    | _ => rfl

/-! ## §2 Texts of values -/

/-- Numerals have digits. -/
theorem Decimal.chars_ne_nil (d : Decimal) : d.chars ≠ [] := by
  simp [Decimal.chars, Decimal.natChars_ne_nil]

theorem NumberFormat.magnitudeChars_ne_nil (f : NumberFormat) (d : ScaledDigits) :
    f.magnitudeChars d ≠ [] := by
  -- There are digits with or without an exponent.
  have either (fits : Bool) {s t : List Char} (some : s ≠ []) (some' : t ≠ []) :
      (if fits then s else t) ≠ [] := by
    cases fits <;> assumption
  exact either _ (by simp [Decimal.chars_ne_nil]) (by simp)

/-- Doubles have a text, the infinities and what is no number included. -/
theorem NumberFormat.render_ne_empty (f : NumberFormat) (x : Binary64) : f.render x ≠ "" := by
  unfold render
  dsimp only
  split
  · decide
  · split
    · exact mt String.ofList_eq_empty_iff.1 (by simp [magnitudeChars_ne_nil])
    · exact mt String.ofList_eq_empty_iff.1 (by simp)

/-- So have documents. -/
theorem Json.chars_ne_nil (j : Json) : j.chars ≠ [] := by
  cases j with
  | null => simp [Json.chars]
  | bool b => cases b <;> simp [Json.chars]
  | number n =>
    cases n with
    | natural n => simpa [Json.chars, JsonNumber.chars] using Decimal.natChars_ne_nil _
    | negative i _ => simpa [Json.chars, JsonNumber.chars] using Decimal.chars_ne_nil _
    | real x _ => simpa [Json.chars, JsonNumber.chars] using NumberFormat.render_ne_empty _ x
  | string s => simp [Json.chars, Json.quoteChars]
  | array items => simp [Json.chars]
  | object entries => simp [Json.chars]

/-- **A value that counts as true has a text.** -/
theorem Encoding.textOf_ne_empty {v : Value} (counts : ¬ v.Falsy) : textOf v ≠ "" := by
  -- Only the empty text itself has an empty text.
  cases v with
  | null => exact absurd .null counts
  | bool b => cases b <;> decide
  | int i => exact mt String.ofList_eq_empty_iff.1 (Decimal.chars_ne_nil _)
  | float x =>
    rw [textOf, numberText]
    split
    · exact mt String.ofList_eq_empty_iff.1 (Decimal.chars_ne_nil _)
    · exact NumberFormat.render_ne_empty _ x
  | string s =>
    rintro rfl
    exact counts .empty
  | date t =>
    obtain ⟨c, s, text, -⟩ := InstantReader.exists_chars_eq_cons t.columnWords
    rw [t.chars_columnWords] at text
    exact mt String.ofList_eq_empty_iff.1 (by simp [text])
  | json j => exact mt String.ofList_eq_empty_iff.1 j.chars_ne_nil
  | array items => exact mt String.ofList_eq_empty_iff.1 (Json.chars_ne_nil _)

/-! ## §3 Ids -/

namespace Model

variable {m : Model} {v : Value} {literal : Sql.Literal}

theorem isUuidId_idColumn (m : Model) : m.isUuidId idColumn = m.idMode.isUuid := by
  simp [isUuidId]

/-- An id that is a UUID is no document, whatever is declared. -/
theorem isSerializedKey_idColumn (uuid : m.idMode.isUuid = true) :
    m.isSerializedKey idColumn = false := by
  simp [isSerializedKey, isUuidId_idColumn, uuid]

/-- The id is written as the text of its value. -/
theorem literal_of_uuid (uuid : m.idMode.isUuid = true) (notNull : v.isNull = false)
    (single : ∀ items, v ≠ .array items) :
    m.literal idColumn v = .ok (.quoted (Encoding.textOf v)) := by
  rw [literal_of_single (isSerializedKey_idColumn uuid) single, itemLiteral, isUuidId_idColumn,
    uuid, notNull]
  rfl

/-- An id that is made here is written as it is. -/
theorem literal_string_of_uuid (uuid : m.idMode.isUuid = true) (id : String) :
    m.literal idColumn (.string id) = .ok (.quoted id) := by
  apply literal_of_uuid uuid rfl
  intro items same
  cases same

/-- **An id that counts as true is written as a text that is not empty**, if it has a literal; a
list has none. -/
theorem exists_quoted_of_uuid (uuid : m.idMode.isUuid = true) (counts : ¬ v.Falsy)
    (written : m.literal idColumn v = .ok literal) : ∃ s, s ≠ "" ∧ literal = .quoted s := by
  have notNull : v.isNull = false := by
    cases v with
    | null => exact absurd .null counts
    | _ => rfl
  refine ⟨Encoding.textOf v, Encoding.textOf_ne_empty counts, ?_⟩
  -- A list has several literals, so that none is written for it.
  by_cases list : ∃ items, v = .array items
  · obtain ⟨items, rfl⟩ := list
    simp only [Model.literal, encode, Value.isNull, isSerializedKey_idColumn uuid,
      Bool.false_eq_true, if_false]
      at written
    cases each : tryMap (m.itemLiteral idColumn) items <;> simp [each] at written
  · exact Except.ok.inj (written.symm.trans (literal_of_uuid uuid notNull (not_exists.1 list)))

end Model

end TableMapper
