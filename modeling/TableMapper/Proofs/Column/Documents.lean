import TableMapper.Proofs.Column.Stability
import TableMapper.Proofs.Value.Normal

/-!
# Documents in columns

Columns of documents and of arrays hold the text of a value's document.  `Model.documents_readBack`
says what comes back: from a column of documents the document, and from a column of arrays the value
of it, which then stays what it is.
-/

namespace TableMapper.Model

open Sql (heldText)

variable {m : Model} {key : String} {p : Property} {v : Value}

/-- The value `v` is written to a column and comes back from it as `w`. -/
def ComesBackAs (m : Model) (key : String) (v w : Value) : Prop :=
  ∃ lit, m.literal key v = .ok lit ∧ m.decode key (.string (heldText lit.text)) = w

/-- The value of a document that a column of the type held. -/
def documentValue : PropertyType → Json → Value
  | .json, j => .json j
  | _, j => .ofJson j

/-- The text of a document is decoded as the document's value. -/
theorem typed_text (serialized : p.type.isSerialized = true) {j : Json}
    (readable : j.Readable maxDepth) :
    Decoding.typed p.type (.string j.text) = documentValue p.type j := by
  have read := Json.read?_text readable
  cases type : p.type with
  | json => rw [Decoding.typed, Decoding.document, read, documentValue]
  | array inner =>
    rw [Decoding.typed, Decoding.document, read, documentValue]
    intro same
    cases same
  | _ =>
    rw [type] at serialized
    cases serialized

/-- A value comes back as the value of its document, if that can be read. -/
theorem comesBackAs_of_readable (declared : m.property? key = some p)
    (notUuid : m.isUuidId key = false) (serialized : p.type.isSerialized = true)
    (notNull : v.isNull = false) (readable : v.toJson.Readable maxDepth) :
    m.ComesBackAs key v (documentValue p.type v.toJson) := by
  refine ⟨_, literal_of_serialized declared notUuid serialized notNull, ?_⟩
  rw [Sql.heldText_quoted, decode, declared]
  exact typed_text serialized readable

/-- What comes back of a document is itself written as a document of which it comes back. -/
theorem documentValue_again (type : PropertyType) (j : Json) :
    documentValue type (documentValue type j).toJson = documentValue type j := by
  cases type with
  | json => rfl
  | _ => exact Value.ofJson_toJson_ofJson j

/-- What comes back can be read again, but for its doubles. -/
theorem readable_documentValue (type : PropertyType) {j : Json} (readable : j.Readable maxDepth)
    (doubles : (documentValue type j).toJson.DoublesReadBack) :
    (documentValue type j).toJson.Readable maxDepth := by
  cases type with
  | json => exact readable
  | _ => exact Value.readable_toJson_ofJson readable doubles

/-- **Columns of documents give back the document.**  Every value that is not null can be written to
one.  If its document nests no deeper than the reader goes, then a column of documents gives the
document back, and a column of arrays the value of it; what came back comes back unchanged if it is
not null.

The keys of an object differ, as in every map.  Of doubles, and of nothing else, this asks that
their numerals are read back, which the reader does not promise. -/
theorem documents_readBack (declared : m.property? key = some p) (notUuid : m.isUuidId key = false)
    (serialized : p.type.isSerialized = true) (notNull : v.isNull = false) :
    (∃ lit, m.literal key v = .ok lit) ∧
      (v.toJson.nesting ≤ maxDepth → v.toJson.DistinctKeys → v.toJson.DoublesReadBack →
        ∃ w, m.ComesBackAs key v w ∧ (p.type = .json → w = .json v.toJson) ∧
          (∀ inner, p.type = .array inner → w = v.normal) ∧
          (w.isNull = false → w.toJson.DoublesReadBack → m.ComesBackAs key w w)) ∧
      ∀ u : Value, u.normal.normal = u.normal := by
  refine ⟨⟨_, literal_of_serialized declared notUuid serialized notNull⟩, ?_, Value.normal_normal⟩
  intro deep distinct doubles
  -- What makes a document readable is supposed of the first value, and has to be shown for the
  -- second one.
  have readable : v.toJson.Readable maxDepth := Json.readable_iff.2 ⟨deep, distinct, doubles⟩
  refine ⟨documentValue p.type v.toJson,
    comesBackAs_of_readable declared notUuid serialized notNull readable, ?_, ?_, ?_⟩
  · intro json
    rw [json, documentValue]
  · intro inner array
    rw [array]
    rfl
  · intro notNull' doubles'
    have again := comesBackAs_of_readable declared notUuid serialized notNull'
      (readable_documentValue p.type readable doubles')
    rwa [documentValue_again] at again

/-- A model with a column of arrays. -/
def journal : Model := ⟨"journal", none, [.ofType "entries" (.array .json)], [], ⟨none, .server⟩⟩

/-- The largest word, which is no integer of a value. -/
def widestWord : Json := .number (.natural 18446744073709551615)

/-- An array with a date, doubles, documents and an array. -/
def jotted : Value :=
  .array [.date ⟨0, 1000000, by decide, by decide⟩, .float ⟨0x3FB999999999999A⟩,
    .json (.object [("n", widestWord)]), .json widestWord, .array [.float .nan, .bool true]]

/-- What comes back of it.  The object is the same, and the largest word beside it a double. -/
def handedBack : Value :=
  .array [.string "1970-01-01T00:00:00.001Z", .float ⟨0x3FB999999999999A⟩,
    .json (.object [("n", widestWord)]), .float ⟨0x43F0000000000000⟩, .array [.null, .bool true]]

/-- What comes back of the array, item by item. -/
theorem normal_jotted : jotted.normal = handedBack := by
  have date : (⟨0, 1000000, by decide, by decide⟩ : Instant).jsonText =
      "1970-01-01T00:00:00.001Z" := by
    decide +kernel
  -- The widest word has no double of its own and becomes the next power of two.
  have nearest : Binary64.ofInt 18446744073709551615 = ⟨0x43F0000000000000⟩ := by decide +kernel
  have word : Value.ofJson widestWord = .float ⟨0x43F0000000000000⟩ := by
    rw [← nearest]
    rfl
  rw [Value.normal, jotted, Value.toJson_array, Value.ofJson_array, handedBack, ← date, ← word]
  rfl

theorem documents_readBack_jotted :
    journal.ComesBackAs "entries" jotted handedBack ∧
      journal.ComesBackAs "entries" handedBack handedBack := by
  have declared : journal.property? "entries" = some (.ofType "entries" (.array .json)) := rfl
  obtain ⟨-, back, -⟩ := documents_readBack declared rfl rfl (rfl : jotted.isNull = false)
  obtain ⟨w, comes, -, normal, again⟩ := back (by decide) (by decide +kernel) (by decide +kernel)
  obtain rfl : w = handedBack := (normal .json rfl).trans normal_jotted
  exact ⟨comes, again rfl (by decide +kernel)⟩

end TableMapper.Model
