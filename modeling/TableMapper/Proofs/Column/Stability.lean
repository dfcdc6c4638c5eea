import TableMapper.Column.Decoding
import TableMapper.Proofs.Column.Faults
import TableMapper.Proofs.Column.Numbers
import TableMapper.Proofs.Json.RoundTrip
import TableMapper.Proofs.Sql.Quoting

/-!
# Stored values are written again as they were

A value is written to a column as a literal, the server holds the text of the literal
(`Sql.heldText`), and the text comes back as a value of the model.  `Model.literal_decode_heldText`
says that this value is written as the same literal.  The value itself may be another: numbers come
back as texts, dates without their microseconds.
-/

namespace TableMapper

open Numeral (readInt64?)

namespace Sql

/-! ## §1 What the server holds -/

/-- The text that the server holds for a literal: what a quoted one stands for, and any other as it
is. -/
def heldText (literal : String) : String :=
  match readString? literal.toList with
  | some (contents, []) => String.ofList contents
  | _ => literal

/-- Of a quoted literal the server holds the text in the quotes. -/
theorem heldText_quoted (s : String) : heldText (Literal.quoted s).text = s := by
  have read : readString? (stringChars s.toList ++ []) = some (s.toList, []) :=
    readString?_stringChars s.toList (by simp)
  rw [List.append_nil] at read
  rw [heldText, Literal.text, String.toList_ofList, Literal.chars, read]
  exact String.ofList_toList

/-- Of a numeral it holds the numeral. -/
theorem heldText_number (d : Decimal) : heldText (Literal.number d).text = d.text := by
  have noQuote : readString? d.chars = none := by
    obtain ⟨c, s, text, digit⟩ := Decimal.exists_natChars_eq_cons d.whole
    have noQuote : c ≠ '\'' := by rintro rfl; cases digit
    rw [Decimal.chars_eq, text]
    cases d.negative <;> simp [readString?, noQuote]
  rw [heldText, Literal.text, String.toList_ofList, Literal.chars, noQuote]
  rfl

end Sql

namespace Encoding

open Sql (heldText)

/-! ## §2 Columns of one type -/

/-- The milliseconds of an instant fit a word. -/
theorem exists_word_of_millis (t : Instant) : ∃ i : Int64, i.toInt = t.toMillis := by
  have low : Int64.minValue.toInt = -9223372036854775808 := rfl
  have high : Int64.maxValue.toInt = 9223372036854775807 := rfl
  obtain ⟨first, last⟩ := t.inRange
  have nanos : t.nanos < 2 * nanosPerSecond := by
    rcases t.nanosFit with fits | ⟨fits, -⟩ <;> omega
  -- The range of instants, in milliseconds, is far within 64 bits.
  unfold firstSecond at first
  unfold lastSecond at last
  unfold nanosPerSecond at nanos
  have fits : Word.int64? t.toMillis = some (Int64.ofInt t.toMillis) := by
    rw [Word.int64?, low, high, if_pos]
    unfold Instant.toMillis
    omega
  exact ⟨_, Word.int64?_eq_some_iff.1 fits⟩

/-- What is written to a column of numbers is the numeral of a word or of a finite double. -/
theorem exists_numeric {key : String} {v : Value} {lit : Sql.Literal}
    (written : number key v = .ok lit) : ∃ d, lit = .number d ∧ Numeric d := by
  cases v with
  | int i =>
    obtain rfl := Except.ok.inj written
    exact ⟨_, rfl, .word i⟩
  | float x =>
    rw [number] at written
    split at written
    case isTrue finite =>
      obtain rfl := Except.ok.inj written
      exact ⟨_, rfl, .double finite⟩
    case isFalse => cases written
  | bool b =>
    obtain rfl := Except.ok.inj written
    cases b with
    | true => exact ⟨_, rfl, .word 1⟩
    | false => exact ⟨_, rfl, .word 0⟩
  | string s =>
    rw [number] at written
    cases read : readDecimal? s with
    | none =>
      rw [read] at written
      cases written
    | some d =>
      rw [read] at written
      obtain rfl := Except.ok.inj written
      refine ⟨d, rfl, ?_⟩
      -- A text is read as a word or as a finite double, so its numeral is that of one.
      rw [readDecimal?] at read
      cases word : readInt64? (Text.trim s.toList) with
      | some i =>
        simp only [word, Option.some.injEq] at read
        rw [← read]
        exact .word i
      | none =>
        simp only [word, Option.map_eq_some_iff, Option.filter_eq_some_iff] at read
        obtain ⟨x, ⟨found, finite⟩, rfl⟩ := read
        exact .double finite
  | date t =>
    obtain rfl := Except.ok.inj written
    obtain ⟨i, millis⟩ := exists_word_of_millis t
    rw [Sql.Literal.ofInt, ← millis]
    exact ⟨_, rfl, .word i⟩
  | null => cases written
  | json j => cases written
  | array items => cases written

/-- A date that comes back is written as it was. -/
theorem date_decode (key : String) (t : Instant) :
    Decoding.date (.string t.columnText) = .date t.cut ∧
      date key (.date t.cut) = .ok (.quoted t.columnText) := by
  refine ⟨by rw [Decoding.date, t.read?_columnText], ?_⟩
  show Except.ok (Sql.Literal.quoted t.cut.columnText) = _
  rw [Instant.columnText_cut]

/-- A value that is neither null nor an array. -/
def IsSingle (v : Value) : Prop := v.isNull = false ∧ ∀ items, v ≠ .array items

/-- **What a column of plain values holds is written again as it was.** -/
theorem typed_decode {key : String} {type : PropertyType} {v : Value} {lit : Sql.Literal}
    (plain : type.isSerialized = false)
    (written : typed key type v = .ok lit) :
    IsSingle (Decoding.typed type (.string (heldText lit.text))) ∧
      typed key type (Decoding.typed type (.string (heldText lit.text))) = .ok lit := by
  cases type with
  | number =>
    obtain ⟨d, rfl, numeric⟩ := exists_numeric written
    refine ⟨⟨rfl, nofun⟩, ?_⟩
    -- Whatever the value was, its numeral comes back as a text with that numeral.
    rw [Sql.heldText_number]
    show number key (.string d.text) = _
    rw [number, numeric.readDecimal?_text]
  | boolean =>
    obtain rfl := Except.ok.inj written
    refine ⟨⟨rfl, nofun⟩, ?_⟩
    -- The texts `1` and `0` count as true and false.
    rw [Sql.Literal.ofBool, Sql.Literal.ofInt, Sql.heldText_number]
    cases v.isTruthy <;> rfl
  | date =>
    rw [typed, date] at written
    cases found : instant key v with
    | error e =>
      rw [found] at written
      cases written
    | ok t =>
      rw [found] at written
      obtain rfl := Except.ok.inj written
      obtain ⟨back, again⟩ := date_decode key t
      rw [Sql.heldText_quoted, Decoding.typed, back]
      exact ⟨⟨rfl, nofun⟩, again⟩
  | json => cases plain
  | array inner => cases plain
  | string | text | enumeration values | point =>
    obtain rfl := Except.ok.inj written
    refine ⟨⟨rfl, nofun⟩, ?_⟩
    rw [Sql.heldText_quoted]
    rfl

end Encoding

namespace Model

open Encoding (IsSingle typed)
open Sql (heldText)

/-! ## §3 Columns of a model -/

variable {m : Model} {key : String} {p : Property}

/-- A document is written as its text, whatever kind of value it was. -/
theorem literal_of_serialized (declared : m.property? key = some p)
    (notUuid : m.isUuidId key = false) (serialized : p.type.isSerialized = true) {v : Value}
    (notNull : v.isNull = false) :
    m.literal key v = .ok (.quoted v.toJson.text) := by
  simp [literal, encode, notNull, isSerializedKey, notUuid, declared, serialized]

/-- A single value is written as its column's type asks. -/
theorem literal_of_plain (declared : m.property? key = some p) (notUuid : m.isUuidId key = false)
    (plain : p.type.isSerialized = false) {v : Value} (single : IsSingle v) :
    m.literal key v = typed key p.type v := by
  have item : m.itemLiteral key v = typed key p.type v := by
    simp [itemLiteral, notUuid, Encoding.scalar, single.1, declared]
  have noText : m.isSerializedKey key = false := by
    simp [isSerializedKey, notUuid, declared, plain]
  rw [literal_of_single noText single.2, item]

/-- An array has no single literal in a column of plain values. -/
theorem isSingle_of_literal (declared : m.property? key = some p) (notUuid : m.isUuidId key = false)
    (plain : p.type.isSerialized = false) {v : Value} (notNull : v.isNull = false)
    {lit : Sql.Literal} (written : m.literal key v = .ok lit) : IsSingle v := by
  refine ⟨notNull, ?_⟩
  rintro items rfl
  have noText : m.isSerializedKey key = false := by
    simp [isSerializedKey, notUuid, declared, plain]
  rw [literal, encode, notNull, noText] at written
  cases items : tryMap (m.itemLiteral key) items <;> simp [items] at written

/-- **What a column holds is written again as it was.**  Of a document this asks that it is read
back from its text; numbers, dates and texts always are, or come back as values with the same
literal. -/
theorem literal_decode_heldText (declared : m.property? key = some p)
    (notArray : ∀ inner, p.type ≠ .array inner) (notUuid : m.isUuidId key = false) {v : Value}
    (notNull : v.isNull = false) (document : p.type = .json → v.toJson.Readable maxDepth)
    {lit : Sql.Literal} (written : m.literal key v = .ok lit) :
    m.literal key (m.decode key (.string (heldText lit.text))) = .ok lit := by
  have decoded : m.decode key (.string (heldText lit.text)) =
      Decoding.typed p.type (.string (heldText lit.text)) := by
    rw [decode, declared]
    rfl
  rw [decoded]
  cases serialized : p.type.isSerialized with
  | true =>
    -- Of the types that are stored as documents, arrays are excluded.
    have json : p.type = .json := by
      cases type : p.type with
      | json => rfl
      | array inner => exact absurd type (notArray inner)
      | _ =>
        rw [type] at serialized
        cases serialized
    rw [literal_of_serialized declared notUuid serialized notNull] at written
    obtain rfl := Except.ok.inj written
    rw [Sql.heldText_quoted, json, Decoding.typed, Decoding.document,
      Json.read?_text (document json)]
    exact literal_of_serialized declared notUuid serialized rfl
  | false =>
    have single := isSingle_of_literal declared notUuid serialized notNull written
    rw [literal_of_plain declared notUuid serialized single] at written
    obtain ⟨again, same⟩ := Encoding.typed_decode serialized written
    rw [literal_of_plain declared notUuid serialized again, same]

/-- A model with a column of numbers. -/
def priced : Model := ⟨"item", none, [.ofType "price" .number], [], ⟨none, .server⟩⟩

/-- The double `0.1` is held as the text `0.1` and written as the same numeral again. -/
theorem literal_decode_heldText_tenth :
    priced.literal "price" (.float ⟨0x3FB999999999999A⟩) = .ok (.number ⟨false, 0, [1]⟩) ∧
      priced.literal "price" (priced.decode "price"
        (.string (heldText (Sql.Literal.number ⟨false, 0, [1]⟩).text))) =
          .ok (.number ⟨false, 0, [1]⟩) := by
  have declared : priced.property? "price" = some (.ofType "price" .number) := rfl
  have numeral : Encoding.decimalOf ⟨0x3FB999999999999A⟩ = ⟨false, 0, [1]⟩ := by decide +kernel
  have written : priced.literal "price" (.float ⟨0x3FB999999999999A⟩) =
      .ok (.number ⟨false, 0, [1]⟩) := by
    have single : IsSingle (.float ⟨0x3FB999999999999A⟩) := ⟨rfl, nofun⟩
    have finite : (⟨0x3FB999999999999A⟩ : Binary64).isFinite = true := by decide
    rw [literal_of_plain declared rfl rfl single, ← numeral]
    show Encoding.number "price" (.float ⟨0x3FB999999999999A⟩) = _
    rw [Encoding.number, if_pos finite]
  exact ⟨written, literal_decode_heldText declared nofun rfl rfl nofun written⟩

end Model

end TableMapper
