import TableMapper.Proofs.Column.Faults

/-!
# Values that have a literal

Which values can be written to the column of a key as one literal, and what is wrong with the
others.

- `Encoding.IsNumber` and `Encoding.IsDate` are the values that columns of numbers and of dates
  take, and `Encoding.Fits` says it of a column of any type;
- `Model.Encodable` lists the values that have a literal under a key, null and documents included;
- `Model.Offends` gives the error of each other value: its own fault, that of the first item of a
  list, or that it is a list.
-/

namespace TableMapper

/-! ## §1 Numbers and dates -/

namespace Encoding

/-- The values that a column of numbers takes. -/
inductive IsNumber : Value → Prop where
  | int (i : Int64) : IsNumber (.int i)
  | bool (b : Bool) : IsNumber (.bool b)
  | date (t : Instant) : IsNumber (.date t)
  | float {x : Binary64} (finite : x.isFinite = true) : IsNumber (.float x)
  /-- A text that is an integer that fits a word, between blanks. -/
  | word {s : String} {i : Int64} (read : Numeral.readInt64? (Text.trim s.toList) = some i) :
    IsNumber (.string s)
  /-- A text that is a finite double, between blanks. -/
  | double {s : String} {x : Binary64} (read : Numeral.readDouble? (Text.trim s.toList) = some x)
      (finite : x.isFinite = true) : IsNumber (.string s)

/-- The values that a column of dates takes. -/
inductive IsDate : Value → Prop where
  | date (t : Instant) : IsDate (.date t)
  /-- Milliseconds within the years there are. -/
  | millis {i : Int64} (low : firstSecond * 1000 ≤ i.toInt)
      (high : i.toInt < (lastSecond + 1) * 1000) :
      IsDate (.int i)
  | text {s : String} {t : Instant} (read : Instant.read? s = some t) : IsDate (.string s)

/-- What is wrong with a value that is no number. -/
def numberFault : Value → ValueFault
  | .float x => .notFinite x
  | .string s => .textNotNumber s
  | v => .notNumber v

/-- What is wrong with a value that is no date. -/
def dateFault : Value → ValueFault
  | .string s => .textNotDate s
  | .int millis => .millisOutOfRange millis
  | v => .notDate v

/-- Whether a column of the type takes the value; all but those of numbers and dates take any
value. -/
def Fits : PropertyType → Value → Prop
  | .number, v => IsNumber v
  | .date, v => IsDate v
  | _, _ => True

/-- What is wrong with a value that does not fit a column of the type. -/
def misfit : PropertyType → Value → ValueFault
  | .date, v => dateFault v
  | _, v => numberFault v

variable {key : String} {v : Value} {e : Error}

/-- Texts that are no numbers have no numeral. -/
theorem readDecimal?_eq_none_iff {s : String} : readDecimal? s = none ↔ ¬ IsNumber (.string s) := by
  rw [readDecimal?]
  -- A text is tried as a word first, and then as a double.
  cases word : Numeral.readInt64? (Text.trim s.toList) with
  | some i =>
    simp only [reduceCtorEq, false_iff, not_not]
    exact .word word
  | none =>
    simp only [Option.map_eq_none_iff, Option.filter_eq_none_iff]
    constructor
    · intro unread number
      cases number with
      | word read => cases word.symm.trans read
      | double read finite => exact unread _ read finite
    · intro unread x read finite
      exact unread (.double read finite)

/-- A column of numbers refuses what is no number, each for its own fault. -/
theorem number_eq_error_iff :
    number key v = .error e ↔ ¬ IsNumber v ∧ e = .invalidValue key (numberFault v) := by
  -- One case for each kind of value; documents and lists are never numbers.
  cases v with
  | int i => simpa [number] using fun not => absurd (.int i) not
  | bool b => simpa [number] using fun not => absurd (.bool b) not
  | date t => simpa [number] using fun not => absurd (.date t) not
  | float x =>
    have finite : IsNumber (.float x) ↔ x.isFinite = true := by
      constructor
      · intro h
        cases h with
        | float finite => exact finite
      · exact .float
    rw [finite]
    cases test : x.isFinite <;> simp [number, test, numberFault, eq_comm]
  | string s =>
    rw [← readDecimal?_eq_none_iff]
    cases read : readDecimal? s <;> simp [number, read, numberFault, eq_comm]
  | null | json | array =>
    simp only [number, Except.error.injEq, numberFault, eq_comm (a := e)]
    apply (and_iff_right _).symm
    intro h
    cases h

/-- Milliseconds outside of the years there are have no instant. -/
theorem ofMillis?_eq_none_iff {i : Int64} :
    Instant.ofMillis? i.toInt = none ↔ ¬ IsDate (.int i) := by
  have range : IsDate (.int i) ↔ firstSecond ≤ i.toInt / 1000 ∧ i.toInt / 1000 ≤ lastSecond := by
    constructor
    · intro h
      cases h with
      | millis low high => omega
    · intro ⟨low, high⟩
      apply IsDate.millis <;> omega
  rw [range, Instant.ofMillis?, Instant.of?]
  have nanos : (i.toInt % 1000).toNat * 1000000 < nanosPerSecond := by
    have bound := Int.emod_lt_of_pos i.toInt (show (0 : Int) < 1000 by decide)
    simp only [nanosPerSecond]
    omega
  -- Only the seconds may be out of range.
  split <;> simp_all

/-- A column of dates refuses what is no date. -/
theorem instant_eq_error_iff :
    instant key v = .error e ↔ ¬ IsDate v ∧ e = .invalidValue key (dateFault v) := by
  -- Only dates, milliseconds and texts can be dates.
  cases v with
  | date t => simpa [instant] using fun not => absurd (.date t) not
  | int i =>
    rw [← ofMillis?_eq_none_iff]
    cases read : Instant.ofMillis? i.toInt <;> simp [instant, read, dateFault, eq_comm]
  | string s =>
    have text : IsDate (.string s) ↔ ∃ t, Instant.read? s = some t := by
      constructor
      · intro h
        cases h with
        | text read => exact ⟨_, read⟩
      · intro ⟨t, read⟩
        exact .text read
    rw [text]
    cases read : Instant.read? s <;> simp [instant, read, dateFault, eq_comm]
  | null | bool | float | json | array =>
    simp only [instant, Except.error.injEq, dateFault, eq_comm (a := e)]
    apply (and_iff_right _).symm
    intro h
    cases h

/-- **A column refuses exactly the values that do not fit its type.** -/
theorem typed_eq_error_iff {type : PropertyType} :
    typed key type v = .error e ↔ ¬ Fits type v ∧ e = .invalidValue key (misfit type v) := by
  cases type with
  | number => exact number_eq_error_iff
  | date =>
    simp only [typed, date, Fits, misfit, ← instant_eq_error_iff]
    cases instant key v <;> simp
  | _ => simp [typed, Fits]

end Encoding

/-! ## §2 Values under a key -/

/-- Whether columns of the type take any value that is not a list. -/
def PropertyType.takesAny : PropertyType → Bool
  | .string => true
  | .text => true
  | .boolean => true
  | .enumeration _ => true
  | .point => true
  | _ => false

namespace Model

open Encoding (IsNumber IsDate Fits misfit)

/-- The values that are written under a key as one literal. -/
inductive Encodable (m : Model) (key : String) : Value → Prop where
  | null : Encodable m key .null
  /-- Any value has a document. -/
  | document {p : Property} {v : Value} (declared : m.property? key = some p)
      (notUuid : m.isUuidId key = false)
      (serialized : p.type.isSerialized = true) : Encodable m key v
  | undeclared {v : Value} (unknown : m.property? key = none) (single : ∀ items, v ≠ .array items) :
    Encodable m key v
  | uuid {v : Value} (uuid : m.isUuidId key = true) (single : ∀ items, v ≠ .array items) :
    Encodable m key v
  | any {p : Property} {v : Value} (declared : m.property? key = some p)
      (takesAny : p.type.takesAny = true)
      (single : ∀ items, v ≠ .array items) : Encodable m key v
  | number {p : Property} {v : Value} (declared : m.property? key = some p)
      (type : p.type = .number)
      (number : IsNumber v) : Encodable m key v
  | date {p : Property} {v : Value} (declared : m.property? key = some p) (type : p.type = .date)
      (date : IsDate v) : Encodable m key v

/-- A value that does not fit the column of a key, with its error.  An id that is a UUID is written
as text, whatever its type. -/
inductive Misfits (m : Model) (key : String) : Value → Error → Prop where
  | intro {p : Property} {v : Value} (declared : m.property? key = some p)
      (notUuid : m.isUuidId key = false)
      (notNull : v.isNull = false) (other : ¬ Fits p.type v) :
      Misfits m key v (.invalidValue key (misfit p.type v))

/-- A value that is not written under a key as one literal, with its error. -/
inductive Offends (m : Model) (key : String) : Value → Error → Prop where
  | single {v : Value} {e : Error} (single : ∀ items, v ≠ .array items)
      (misfits : m.Misfits key v e) : Offends m key v e
  /-- The first item that does not fit decides. -/
  | item {before after : List Value} {v : Value} {e : Error}
      (fit : ∀ u ∈ before, ∀ e, ¬ m.Misfits key u e)
      (misfits : m.Misfits key v e) : Offends m key (.array (before ++ v :: after)) e
  /-- A list all of whose items fit is still a list. -/
  | list {items : List Value} (plain : m.isSerializedKey key = false)
      (fit : ∀ u ∈ items, ∀ e, ¬ m.Misfits key u e) :
      Offends m key (.array items) (.invalidFilter (.listForSingle key))

variable {m : Model} {key : String} {v : Value} {e : Error}

/-- Columns of documents take any value. -/
theorem fits_of_isSerialized {type : PropertyType} (serialized : type.isSerialized = true) :
    Fits type v := by
  cases type with
  | number | date => cases serialized
  | _ => exact trivial

/-- An item has no literal exactly if it does not fit. -/
theorem itemLiteral_eq_error_iff : m.itemLiteral key v = .error e ↔ m.Misfits key v e := by
  constructor
  · intro failed
    -- The encoder asks for an id, for null, for the property and for its type, in this order.
    unfold itemLiteral at failed
    split at failed
    case isTrue => cases failed
    case isFalse notText =>
      unfold Encoding.scalar at failed
      split at failed
      case isTrue => cases failed
      case isFalse notNull =>
        have notNull := Bool.eq_false_iff.2 notNull
        split at failed
        case h_1 => cases failed
        case h_2 p declared =>
          obtain ⟨other, rfl⟩ := Encoding.typed_eq_error_iff.1 failed
          exact .intro declared (by simpa [notNull] using notText) notNull other
  · intro misfits
    cases misfits with
    | @intro p v declared notUuid notNull other =>
      simp only [itemLiteral, Encoding.scalar, notUuid, notNull, declared, Bool.false_eq_true,
        false_and, if_false]
      exact Encoding.typed_eq_error_iff.2 ⟨other, rfl⟩

/-- The keys of documents are those of properties that hold them, but for the id of a model with
UUIDs. -/
theorem isSerializedKey_iff :
    m.isSerializedKey key = true ↔
      m.isUuidId key = false ∧ ∃ p, m.property? key = some p ∧ p.type.isSerialized = true := by
  simp only [isSerializedKey, Bool.and_eq_true, Bool.not_eq_true', Option.any_eq_true]

/-- A value fits or misfits, but not both. -/
theorem not_misfits_of_fits {p : Property} (declared : m.property? key = some p)
    (fits : Fits p.type v) :
    ¬ m.Misfits key v e := by
  intro misfits
  cases misfits with
  | intro declared' _ _ other =>
    cases declared.symm.trans declared'
    exact other fits

/-- Under a key of documents nothing is refused. -/
theorem not_misfits_of_isSerializedKey (serialized : m.isSerializedKey key = true) :
    ¬ m.Misfits key v e := by
  obtain ⟨-, p, declared, documents⟩ := isSerializedKey_iff.1 serialized
  exact not_misfits_of_fits declared (fits_of_isSerialized documents)

/-- What fits has a literal as an item. -/
theorem exists_itemLiteral_iff :
    (∃ literal, m.itemLiteral key v = .ok literal) ↔ ∀ e, ¬ m.Misfits key v e := by
  simp only [← itemLiteral_eq_error_iff]
  cases m.itemLiteral key v <;> simp

/-- Under a key of documents a value is written as the text of its document, lists included. -/
theorem literal_of_isSerializedKey (serialized : m.isSerializedKey key = true) (v : Value) :
    m.literal key v = .ok (if v.isNull then .null else .quoted v.toJson.text) := by
  unfold literal encode
  rw [serialized]
  cases v.isNull <;> rfl

/-- A list fails with its first item that fails, or because it is a list. -/
theorem literal_array_eq_error_iff {items : List Value} (plain : m.isSerializedKey key = false) :
    m.literal key (.array items) = .error e ↔
      tryMap (m.itemLiteral key) items = .error e ∨
        (∃ literals, tryMap (m.itemLiteral key) items = .ok literals) ∧
          e = .invalidFilter (.listForSingle key) := by
  simp only [literal, encode, Value.isNull, plain, Bool.false_eq_true, if_false]
  cases tryMap (m.itemLiteral key) items <;> simp [eq_comm]

/-- **A value without a single literal fails for what is wrong with it.** -/
theorem literal_eq_error_iff : m.literal key v = .error e ↔ m.Offends key v e := by
  cases serialized : m.isSerializedKey key with
  | true =>
    rw [literal_of_isSerializedKey serialized]
    refine ⟨nofun, fun offends => ?_⟩
    cases offends with
    | single _ misfits => exact absurd misfits (not_misfits_of_isSerializedKey serialized)
    | item _ misfits => exact absurd misfits (not_misfits_of_isSerializedKey serialized)
    | list plain => cases serialized.symm.trans plain
  | false =>
    -- A list fails with its first item that does, and if none does, because it is a list.
    by_cases array : ∃ items, v = .array items
    · obtain ⟨items, rfl⟩ := array
      rw [literal_array_eq_error_iff serialized, tryMap_eq_error_iff, exists_tryMap_eq_ok_iff]
      simp only [exists_itemLiteral_iff, itemLiteral_eq_error_iff]
      constructor
      · rintro (⟨before, item, after, rfl, fit, misfits⟩ | ⟨fit, rfl⟩)
        · exact .item fit misfits
        · exact .list serialized fit
      · intro offends
        cases offends with
        | single single => exact absurd rfl (single items)
        | item fit misfits => exact .inl ⟨_, _, _, rfl, fit, misfits⟩
        | list _ fit => exact .inr ⟨fit, rfl⟩
    · have single : ∀ items, v ≠ .array items := not_exists.1 array
      rw [literal_of_single serialized single, itemLiteral_eq_error_iff]
      constructor
      · exact .single single
      · intro offends
        cases offends with
        | single _ misfits => exact misfits
        | item | list => exact absurd rfl (single _)

/-- A value of a column that takes it has a literal if it is not a list. -/
theorem encodable_of_fits {p : Property} (declared : m.property? key = some p)
    (plain : p.type.isSerialized = false) (single : ∀ items, v ≠ .array items)
    (fits : Fits p.type v) : m.Encodable key v := by
  cases type : p.type with
  | number =>
    rw [type] at fits
    exact .number declared type fits
  | date =>
    rw [type] at fits
    exact .date declared type fits
  | json | array =>
    rw [type] at plain
    cases plain
  | string | text | boolean | enumeration | point => exact .any declared (by rw [type]; rfl) single

/-- Values have a literal under a key of documents, as null, or if they are no lists and fit. -/
theorem encodable_iff : m.Encodable key v ↔
    m.isSerializedKey key = true ∨ v = .null ∨
      (∀ items, v ≠ .array items) ∧ ∀ e, ¬ m.Misfits key v e := by
  constructor
  · intro encodable
    cases encodable with
    | null => exact .inr (.inl rfl)
    | document declared notUuid serialized =>
      exact .inl (isSerializedKey_iff.2 ⟨notUuid, _, declared, serialized⟩)
    | undeclared unknown single =>
      refine .inr (.inr ⟨single, fun e misfits => ?_⟩)
      cases misfits with
      | intro declared => cases unknown.symm.trans declared
    | uuid uuid single =>
      refine .inr (.inr ⟨single, fun e misfits => ?_⟩)
      cases misfits with
      | intro _ notUuid => cases uuid.symm.trans notUuid
    -- The column of a property other than documents: the value is no list and fits its type.
    | @any p v declared takesAny single =>
      have fits : Fits p.type v := by
        cases type : p.type with
        | number | date =>
          rw [type] at takesAny
          cases takesAny
        | _ => exact trivial
      exact .inr (.inr ⟨single, fun e => not_misfits_of_fits declared fits⟩)
    | @number p v declared type number =>
      have single : ∀ items, v ≠ .array items := by
        rintro items rfl
        cases number
      have fits : Fits p.type v := by rwa [type]
      exact .inr (.inr ⟨single, fun e => not_misfits_of_fits declared fits⟩)
    | @date p v declared type date =>
      have single : ∀ items, v ≠ .array items := by
        rintro items rfl
        cases date
      have fits : Fits p.type v := by rwa [type]
      exact .inr (.inr ⟨single, fun e => not_misfits_of_fits declared fits⟩)
  · rintro (serialized | rfl | ⟨single, fit⟩)
    · obtain ⟨notUuid, p, declared, documents⟩ := isSerializedKey_iff.1 serialized
      exact .document declared notUuid documents
    · exact .null
    -- The same questions as the encoder asks, in its order.
    · cases uuid : m.isUuidId key with
      | true => exact .uuid uuid single
      | false =>
        cases declared : m.property? key with
        | none => exact .undeclared declared single
        | some p =>
          cases null : v.isNull with
          | true =>
            cases v with
            | null => exact .null
            | _ => cases null
          | false =>
            cases documents : p.type.isSerialized with
            | true => exact .document declared uuid documents
            | false =>
              apply encodable_of_fits declared documents single
              by_contra other
              exact fit _ (.intro declared uuid null other)

/-- **The values with a literal are the encodable ones.** -/
theorem exists_literal_iff : (∃ literal, m.literal key v = .ok literal) ↔ m.Encodable key v := by
  rw [encodable_iff]
  cases serialized : m.isSerializedKey key with
  | true => simp [literal_of_isSerializedKey serialized]
  | false =>
    by_cases array : ∃ items, v = .array items
    · obtain ⟨items, rfl⟩ := array
      have failed : ∃ e, m.literal key (.array items) = .error e := by
        simp only [literal_array_eq_error_iff serialized]
        cases tryMap (m.itemLiteral key) items <;> simp
      obtain ⟨e, failed⟩ := failed
      simp [failed]
    · have single : ∀ items, v ≠ .array items := not_exists.1 array
      rw [literal_of_single serialized single, exists_itemLiteral_iff]
      -- Null fits everywhere.
      have null : v = .null → ∀ e, ¬ m.Misfits key v e := by
        rintro rfl e misfits
        cases misfits with
        | intro _ _ notNull => cases notNull
      simp only [Bool.false_eq_true, false_or, single, ne_eq, not_false_eq_true,
        implies_true, true_and]
      exact ⟨.inr, fun h => h.elim null id⟩

end Model

end TableMapper
