import TableMapper.Column.Decoding
import TableMapper.Proofs.Calendar.ZoneMarker
import TableMapper.Proofs.Text.Octets
import TableMapper.Server.Row

/-!
# Dates in both protocols

A server sends a date as numbers or as their text.  The numbers are made an instant at once, the
text is decoded, cut and tried in several layouts.  `Model.dateProtocols_agree` says that a column
of dates gets the same value from both: the date, if the numbers are one with a time of day, and
null otherwise.
-/

namespace TableMapper

open Decimal (paddedChars)
open InstantReader
open Text (octets)

/-! ## §1 Texts of dates -/

namespace RawDate

/-- The date as the server writes it. -/
def chars (d : RawDate) : List Char :=
  paddedChars 4 d.year ++ '-' :: (paddedChars 2 d.month ++ '-' :: (paddedChars 2 d.day ++ ' ' ::
    (paddedChars 2 d.hour ++ ':' :: (paddedChars 2 d.minute ++ ':' :: (paddedChars 2 d.second ++
      '.' :: paddedChars 6 d.micros)))))

def text (d : RawDate) : String := String.ofList d.chars

/-- What a clock would show at the date. -/
def reading (d : RawDate) : ClockReading :=
  ⟨⟨d.year, d.month, d.day⟩, d.hour, d.minute, d.second, d.micros * 1000⟩

/-- The numbers that a server sends have room in the text, and no second is a leap second. -/
structure FitsText (d : RawDate) : Prop where
  year : d.year ≤ 9999
  month : d.month ≤ 99
  day : d.day ≤ 99
  hour : d.hour ≤ 99
  minute : d.minute ≤ 99
  second : d.second ≤ 59
  micros : d.micros ≤ 999999

variable {d : RawDate}

/-- The text as one of a date and time with microseconds. -/
def words (d : RawDate) (fits : d.FitsText) : DateText :=
  ⟨⟨d.year, d.month, d.day⟩,
    .seconds .blanks d.hour d.minute d.second
      ⟨6, d.micros, by decide, Nat.lt_succ_of_le fits.micros⟩⟩

/-- The server's text is a date text with microseconds. -/
theorem chars_words (fits : d.FitsText) : (d.words fits).chars = d.chars := by
  have plain : (0 : Int) ≤ d.year ∧ (d.year : Int) ≤ 9999 :=
    ⟨Int.natCast_nonneg _, Int.ofNat_le.2 fits.year⟩
  have year : yearChars d.year = paddedChars 4 d.year := if_pos plain
  simp only [DateText.chars, words, year]
  rfl

/-- Its numbers have two digits each. -/
theorem fits_words (fits : d.FitsText) : (d.words fits).Fits where
  month := Nat.lt_succ_of_le fits.month
  day := Nat.lt_succ_of_le fits.day
  hour := Nat.lt_succ_of_le fits.hour
  minute := Nat.lt_succ_of_le fits.minute
  second := Nat.lt_of_le_of_lt fits.second (by decide)

/-- **The text is read as the instant of its numbers**, if they have one. -/
theorem readChars?_chars (fits : d.FitsText) :
    Instant.readChars? d.chars = Instant.ofClock? d.reading 0 := by
  have read :=
    Instant.readChars?_marked (fits_words fits) (List.forall_mem_nil _) (List.forall_mem_nil _)
      (.letters 0)
  have reading : (d.words fits).reading = d.reading := rfl
  rw [chars_words fits, reading] at read
  simpa using read

/-- The numbers are made the same instant. -/
theorem instant?_eq (fits : d.FitsText) : RawValue.instant? d = Instant.ofClock? d.reading 0 := by
  have second : d.second < 60 := Nat.lt_succ_of_le fits.second
  have notLeap : d.second ≠ 60 := Nat.ne_of_lt second
  have micros : d.micros * 1000 < nanosPerSecond := by
    have bound := fits.micros
    unfold nanosPerSecond
    omega
  -- The two differ in how they ask whether a clock can show the numbers.
  have same : Instant.isReading d.reading = true ↔
      CivilDate.isValid ⟨d.year, d.month, d.day⟩ = true ∧ d.hour < 24 ∧ d.minute < 60 ∧
        d.second < 60 := by
    simp [Instant.isReading, reading, micros, second, Nat.le_of_lt second]
  simp only [RawValue.instant?, Instant.ofClock?, same]
  simp only [reading, notLeap, if_false, Int.sub_zero]

end RawDate

/-! ## §2 Columns of dates -/

namespace Model

variable {m : Model} {key : String} {p : Property} {d : RawDate}

/-- What a column of dates holds, when the server sends the date as numbers. -/
theorem decode_rawDate (declared : m.property? key = some p) (date : p.type = .date)
    (fits : d.FitsText) (type : ServerType) :
    m.decode key ((RawValue.date d).toValue type) =
      (Instant.ofClock? d.reading 0).elim .null .date := by
  have value : (RawValue.date d).toValue type = RawValue.ofDate d := rfl
  rw [value, RawValue.ofDate, RawDate.instant?_eq fits]
  cases Instant.ofClock? d.reading 0 with
  | none => rfl
  | some t =>
    rw [decode, declared]
    show Decoding.typed p.type (.date t) = _
    rw [date]
    rfl

/-- What a column of dates holds, when the server sends the date as text. -/
theorem decode_dateText (declared : m.property? key = some p) (date : p.type = .date)
    (fits : d.FitsText) :
    m.decode key ((RawValue.bytes (octets d.text)).toValue (.ofName "DATETIME")) =
      (Instant.ofClock? d.reading 0).elim .null .date := by
  have ascii : ∀ c ∈ d.chars, c.toNat < 128 := by
    rw [← RawDate.chars_words fits]
    exact ascii_of_mem_chars _
  -- The server's type is none that would be read as a number.
  have other : ServerType.ofName "DATETIME" = .other := by decide
  have value : (RawValue.bytes (octets d.text)).toValue .other = .string d.text := by
    rw [RawValue.toValue, RawValue.ofText, RawDate.text, Text.decodeLossy_octets ascii]
  have read : Instant.read? d.text = Instant.ofClock? d.reading 0 := by
    rw [Instant.read?, RawDate.text, String.toList_ofList, RawDate.readChars?_chars fits]
  rw [other, value, decode, declared]
  show Decoding.typed p.type (.string d.text) = _
  rw [date, Decoding.typed, Decoding.date, read]
  cases Instant.ofClock? d.reading 0 <;> rfl

/-- **Both protocols give the same dates.**  Whatever numbers the server sends, as themselves or as
their text, the column holds the instant at which a clock shows them, or null if no clock does. -/
theorem dateProtocols_agree (declared : m.property? key = some p) (date : p.type = .date)
    (fits : d.FitsText) :
    m.decode key ((RawValue.bytes (octets d.text)).toValue (.ofName "DATETIME")) =
        m.decode key ((RawValue.date d).toValue (.ofName "DATETIME")) ∧
      (Instant.isReading d.reading = true →
        ∃ t : Instant, t.clock = d.reading ∧
          m.decode key ((RawValue.date d).toValue (.ofName "DATETIME")) = .date t) ∧
      (Instant.isReading d.reading = false →
        m.decode key ((RawValue.date d).toValue (.ofName "DATETIME")) = .null) := by
  refine ⟨?_, ?_, ?_⟩
  · rw [decode_dateText declared date fits, decode_rawDate declared date fits]
  · intro reading
    -- The year has four digits, so a valid reading is an instant that there is.
    have plain : (0 : Int) ≤ d.year ∧ (d.year : Int) ≤ 9999 :=
      ⟨Int.natCast_nonneg _, Int.ofNat_le.2 fits.year⟩
    obtain ⟨t, found⟩ := Instant.exists_ofClock? reading plain
    refine ⟨t, Instant.clock_of_ofClock? found, ?_⟩
    rw [decode_rawDate declared date fits, found, Option.elim_some]
  · intro noReading
    have none : Instant.ofClock? d.reading 0 = none := if_neg (by simp [noReading])
    rw [decode_rawDate declared date fits, none, Option.elim_none]

/-- A model with a column of dates. -/
def visits : Model := ⟨"visit", none, [.ofType "at" .date], [], ⟨none, .server⟩⟩

/-- The last microsecond of a leap day. -/
def leapDay : RawDate := ⟨2024, 2, 29, 23, 59, 59, 999999⟩

/-- No day, as February has none with this number. -/
def noDay : RawDate := ⟨2023, 2, 29, 0, 0, 0, 0⟩

theorem dateProtocols_agree_visits :
    leapDay.text = "2024-02-29 23:59:59.999999" ∧ noDay.text = "2023-02-29 00:00:00.000000" ∧
      (∃ t : Instant, t.clock = leapDay.reading ∧
        visits.decode "at" ((RawValue.bytes (octets leapDay.text)).toValue (.ofName "DATETIME")) =
          .date t) ∧
      visits.decode "at" ((RawValue.bytes (octets noDay.text)).toValue (.ofName "DATETIME")) =
        .null := by
  have declared : visits.property? "at" = some (.ofType "at" .date) := rfl
  obtain ⟨same, valid, -⟩ := dateProtocols_agree declared rfl (d := leapDay)
    ⟨by decide, by decide, by decide, by decide, by decide, by decide, by decide⟩
  obtain ⟨same', -, invalid⟩ := dateProtocols_agree declared rfl (d := noDay)
    ⟨by decide, by decide, by decide, by decide, by decide, by decide, by decide⟩
  obtain ⟨t, clock, value⟩ := valid (by decide)
  exact ⟨by decide +kernel, by decide +kernel, ⟨t, clock, same.trans value⟩,
    same'.trans (invalid (by decide))⟩

end Model

end TableMapper
