import TableMapper.Proofs.Column.Stability

/-!
# Dates in columns

A date is stored as text, cut to milliseconds, and comes back as what was stored.  `dates_readBack`
says so of all instants there are, before and after 1970, in years with a sign, and in leap seconds,
and of all columns of dates, the id of a model with UUIDs included.
-/

namespace TableMapper

open Sql (heldText)

namespace Model

variable {m : Model} {key : String} {p : Property}

/-- A date is written as its text, also where ids are UUIDs. -/
theorem literal_date (declared : m.property? key = some p) (date : p.type = .date) (t : Instant) :
    m.literal key (.date t) = .ok (.quoted t.columnText) := by
  cases uuid : m.isUuidId key with
  | true =>
    simp [literal, encode, isSerializedKey, itemLiteral, uuid, Value.isNull, Encoding.textOf]
  | false =>
    have plain : p.type.isSerialized = false := by
      rw [date]
      rfl
    -- A date is neither null nor a list.
    have single : Encoding.IsSingle (.date t) := by
      refine ⟨rfl, ?_⟩
      intro items same
      cases same
    rw [literal_of_plain declared uuid plain single, date]
    rfl

/-- The text of a date comes back as the date, without what the text leaves out. -/
theorem decode_date (declared : m.property? key = some p) (date : p.type = .date) (t : Instant) :
    m.decode key (.string t.columnText) = .date t.cut := by
  rw [decode, declared]
  show Decoding.typed p.type (.string t.columnText) = _
  rw [date]
  exact (Encoding.date_decode key t).1

/-- **A date is read back from its text, cut to milliseconds.**  In a column of dates it comes back
as that, and is then written as it was. -/
theorem dates_readBack (t : Instant) :
    ∃ u, Instant.read? t.columnText = some u ∧
      (u.seconds = t.seconds ∧ u.nanos = t.nanos / 1000000 * 1000000 ∧
        (nanosPerSecond ≤ u.nanos ↔ nanosPerSecond ≤ t.nanos)) ∧
      ∀ (m : Model) (key : String) (p : Property), m.property? key = some p → p.type = .date →
        ∃ lit, m.literal key (.date t) = .ok lit ∧
          m.decode key (.string (heldText lit.text)) = .date u ∧
            m.literal key (.date u) = .ok lit := by
  refine ⟨t.cut, t.read?_columnText, ⟨rfl, rfl, t.leap_cut⟩, ?_⟩
  intro m key p declared date
  refine ⟨_, literal_date declared date t, ?_, ?_⟩
  · rw [Sql.heldText_quoted, decode_date declared date]
  · -- Cutting once more changes nothing.
    rw [literal_date declared date, Instant.columnText_cut]

/-- A model whose ids are UUIDs, declared as dates. -/
def datedIds : Model := ⟨"log", none, [.ofType idColumn .date], [], ⟨none, .random⟩⟩

/-- The last leap second of the year -1, with all its nanoseconds. -/
def leapSecond : Instant := ⟨-62167219201, 1999999999, by decide, by decide⟩

theorem dates_readBack_leapSecond :
    leapSecond.columnText = "-0001-12-31 23:59:60.999" ∧
      ∃ u, Instant.read? leapSecond.columnText = some u ∧ u.nanos = 1999000000 ∧
        ∃ lit, datedIds.literal idColumn (.date leapSecond) = .ok lit ∧
          datedIds.decode idColumn (.string (heldText lit.text)) = .date u ∧
          datedIds.literal idColumn (.date u) = .ok lit := by
  obtain ⟨u, read, ⟨-, nanos, -⟩, columns⟩ := dates_readBack leapSecond
  exact ⟨by decide +kernel, u, read, nanos, columns datedIds idColumn _ rfl rfl⟩

end Model

end TableMapper
