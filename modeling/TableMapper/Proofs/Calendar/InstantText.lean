import TableMapper.Proofs.Calendar.ZoneMarker

/-!
# Column texts of instants are read back

`Instant.readChars?_columnChars`: the text of a date column is read as the instant it was written
for, cut to milliseconds.  It is a date text without any marker.
-/

namespace TableMapper

namespace Instant

open InstantReader

/-- What a clock shows in milliseconds, as the fraction of a second. -/
def milliFraction (t : Instant) : Fraction where
  places := 3
  part := t.clock.nanos / 1000000
  few := by decide
  fits := by
    obtain ⟨-, -, nanos⟩ := bounds_of_isReading t.isReading_clock
    unfold nanosPerSecond at nanos
    omega

/-- What the text of a date column says. -/
def columnWords (t : Instant) : DateText :=
  ⟨t.clock.date, .seconds .blanks t.clock.hour t.clock.minute t.clock.second t.milliFraction⟩

/-- The text of a date column is a date text. -/
theorem chars_columnWords (t : Instant) : t.columnWords.chars = t.columnChars := by
  simp [columnWords, DateText.chars, TimeText.chars, Separator.char, Fraction.chars, milliFraction,
    columnChars, ClockReading.dateChars, ClockReading.timeChars, ClockReading.milliChars]

/-- The text says what the clock shows, cut to milliseconds. -/
theorem reading_columnWords (t : Instant) : t.columnWords.reading = t.cut.clock := by
  rw [clock_cut]
  rfl

/-- **The text of a date column is read as its instant, cut to milliseconds.** -/
theorem readChars?_columnChars (t : Instant) : readChars? t.columnChars = some t.cut := by
  have fits : t.columnWords.Fits := by
    apply t.columnWords.fits_of_isReading
    rw [reading_columnWords]
    exact t.cut.isReading_clock
  have read := readChars?_marked fits (List.forall_mem_nil _) (List.forall_mem_nil _) (.letters 0)
  rw [chars_columnWords, reading_columnWords, ofClock?_clock] at read
  simpa using read

theorem read?_columnText (t : Instant) : read? t.columnText = some t.cut := by
  rw [read?, columnText, String.toList_ofList, readChars?_columnChars]

end Instant

end TableMapper
