import TableMapper.Calendar.InstantText
import TableMapper.Proofs.Calendar.Date

/-!
# Instants and their clock readings

`ofClock?_clock` puts an instant together again from its date and its time of day, leap seconds
included.  `Instant.cut` is the instant without what the texts of columns and documents leave out.
-/

namespace TableMapper.Instant

/-! ## §1 Clock readings -/

/-- The parts of an instant pass its checks. -/
theorem of?_eq_some {t : Instant} {seconds : Int} {nanos : Nat} (sameSeconds : seconds = t.seconds)
    (sameNanos : nanos = t.nanos) : of? seconds nanos = some t := by
  subst sameSeconds sameNanos
  rw [of?, dif_pos t.inRange, dif_pos t.nanosFit]

/-- A leap second is the last of its minute. -/
theorem second_of_leap (t : Instant) (leap : nanosPerSecond ≤ t.nanos) :
    t.secondOfDay % 60 = 59 := by
  have last : t.seconds % 60 = 59 := by
    rcases t.nanosFit with fits | ⟨-, last⟩
    · omega
    · exact last
  unfold secondOfDay
  omega

/-- The clock shows a date and a time of day. -/
theorem isReading_clock (t : Instant) : isReading t.clock = true := by
  have date : t.clock.date.isValid = true := CivilDate.isValid_ofDays _
  -- A leap second has up to twice as many nanoseconds, and is shown as second 60.
  have bound : t.nanos < 2 * nanosPerSecond := by
    rcases t.nanosFit with fits | ⟨fits, -⟩ <;> omega
  have day : t.secondOfDay < 86400 := by
    unfold secondOfDay
    omega
  rw [isReading, date, Bool.true_and, decide_eq_true_eq]
  refine ⟨?_, ?_, ?_, ?_⟩
  · show t.secondOfDay / 3600 < 24
    omega
  · exact Nat.mod_lt _ (by decide)
  · show t.secondOfDay % 60 + _ ≤ 60
    split <;> omega
  · show (if nanosPerSecond ≤ t.nanos then t.nanos - nanosPerSecond else t.nanos) < nanosPerSecond
    split <;> omega

/-- **An instant is what its clock shows.** -/
theorem ofClock?_clock (t : Instant) : ofClock? t.clock 0 = some t := by
  have days : t.clock.date.toDays = t.seconds / 86400 := CivilDate.toDays_ofDays _
  have hour : t.clock.hour = t.secondOfDay / 3600 := rfl
  have minute : t.clock.minute = t.secondOfDay / 60 % 60 := rfl
  have ofDay : (t.secondOfDay : Int) = t.seconds % 86400 := Int.toNat_of_nonneg (by omega)
  -- The clock shows 60 in a leap second, and only there.
  have second : (if t.clock.second = 60 then 59 else t.clock.second) = t.secondOfDay % 60 := by
    by_cases leap : nanosPerSecond ≤ t.nanos
    · have last := second_of_leap t leap
      simp [clock, leap, last]
    · have other : t.secondOfDay % 60 ≠ 60 := by omega
      simp [clock, leap, other]
  have nanos : (if t.clock.second = 60 then t.clock.nanos + nanosPerSecond else t.clock.nanos) =
      t.nanos := by
    by_cases leap : nanosPerSecond ≤ t.nanos
    · have last := second_of_leap t leap
      simp [clock, leap, last]
    · have other : t.secondOfDay % 60 ≠ 60 := by omega
      simp [clock, leap, other]
  rw [ofClock?, if_pos (isReading_clock t)]
  refine of?_eq_some ?_ nanos
  have whole : (t.secondOfDay / 3600 * 60 + t.secondOfDay / 60 % 60) * 60 + t.secondOfDay % 60 =
      t.secondOfDay := by omega
  rw [days, hour, minute, second, whole, ofDay]
  omega

/-! ## §2 Whole milliseconds -/

/-- The instant without what is below a millisecond. -/
def cut (t : Instant) : Instant where
  seconds := t.seconds
  nanos := t.nanos / 1000000 * 1000000
  inRange := t.inRange
  nanosFit := by
    have less := Nat.div_mul_le_self t.nanos 1000000
    rcases t.nanosFit with fits | ⟨fits, last⟩
    · exact .inl (by omega)
    · exact .inr ⟨by omega, last⟩

/-- A leap second stays one. -/
theorem leap_cut (t : Instant) : nanosPerSecond ≤ t.cut.nanos ↔ nanosPerSecond ≤ t.nanos := by
  show nanosPerSecond ≤ t.nanos / 1000000 * 1000000 ↔ _
  unfold nanosPerSecond
  omega

/-- The clock of the cut instant shows whole milliseconds. -/
theorem clock_cut (t : Instant) :
    t.cut.clock = { t.clock with nanos := t.clock.nanos / 1000000 * 1000000 } := by
  have leap : nanosPerSecond ≤ t.nanos / 1000000 * 1000000 ↔ nanosPerSecond ≤ t.nanos := t.leap_cut
  by_cases h : nanosPerSecond ≤ t.nanos
  · simp only [clock, cut, secondOfDay, leap, h, if_true, ClockReading.mk.injEq, true_and]
    unfold nanosPerSecond at h ⊢
    omega
  · simp only [clock, cut, secondOfDay, leap, h, if_false]

/-- The text of a date column does not show what is cut off. -/
theorem columnChars_cut (t : Instant) : t.cut.columnChars = t.columnChars := by
  simp only [columnChars, clock_cut, ClockReading.dateChars, ClockReading.timeChars,
    ClockReading.milliChars, Nat.mul_div_cancel _ (by decide : 0 < 1000000)]

theorem columnText_cut (t : Instant) : t.cut.columnText = t.columnText := by
  rw [columnText, columnChars_cut, columnText]

end TableMapper.Instant
