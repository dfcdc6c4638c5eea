import TableMapper.Proofs.Calendar.Instant

/-!
# Dates and instants in order

Dates are ordered by year, month and day, and instants by seconds and nanoseconds.  The numbering of
days and the clock keep these orders.

- Months are numbered one after another, and `CivilDate.monthStart` is the day on which each begins;
  from it `toDays_lt_toDays`, and that a date is the one of its number (`ofDays_toDays`);
- `Instant.fields_lt_fields` says that an instant in a later millisecond shows a later clock.
-/

namespace TableMapper

namespace CivilDate

/-! ## §1 Months -/

/-- Years come first, then months, then days. -/
instance : LT CivilDate where
  lt d e :=
    d.year < e.year ∨ d.year = e.year ∧ (d.month < e.month ∨ d.month = e.month ∧ d.day < e.day)

variable {d e : CivilDate}

theorem lt_def :
    d < e ↔ d.year < e.year ∨
      d.year = e.year ∧ (d.month < e.month ∨ d.month = e.month ∧ d.day < e.day) := Iff.rfl

/-- Of two different dates one comes first. -/
theorem lt_trichotomy (d e : CivilDate) : d < e ∨ d = e ∨ e < d := by
  obtain ⟨year, month, day⟩ := d
  obtain ⟨year', month', day'⟩ := e
  simp only [lt_def, mk.injEq]
  omega

/-- The number of a date's month, counted from March of year 0. -/
def monthNumber (d : CivilDate) : Int := 12 * d.year + d.month - 3

/-- The days before a month, counted from its like in year 0. -/
def monthStart (month : Int) : Int :=
  365 * (month / 12) + month / 12 / 4 - month / 12 / 100 + month / 12 / 400 +
    (153 * (month % 12) + 2) / 5

/-- A valid date has one of the twelve months and a day of that month. -/
theorem bounds_of_isValid (valid : d.isValid = true) :
    (1 ≤ d.month ∧ d.month ≤ 12) ∧ 1 ≤ d.day ∧ d.day ≤ daysInMonth d.year d.month := by
  rw [isValid, decide_eq_true_eq] at valid
  exact ⟨⟨valid.1, valid.2.1⟩, valid.2.2⟩

/-- A date's number is that of the first day of its month and the days since. -/
theorem toDays_eq (valid : d.isValid = true) :
    d.toDays = monthStart d.monthNumber + d.day - 719469 := by
  obtain ⟨⟨first, last⟩, -⟩ := bounds_of_isValid valid
  obtain ⟨year, month, day⟩ := d
  simp only at first last
  -- Both count months from March, one of them through all years.
  have fromMarch : ((month : Int) + 9) % 12 = (12 * year + month - 3) % 12 := by omega
  have marchYear : (if month ≤ 2 then year - 1 else year) = (12 * year + month - 3) / 12 := by
    split <;> omega
  simp only [toDays, monthStart, monthNumber, fromMarch, marchYear]
  omega

/-- A leap year has one more day than the others before its March. -/
theorem leapDays_succ (year : Int) :
    year / 4 - year / 100 + year / 400 =
      (year - 1) / 4 - (year - 1) / 100 + (year - 1) / 400 + (if isLeap year then 1 else 0) := by
  have leap : isLeap year = true ↔ year % 4 = 0 ∧ (year % 100 ≠ 0 ∨ year % 400 = 0) := by
    simp [isLeap]
  -- The quotients grow by one exactly where their divisors divide the year.
  by_cases h : isLeap year = true
  · rw [if_pos h]
    rw [leap] at h
    omega
  · rw [if_neg h]
    rw [leap] at h
    omega

/-- A month has as many days as lie before the next one. -/
theorem monthStart_succ (valid : d.isValid = true) :
    monthStart (d.monthNumber + 1) = monthStart d.monthNumber + daysInMonth d.year d.month := by
  obtain ⟨⟨first, last⟩, -⟩ := bounds_of_isValid valid
  obtain ⟨year, month, day⟩ := d
  simp only at first last
  simp only [monthStart, monthNumber, daysInMonth]
  have leap := leapDays_succ year
  -- February ends a year that begins in March; all other months lie in one such year.
  by_cases february : month = 2
  · subst february
    have before : (12 * year + (2 : Nat) - 3) / 12 = year - 1 ∧
        (12 * year + (2 : Nat) - 3) % 12 = 11 := by omega
    have after : (12 * year + (2 : Nat) - 3 + 1) / 12 = year ∧
        (12 * year + (2 : Nat) - 3 + 1) % 12 = 0 := by omega
    rw [before.1, before.2, after.1, after.2, if_pos rfl]
    split at leap <;> simp_all <;> omega
  · have sameYear : (12 * year + month - 3 + 1) / 12 = (12 * year + month - 3) / 12 := by omega
    have fromMarch : (12 * year + (month : Int) - 3) % 12 = (month + 9) % 12 ∧
        (12 * year + (month : Int) - 3 + 1) % 12 = (month + 10) % 12 := by omega
    rw [sameYear, if_neg february, fromMarch.1, fromMarch.2]
    generalize (12 * year + (month : Int) - 3) / 12 = marchYear
    -- The months of one year are gone through one by one.
    clear leap sameYear fromMarch
    have some : month = 1 ∨ month = 3 ∨ month = 4 ∨ month = 5 ∨ month = 6 ∨ month = 7 ∨
        month = 8 ∨ month = 9 ∨ month = 10 ∨ month = 11 ∨ month = 12 := by omega
    rcases some with rfl | rfl | rfl | rfl | rfl | rfl | rfl | rfl | rfl | rfl | rfl <;>
      simp <;> omega

/-- Every month ends after it began. -/
theorem monthStart_lt_succ (number : Int) : monthStart number < monthStart (number + 1) := by
  -- The number is that of a month with a first day.
  let d : CivilDate := ⟨(number + 2) / 12, ((number + 2) % 12 + 1).toNat, 1⟩
  have same : d.monthNumber = number := by
    simp only [monthNumber, d]
    omega
  have valid : d.isValid = true := by
    have days : 1 ≤ daysInMonth d.year d.month := by
      unfold daysInMonth
      repeat' split
      all_goals omega
    rw [isValid, decide_eq_true_eq]
    exact ⟨by simp only [d]; omega, by simp only [d]; omega, Nat.le_refl 1, days⟩
  have next := monthStart_succ valid
  obtain ⟨-, first, last⟩ := bounds_of_isValid valid
  rw [same] at next
  omega

/-- Later months begin later. -/
theorem monthStart_le {number later : Int} (h : number ≤ later) :
    monthStart number ≤ monthStart later := by
  obtain ⟨months, rfl⟩ := Int.le.dest h
  clear h
  -- Month by month, since each begins before the next one.
  induction months with
  | zero => simp
  | succ months ih =>
    have next := monthStart_lt_succ (number + months)
    rw [Int.add_assoc] at next
    exact Int.le_trans ih (Int.le_of_lt next)

/-! ## §2 Days in order -/

/-- **Later dates have larger numbers.** -/
theorem toDays_lt_toDays (valid : d.isValid = true) (valid' : e.isValid = true) (before : d < e) :
    d.toDays < e.toDays := by
  have next := monthStart_succ valid
  obtain ⟨⟨first, last⟩, -, dayFits⟩ := bounds_of_isValid valid
  obtain ⟨⟨first', last'⟩, dayFits', -⟩ := bounds_of_isValid valid'
  rw [toDays_eq valid, toDays_eq valid']
  rw [lt_def] at before
  by_cases sameMonth : d.monthNumber = e.monthNumber
  · rw [sameMonth]
    unfold monthNumber at sameMonth
    omega
  · -- The month of `d` is over before the one of `e` begins.
    have later : d.monthNumber + 1 ≤ e.monthNumber := by
      unfold monthNumber at sameMonth ⊢
      omega
    have ended := monthStart_le later
    omega

/-- A date is the one of its number. -/
theorem ofDays_toDays (valid : d.isValid = true) : ofDays d.toDays = d := by
  have found := isValid_ofDays d.toDays
  have same := toDays_ofDays d.toDays
  -- Any other date would have another number.
  rcases lt_trichotomy (ofDays d.toDays) d with before | equal | after
  · have less := toDays_lt_toDays found valid before
    omega
  · exact equal
  · have less := toDays_lt_toDays valid found after
    omega

/-- Later days have later dates. -/
theorem ofDays_lt_ofDays {days days' : Int} (before : days < days') :
    ofDays days < ofDays days' := by
  have first := toDays_ofDays days
  have second := toDays_ofDays days'
  -- Counting the days back excludes the other two orders.
  rcases lt_trichotomy (ofDays days) (ofDays days') with before' | equal | after
  · exact before'
  · rw [equal] at first
    omega
  · have less := toDays_lt_toDays (isValid_ofDays days') (isValid_ofDays days) after
    omega

end CivilDate

/-! ## §3 Clocks in order -/

/-- The numbers that a clock shows, with milliseconds. -/
def ClockReading.fields (c : ClockReading) : List Nat :=
  [c.date.year.toNat, c.date.month, c.date.day, c.hour, c.minute, c.second, c.nanos / 1000000]

namespace Instant

/-- Seconds come first, then nanoseconds, so that a leap second lies before the second after it. -/
instance : LE Instant where
  le t u := t.seconds < u.seconds ∨ t.seconds = u.seconds ∧ t.nanos ≤ u.nanos

variable {t u : Instant}

/-- The millisecond of the first instant is before that of the second one. -/
def MilliBefore (t u : Instant) : Prop :=
  t.seconds < u.seconds ∨ t.seconds = u.seconds ∧ t.nanos / 1000000 < u.nanos / 1000000

/-- Instants are in the same millisecond, or their milliseconds are in their order. -/
theorem milliBefore_or_same_of_le (h : t ≤ u) :
    t.MilliBefore u ∨ t.seconds = u.seconds ∧ t.nanos / 1000000 = u.nanos / 1000000 := by
  unfold MilliBefore
  rcases h with earlier | ⟨same, less⟩ <;> omega

/-- Within a day the clock goes on, also through a leap second. -/
theorem time_lt_time (sameDay : t.seconds / 86400 = u.seconds / 86400) (before : t.MilliBefore u) :
    [t.clock.hour, t.clock.minute, t.clock.second, t.clock.nanos / 1000000] <
      [u.clock.hour, u.clock.minute, u.clock.second, u.clock.nanos / 1000000] := by
  have ofDay : t.secondOfDay < u.secondOfDay ∨
      t.secondOfDay = u.secondOfDay ∧ t.nanos / 1000000 < u.nanos / 1000000 := by
    unfold MilliBefore at before
    unfold secondOfDay
    omega
  have leap : nanosPerSecond ≤ t.nanos → t.secondOfDay % 60 = 59 := t.second_of_leap
  simp only [clock, List.cons_lt_cons_iff, List.not_lt_nil, and_false, or_false]
  generalize t.secondOfDay = s at ofDay leap
  generalize u.secondOfDay = s' at ofDay
  have size : nanosPerSecond = 1000000000 := rfl
  rcases ofDay with earlier | ⟨rfl, less⟩
  · -- A leap second is the last of its minute, so that a later second of the day has a later
    -- minute.
    rcases Nat.lt_trichotomy (s / 60) (s' / 60) with minute | same | later
    · have hours : s / 3600 = s / 60 / 60 ∧ s' / 3600 = s' / 60 / 60 := by omega
      omega
    · have hours : s / 3600 = s' / 3600 := by omega
      have seconds : s % 60 < s' % 60 := by omega
      split <;> split <;> omega
    · omega
  · split <;> split <;> omega

/-- **An instant in a later millisecond shows a later clock.** -/
theorem fields_lt_fields (year : 0 ≤ t.clock.date.year) (before : t.MilliBefore u) :
    t.clock.fields < u.clock.fields := by
  -- On different days the dates decide, on the same day the times.
  rcases Int.lt_trichotomy (t.seconds / 86400) (u.seconds / 86400) with earlier | sameDay | later
  · have dates : t.clock.date < u.clock.date := CivilDate.ofDays_lt_ofDays earlier
    rw [CivilDate.lt_def] at dates
    simp only [ClockReading.fields, List.cons_lt_cons_iff]
    omega
  · have date : t.clock.date = u.clock.date := congrArg CivilDate.ofDays sameDay
    have time := time_lt_time sameDay before
    simp only [ClockReading.fields, date]
    exact .cons (.cons (.cons time))
  · unfold MilliBefore at before
    omega

/-! ## §4 Readings -/

/-- An instant has the seconds and nanoseconds that it was made from. -/
theorem eq_of_of?_eq_some {seconds : Int} {nanos : Nat} (h : of? seconds nanos = some t) :
    t.seconds = seconds ∧ t.nanos = nanos := by
  unfold of? at h
  split at h
  case isFalse => cases h
  case isTrue =>
    split at h
    case isFalse => cases h
    case isTrue =>
      cases h
      exact ⟨rfl, rfl⟩

/-- **The clock shows what an instant was made from.** -/
theorem clock_of_ofClock? {c : ClockReading} (h : ofClock? c 0 = some t) : t.clock = c := by
  unfold ofClock? at h
  split at h
  case isFalse => cases h
  case isTrue reading =>
    rw [isReading, Bool.and_eq_true, decide_eq_true_eq] at reading
    obtain ⟨valid, hourFits, minuteFits, secondFits, nanosFit⟩ := reading
    obtain ⟨seconds, nanos⟩ := eq_of_of?_eq_some h
    obtain ⟨date, hour, minute, second, part⟩ := c
    simp only at hourFits minuteFits secondFits nanosFit valid seconds nanos
    have size : nanosPerSecond = 1000000000 := rfl
    -- The clock shows 60 in a leap second, and only there.
    by_cases last : second = 60
    · simp only [last, if_true] at seconds nanos
      have day : t.seconds / 86400 = date.toDays := by omega
      have ofDay : t.secondOfDay = (hour * 60 + minute) * 60 + 59 := by
        unfold Instant.secondOfDay
        omega
      have leap : nanosPerSecond ≤ t.nanos := by omega
      simp only [clock, day, ofDay, CivilDate.ofDays_toDays valid, leap, if_true,
        ClockReading.mk.injEq, true_and]
      omega
    · simp only [last, if_false] at seconds nanos
      have day : t.seconds / 86400 = date.toDays := by omega
      have ofDay : t.secondOfDay = (hour * 60 + minute) * 60 + second := by
        unfold Instant.secondOfDay
        omega
      have noLeap : ¬ nanosPerSecond ≤ t.nanos := by omega
      simp only [clock, day, ofDay, CivilDate.ofDays_toDays valid, noLeap, if_false,
        ClockReading.mk.injEq, true_and]
      omega

/-- Dates and times of the years 0 to 9999 are those of instants. -/
theorem exists_ofClock? {c : ClockReading} (reading : isReading c = true)
    (plain : 0 ≤ c.date.year ∧ c.date.year ≤ 9999) : ∃ t, ofClock? c 0 = some t := by
  rw [ofClock?, if_pos reading]
  rw [isReading, Bool.and_eq_true, decide_eq_true_eq] at reading
  obtain ⟨valid, hourFits, minuteFits, secondFits, nanosFit⟩ := reading
  -- The days of these years are far within the range.
  have days : -1000000 ≤ c.date.toDays ∧ c.date.toDays ≤ 4000000 := by
    obtain ⟨⟨first, last⟩, -, dayFits⟩ := CivilDate.bounds_of_isValid valid
    have long : CivilDate.daysInMonth c.date.year c.date.month ≤ 31 := by
      unfold CivilDate.daysInMonth
      repeat' split
      all_goals omega
    rw [CivilDate.toDays_eq valid, CivilDate.monthStart, CivilDate.monthNumber]
    omega
  have size : nanosPerSecond = 1000000000 := rfl
  have range : firstSecond = -8334601228800 ∧ lastSecond = 8210266876799 := ⟨rfl, rfl⟩
  by_cases leap : c.second = 60
  · simp only [leap, if_true, of?]
    rw [dif_pos (by omega), dif_pos (.inr (by omega))]
    exact ⟨_, rfl⟩
  · simp only [leap, if_false, of?]
    rw [dif_pos (by omega), dif_pos (.inl nanosFit)]
    exact ⟨_, rfl⟩

end Instant

end TableMapper
