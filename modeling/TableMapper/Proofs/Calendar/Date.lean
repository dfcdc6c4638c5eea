import TableMapper.Calendar.Date

/-!
# Days and dates

Each number of days since 1970-01-01 has its date, and the date has this number (`toDays_ofDays`).

A day of a period of 400 years lies in one of four spans of 36524 days, there in one of spans of
1461 days, and there in one of four years; the last year of a span may be a day longer.
`yearOfPeriod_eq` says that the quotients of `CivilDate.ofDays` find this year.  Months follow one
linear rule, and are gone through one by one.
-/

namespace TableMapper.CivilDate

/-! ## §1 Years -/

/-- The first day of a year of a period, counted from the first day of the period. -/
def firstDay (year : Int) : Int := 365 * year + year / 4 - year / 100

/-- The year of a period in which a day lies. -/
def yearOfPeriod (day : Int) : Int := (day - day / 1460 + day / 36524 - day / 146096) / 365

/-- A day of a period, given by its century, its span of four years and the days in that, lies in
the year of these. -/
theorem yearOfPeriod_eq {century span day : Int} (hc : 0 ≤ century ∧ century ≤ 3)
    (hs : 0 ≤ span ∧ span ≤ 24) (hd : 0 ≤ day ∧ day ≤ 1460) (short : 1461 * span + day < 36524) :
    yearOfPeriod (36524 * century + 1461 * span + day) =
      100 * century + 4 * span + (if day = 1460 then 3 else day / 365) := by
  -- Each correction in the formula counts one kind of span.
  have centuries : (36524 * century + 1461 * span + day) / 36524 = century := by omega
  have periods : (36524 * century + 1461 * span + day) / 146096 = 0 := by omega
  have spans : (36524 * century + 1461 * span + day) / 1460 =
      25 * century + span + (if 1460 ≤ 24 * century + span + day then 1 else 0) := by
    split <;> omega
  unfold yearOfPeriod
  rw [centuries, periods, spans]
  split <;> split <;> omega

/-- Whether the year that begins in March of `year` ends with a 29th of February. -/
def EndsLeap (year : Int) : Prop :=
  (year + 1) % 4 = 0 ∧ ((year + 1) % 100 ≠ 0 ∨ (year + 1) % 400 = 0)

/-- A day of a period lies in the year that is found, on one of its 365 or 366 days. -/
theorem day_of_yearOfPeriod {day : Int} (low : 0 ≤ day) (high : day ≤ 146096) :
    (0 ≤ yearOfPeriod day ∧ yearOfPeriod day ≤ 399) ∧ firstDay (yearOfPeriod day) ≤ day ∧
      (day ≤ firstDay (yearOfPeriod day) + 364 ∨
        day = firstDay (yearOfPeriod day) + 365 ∧ EndsLeap (yearOfPeriod day)) := by
  by_cases last : day = 146096
  · -- The last day of all is the only one beyond the four centuries.
    subst last
    exact ⟨⟨by decide, by decide⟩, by decide, .inr ⟨by decide, by decide, .inr (by decide)⟩⟩
  · obtain ⟨century, span, rest, rfl, hc, hs, hd, short⟩ : ∃ century span rest : Int,
        day = 36524 * century + 1461 * span + rest ∧ (0 ≤ century ∧ century ≤ 3) ∧
        (0 ≤ span ∧ span ≤ 24) ∧ (0 ≤ rest ∧ rest ≤ 1460) ∧ 1461 * span + rest < 36524 :=
      ⟨day / 36524, day % 36524 / 1461, day % 36524 % 1461,
        by omega, by omega, by omega, by omega, by omega⟩
    rw [yearOfPeriod_eq hc hs hd short]
    unfold firstDay EndsLeap
    -- The last day of a span of four years is the only one that its years do not count.
    split
    case isTrue =>
      have fours : (100 * century + 4 * span + 3) / 4 = 25 * century + span := by omega
      have hundreds : (100 * century + 4 * span + 3) / 100 = century := by omega
      rw [fours, hundreds]
      omega
    case isFalse =>
      have years : 0 ≤ rest / 365 ∧ rest / 365 ≤ 3 := by omega
      have fours : (100 * century + 4 * span + rest / 365) / 4 = 25 * century + span := by omega
      have hundreds : (100 * century + 4 * span + rest / 365) / 100 = century := by omega
      rw [fours, hundreds]
      omega

/-! ## §2 Months -/

/-- The date of a day of the year that begins in March of `year`. -/
def ofDayOfYear (year day : Int) : CivilDate :=
  let fromMarch := (5 * day + 2) / 153
  let month := if fromMarch < 10 then fromMarch + 3 else fromMarch - 9
  ⟨if month ≤ 2 then year + 1 else year, month.toNat, (day - (153 * fromMarch + 2) / 5 + 1).toNat⟩

/-- The date of a day, by the period and the year in it. -/
theorem ofDays_eq (days : Int) :
    ofDays days = ofDayOfYear
      (yearOfPeriod ((days + 719468) % 146097) + (days + 719468) / 146097 * 400)
      ((days + 719468) % 146097 - firstDay (yearOfPeriod ((days + 719468) % 146097))) := rfl

/-- The days of a year are numbered one after another. -/
theorem toDays_ofDayOfYear {year day : Int} (low : 0 ≤ day) (high : day ≤ 365) :
    (ofDayOfYear year day).toDays =
      year / 400 * 146097 + (firstDay (year % 400) + day) - 719468 := by
  have months : 0 ≤ (5 * day + 2) / 153 ∧ (5 * day + 2) / 153 ≤ 11 := by omega
  have dayOfMonth : 0 ≤ day - (153 * ((5 * day + 2) / 153) + 2) / 5 := by omega
  unfold toDays ofDayOfYear firstDay
  generalize (5 * day + 2) / 153 = fromMarch at months dayOfMonth ⊢
  -- January and February belong to the next year.
  by_cases early : fromMarch < 10
  · have month : ¬ (fromMarch + 3 ≤ 2) ∧ ¬ ((fromMarch + 3).toNat ≤ 2) := by omega
    have back : (((fromMarch + 3).toNat : Int) + 9) % 12 = fromMarch := by omega
    simp only [early, if_true, month.1, month.2, if_false, back,
      Int.toNat_of_nonneg (Int.le_add_one dayOfMonth)]
    omega
  · have month : fromMarch - 9 ≤ 2 ∧ (fromMarch - 9).toNat ≤ 2 := by omega
    have back : (((fromMarch - 9).toNat : Int) + 9) % 12 = fromMarch := by omega
    simp only [early, if_false, month.1, month.2, if_true, back,
      Int.toNat_of_nonneg (Int.le_add_one dayOfMonth), Int.add_sub_cancel]
    omega

/-- The days of a year are dates; the 366th is one in a year that ends with a 29th of February. -/
theorem isValid_ofDayOfYear {year day : Int} (low : 0 ≤ day) (high : day ≤ 365)
    (leap : day = 365 → EndsLeap year) : (ofDayOfYear year day).isValid = true := by
  have months : (5 * day + 2) / 153 = 0 ∨ (5 * day + 2) / 153 = 1 ∨ (5 * day + 2) / 153 = 2 ∨
      (5 * day + 2) / 153 = 3 ∨ (5 * day + 2) / 153 = 4 ∨ (5 * day + 2) / 153 = 5 ∨
      (5 * day + 2) / 153 = 6 ∨ (5 * day + 2) / 153 = 7 ∨ (5 * day + 2) / 153 = 8 ∨
      (5 * day + 2) / 153 = 9 ∨ (5 * day + 2) / 153 = 10 ∨ (5 * day + 2) / 153 = 11 := by omega
  have february : 306 + 31 ≤ day → isLeap (year + 1) = true ∨ day ≤ 364 := by
    intro _
    by_cases last : day = 365
    · obtain ⟨fours, hundreds⟩ := leap last
      refine .inl ?_
      rcases hundreds with other | four <;> simp [isLeap, *]
    · exact .inr (by omega)
  unfold isValid ofDayOfYear daysInMonth
  -- Only the end of February depends on the year.
  rcases months with month | month | month | month | month | month | month | month | month | month |
    month | month <;> simp [month] <;> try omega
  -- The one month left is February.
  have late : 306 + 31 ≤ day := by omega
  rcases february late with leap | short
  · rw [leap, if_pos rfl]
    omega
  · split <;> omega

/-! ## §3 All days -/

/-- Each day has a period, a year in it and a number in that year, and its date is made from
them. -/
private theorem ofDays_parts (days : Int) :
    ∃ era year day : Int, days = era * 146097 + (firstDay year + day) - 719468 ∧
      (0 ≤ year ∧ year ≤ 399) ∧
      0 ≤ day ∧ day ≤ 365 ∧ (day = 365 → EndsLeap year) ∧
        ofDays days = ofDayOfYear (year + era * 400) day := by
  have low : 0 ≤ (days + 719468) % 146097 := by omega
  have high : (days + 719468) % 146097 ≤ 146096 := by omega
  -- The day within the period of 400 years falls into one of its years.
  obtain ⟨inPeriod, first, last⟩ := day_of_yearOfPeriod low high
  refine ⟨(days + 719468) / 146097, yearOfPeriod ((days + 719468) % 146097),
    (days + 719468) % 146097 - firstDay (yearOfPeriod ((days + 719468) % 146097)),
    by omega, inPeriod, by omega, ?_, ?_, ofDays_eq days⟩
  · rcases last with early | ⟨late, -⟩ <;> omega
  · intro late
    rcases last with early | ⟨-, leap⟩
    · omega
    · exact leap

/-- **The date of a number of days has this number.** -/
theorem toDays_ofDays (days : Int) : (ofDays days).toDays = days := by
  obtain ⟨era, year, day, same, inPeriod, low, high, -, found⟩ := ofDays_parts days
  have eras : (year + era * 400) / 400 = era := by omega
  have years : (year + era * 400) % 400 = year := by omega
  rw [found, toDays_ofDayOfYear low high, eras, years, same]

/-- **The date of a number of days is one.** -/
theorem isValid_ofDays (days : Int) : (ofDays days).isValid = true := by
  obtain ⟨era, year, day, -, inPeriod, low, high, leap, found⟩ := ofDays_parts days
  rw [found]
  apply isValid_ofDayOfYear low high
  intro last
  obtain ⟨fours, hundreds⟩ := leap last
  exact ⟨by omega, hundreds.imp (by omega) (by omega)⟩

end TableMapper.CivilDate
