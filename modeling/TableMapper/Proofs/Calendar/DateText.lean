import Mathlib.Data.List.TakeWhile
import TableMapper.Calendar.InstantReader
import TableMapper.Calendar.InstantText
import TableMapper.Proofs.Number.Digits
import TableMapper.Proofs.Text.Trimming

/-!
# Date texts without a zone

A date, perhaps with a time behind it, in numbers of fixed width.  Whether such a text is that of an
instant or not, it fits one of the layouts, and the instant that is read is the one of its numbers,
if they are a date and a time of day.

- `DateText` is what such a text says, with its characters and the clock reading that it gives;
- `readBare?_chars` says what the layouts read.
-/

namespace TableMapper

open Decimal (paddedChars atLeastChars natChars)
open Numeral (isDigit digitsValue takeDigits)
open Text (isBlank trimStart)

/-- No digit is a blank. -/
theorem isBlank_of_isDigit {c : Char} (digit : isDigit c = true) : isBlank c = false := by
  obtain ⟨d, rfl⟩ := Numeral.exists_digitChar_of_isDigit digit
  revert d
  decide

namespace InstantReader

/-! ## §1 Numbers of fixed width -/

/-- A number with leading zeros is read by its width. -/
theorem exactDigits_paddedChars {k n : Nat} (fits : n < 10 ^ k) (rest : List Char) :
    exactDigits k (paddedChars k n ++ rest) = some (n, rest) := by
  have first : (paddedChars k n ++ rest).take k = paddedChars k n :=
    List.take_left' (Decimal.length_paddedChars k n)
  have after : (paddedChars k n ++ rest).drop k = rest :=
    List.drop_left' (Decimal.length_paddedChars k n)
  have digits : (paddedChars k n).all isDigit = true :=
    List.all_eq_true.2 fun c h => Decimal.isDigit_of_mem_paddedChars h
  simp only [exactDigits, first, after, Decimal.length_paddedChars, digits,
    Decimal.digitsValue_paddedChars, Nat.mod_eq_of_lt fits, and_self, if_true]

/-- A number of full width is read whole where fewer digits would do. -/
theorem upToDigits_paddedChars {k n : Nat} (fits : n < 10 ^ (k + 1)) (rest : List Char) :
    upToDigits (k + 1) (paddedChars (k + 1) n ++ rest) = some (n, rest) := by
  obtain ⟨c, s, text, digit⟩ := Decimal.exists_paddedChars_eq_cons k n
  -- The number begins with a digit, so no blanks are skipped.
  have blanks : trimStart (paddedChars (k + 1) n ++ rest) = paddedChars (k + 1) n ++ rest := by
    rw [text, List.cons_append, Text.trimStart_of_head (isBlank_of_isDigit digit)]
  have first : (paddedChars (k + 1) n ++ rest).take (k + 1) = paddedChars (k + 1) n :=
    List.take_left' (Decimal.length_paddedChars _ n)
  have all : (paddedChars (k + 1) n).takeWhile isDigit = paddedChars (k + 1) n :=
    List.takeWhile_eq_self_iff.2 fun c h => Decimal.isDigit_of_mem_paddedChars h
  have after : (paddedChars (k + 1) n ++ rest).drop (k + 1) = rest :=
    List.drop_left' (Decimal.length_paddedChars _ n)
  have nonempty : (paddedChars (k + 1) n).isEmpty = false := by rw [text]; rfl
  simp only [upToDigits, blanks, first, all, nonempty, after, Decimal.length_paddedChars,
    Decimal.digitsValue_paddedChars, Nat.mod_eq_of_lt fits, if_false, Bool.false_eq_true]

theorem atLeastChars_eq_append (k n : Nat) :
    atLeastChars k n = List.replicate (k - (natChars n).length) '0' ++ natChars n := rfl

/-- Leading zeros are digits, too. -/
theorem isDigit_of_mem_atLeastChars {k n : Nat} {c : Char} (h : c ∈ atLeastChars k n) :
    isDigit c = true := by
  rcases List.mem_append.1 h with zero | digit
  · rw [(List.mem_replicate.1 zero).2]
    rfl
  · exact Decimal.isDigit_of_mem_natChars digit

/-- Leading zeros do not count. -/
theorem digitsValue_atLeastChars (k n : Nat) : digitsValue 0 (atLeastChars k n) = n := by
  have zeros (j : Nat) : digitsValue 0 (List.replicate j '0') = 0 := by
    induction j with
    | zero => rfl
    | succ j ih => exact ih
  rw [atLeastChars_eq_append, Numeral.digitsValue_append, zeros, Decimal.digitsValue_natChars]

/-- Any year is read up to the hyphen behind it. -/
theorem year_yearChars (y : Int) (rest : List Char) :
    year (yearChars y ++ '-' :: rest) = some (y, '-' :: rest) := by
  by_cases plain : 0 ≤ y ∧ y ≤ 9999
  · -- Four digits and no sign.
    obtain ⟨n, rfl⟩ := Int.eq_ofNat_of_zero_le plain.1
    have fits : n < 10 ^ 4 := by omega
    have text : yearChars (n : Int) = paddedChars 4 n := if_pos plain
    have read := upToDigits_paddedChars (k := 3) fits ('-' :: rest)
    obtain ⟨c, s, first, digit⟩ := Decimal.exists_paddedChars_eq_cons 3 n
    have noMinus : c ≠ '-' := by rintro rfl; cases digit
    have noPlus : c ≠ '+' := by rintro rfl; cases digit
    rw [text]
    rw [first] at read ⊢
    rw [year, List.cons_append, Text.trimStart_of_head (isBlank_of_isDigit digit)]
    rw [List.cons_append] at read
    -- The reader looks for a sign first and finds none.
    split
    · rename_i other
      exact absurd (List.cons.inj other).1 noMinus
    · rename_i other
      exact absurd (List.cons.inj other).1 noPlus
    · rw [read]
      rfl
  -- A sign and as many digits as there are.
  · have digits : takeDigits (atLeastChars 4 y.natAbs ++ '-' :: rest) =
        (atLeastChars 4 y.natAbs, '-' :: rest) :=
      Numeral.takeDigits_append (fun c h => isDigit_of_mem_atLeastChars h) (by simp; rfl)
    have nonempty : (atLeastChars 4 y.natAbs).isEmpty = false := by
      simp [atLeastChars_eq_append, Decimal.natChars_ne_nil]
    have text : yearChars y = (if y < 0 then '-' else '+') :: atLeastChars 4 y.natAbs :=
      if_neg plain
    by_cases negative : y < 0
    · have value : -((y.natAbs : Nat) : Int) = y := by omega
      rw [text, if_pos negative, List.cons_append, year, Text.trimStart_of_head (by decide)]
      simp only [digits, nonempty, digitsValue_atLeastChars, value, Bool.false_eq_true, if_false,
        Option.map_some]
    · have value : ((y.natAbs : Nat) : Int) = y := by omega
      rw [text, if_neg negative, List.cons_append, year, Text.trimStart_of_head (by decide)]
      simp only [digits, nonempty, digitsValue_atLeastChars, value, Bool.false_eq_true, if_false,
        Option.map_some]

/-! ## §2 Texts -/

/-- What a clock shows is written with two digits. -/
theorem bounds_of_isReading {c : ClockReading} (reading : Instant.isReading c = true) :
    (c.date.month < 10 ^ 2 ∧ c.date.day < 10 ^ 2) ∧
      (c.hour < 10 ^ 2 ∧ c.minute < 10 ^ 2 ∧ c.second < 10 ^ 2) ∧
      c.nanos < nanosPerSecond := by
  simp only [Instant.isReading, CivilDate.isValid, Bool.and_eq_true, decide_eq_true_eq] at reading
  obtain ⟨⟨-, month, -, day⟩, hour, minute, second, nanos⟩ := reading
  -- No month has more than 31 days, so two digits are enough.
  have days : CivilDate.daysInMonth c.date.year c.date.month ≤ 31 := by
    unfold CivilDate.daysInMonth
    repeat' split
    all_goals omega
  exact ⟨⟨by omega, by omega⟩, ⟨by omega, by omega, by omega⟩, nanos⟩

/-- The fraction of a second in a text: a point and a number in so many digits, or nothing. -/
structure Fraction where
  places : Nat
  part : Nat
  few : places ≤ 9
  fits : part < 10 ^ places

def Fraction.chars (f : Fraction) : List Char :=
  if f.places = 0 then [] else '.' :: paddedChars f.places f.part

def Fraction.nanos (f : Fraction) : Nat := f.part * 10 ^ (9 - f.places)

/-- The character for what stands between date and time. -/
def Separator.char : Separator → Char
  | .blanks => ' '
  | .letterT => 'T'

/-- What a text says behind its date. -/
inductive TimeText where
  | absent
  | minutes (hour minute : Nat)
  | seconds (between : Separator) (hour minute second : Nat) (fraction : Fraction)

namespace TimeText

def chars : TimeText → List Char
  | .absent => []
  | .minutes hour minute => ' ' :: (paddedChars 2 hour ++ ':' :: paddedChars 2 minute)
  | .seconds between hour minute second fraction =>
    between.char :: (paddedChars 2 hour ++ ':' :: (paddedChars 2 minute ++
      ':' :: (paddedChars 2 second ++ fraction.chars)))

/-- The time of day on a date; midnight, if the text says nothing. -/
def on (date : CivilDate) : TimeText → ClockReading
  | .absent => ⟨date, 0, 0, 0, 0⟩
  | .minutes hour minute => ⟨date, hour, minute, 0, 0⟩
  | .seconds _ hour minute second fraction => ⟨date, hour, minute, second, fraction.nanos⟩

end TimeText

/-- A text of a date, and perhaps a time, without a zone. -/
structure DateText where
  date : CivilDate
  time : TimeText

namespace DateText

def chars (w : DateText) : List Char :=
  yearChars w.date.year ++ '-' ::
    (paddedChars 2 w.date.month ++ '-' :: (paddedChars 2 w.date.day ++ w.time.chars))

def text (w : DateText) : String := String.ofList w.chars

/-- What the text says, whether there is such a date and time or not. -/
def reading (w : DateText) : ClockReading := w.time.on w.date

/-- All numbers but the year have two digits. -/
structure Fits (w : DateText) : Prop where
  month : w.date.month < 10 ^ 2
  day : w.date.day < 10 ^ 2
  hour : w.reading.hour < 10 ^ 2
  minute : w.reading.minute < 10 ^ 2
  second : w.reading.second < 10 ^ 2

theorem reading_date (w : DateText) : w.reading.date = w.date := by
  obtain ⟨date, time⟩ := w
  cases time <;> rfl

/-- What a clock can show is written with two digits. -/
theorem fits_of_isReading (w : DateText) (reading : Instant.isReading w.reading = true) :
    w.Fits := by
  obtain ⟨⟨month, day⟩, ⟨hour, minute, second⟩, -⟩ := bounds_of_isReading reading
  rw [w.reading_date] at month day
  exact ⟨month, day, hour, minute, second⟩

end DateText

/-! ## §3 Layouts -/

/-- A step that succeeds hands on what it found. -/
theorem bind_eq_of_some {α β : Type} {x : Option α} {a : α} (h : x = some a) (f : α → Option β) :
    (x >>= f) = f a := by
  rw [h]
  rfl

theorem expect_cons (c : Char) (rest : List Char) : expect c (c :: rest) = some rest := if_pos rfl

/-- The fraction is read up to what is neither a digit nor another point. -/
theorem fraction_chars (f : Fraction) {rest : List Char}
    (stop : ∀ c ∈ rest.head?, isDigit c = false ∧ c ≠ '.') :
    fraction (f.chars ++ rest) = some (f.nanos, rest) := by
  obtain ⟨places, part, few, fits⟩ := f
  unfold Fraction.chars Fraction.nanos
  cases places with
  | zero =>
    -- Without digits there is no point either, and what follows begins with none.
    have none : part = 0 := by omega
    subst none
    simp only [if_true, List.nil_append, Nat.zero_mul]
    unfold fraction
    split
    · exact absurd rfl (stop '.' rfl).2
    · rfl
  | succ places =>
    have digits : takeDigits (paddedChars (places + 1) part ++ rest) =
        (paddedChars (places + 1) part, rest) :=
      Numeral.takeDigits_append (fun c h => Decimal.isDigit_of_mem_paddedChars h) fun c h =>
        (stop c h).1
    have nonempty : (paddedChars (places + 1) part).isEmpty = false := by
      obtain ⟨d, s, text, -⟩ := Decimal.exists_paddedChars_eq_cons places part
      rw [text]
      rfl
    -- No digit is beyond the nanoseconds.
    have kept : (paddedChars (places + 1) part).take 9 = paddedChars (places + 1) part :=
      List.take_of_length_le (by simpa using few)
    have value : nanosOf (paddedChars (places + 1) part) = part * 10 ^ (9 - (places + 1)) := by
      rw [nanosOf, kept, Decimal.digitsValue_paddedChars, Nat.mod_eq_of_lt fits,
        Decimal.length_paddedChars]
      rfl
    rw [if_neg (Nat.succ_ne_zero places), List.cons_append, fraction]
    simp only [digits, nonempty, value, Bool.false_eq_true, if_false]

/-- What is read of a text without a zone, by the first layout that fits it. -/
def readBare? (s : List Char) : Option Instant :=
  (readDateTime? .blanks s).or <| (readDateTime? .letterT s).or <|
    (readDateMinute? s).or (readDate? s)

/-- Hours and minutes are read with two digits each. -/
theorem hourMinute_paddedChars {hour minute : Nat} (hourFits : hour < 10 ^ 2)
    (minuteFits : minute < 10 ^ 2) (rest : List Char) :
    hourMinute (paddedChars 2 hour ++ ':' :: (paddedChars 2 minute ++ rest)) =
      some (hour, minute, rest) := by
  simp only [hourMinute, Option.bind_eq_bind, Option.bind_some, expect_cons,
    upToDigits_paddedChars hourFits, upToDigits_paddedChars minuteFits]

/-- Digits are what stands behind a space. -/
theorem trimStart_space (k n : Nat) (rest : List Char) :
    trimStart (' ' :: (paddedChars (k + 1) n ++ rest)) = paddedChars (k + 1) n ++ rest := by
  obtain ⟨d, s, text, digit⟩ := Decimal.exists_paddedChars_eq_cons k n
  rw [text, List.cons_append, trimStart, List.dropWhile_cons_of_pos (by decide),
    List.dropWhile_cons_of_neg (by simp [isBlank_of_isDigit digit])]

section

variable {w : DateText}

/-- The date is read, and the time is left. -/
theorem date_chars (fits : w.Fits) : date w.chars = some (w.date, w.time.chars) := by
  rw [DateText.chars, date, year_yearChars]
  simp only [Option.bind_eq_bind, Option.bind_some, expect_cons, upToDigits_paddedChars fits.month,
    upToDigits_paddedChars fits.day]

/-- The first two layouts read a time with seconds, and tell a space from the letter. -/
theorem readDateTime?_chars (fits : w.Fits) (layout : Separator) :
    readDateTime? layout w.chars = match w.time with
      | .seconds between .. => if layout = between then Instant.ofClock? w.reading 0 else none
      | _ => none := by
  obtain ⟨date, time⟩ := w
  rw [readDateTime?, date_chars fits]
  -- Without seconds there is no colon behind the minutes, or not even a time.
  cases time with
  | absent => cases layout <;> rfl
  | minutes hour minute =>
    cases layout with
    | letterT => rfl
    | blanks =>
      have reads : hourMinute (paddedChars 2 hour ++ ':' :: (paddedChars 2 minute ++ [])) =
          some (hour, minute, []) :=
        hourMinute_paddedChars fits.hour fits.minute []
      rw [List.append_nil] at reads
      simp only [Option.bind_eq_bind, Option.bind_some, TimeText.chars, Separator.skip,
        trimStart_space, reads]
      rfl
  | seconds between hour minute second f =>
    have reads :=
      hourMinute_paddedChars fits.hour fits.minute (':' :: (paddedChars 2 second ++ f.chars))
    have seconds : upToDigits 2 (paddedChars 2 second ++ f.chars) = some (second, f.chars) :=
      upToDigits_paddedChars fits.second _
    have last : fraction (f.chars ++ []) = some (f.nanos, []) := fraction_chars f (by simp)
    rw [List.append_nil] at last
    dsimp only [DateText.reading, TimeText.on] at reads seconds ⊢
    cases layout <;> cases between
    case blanks.blanks =>
      simp only [Option.bind_eq_bind, Option.bind_some, TimeText.chars, Separator.char,
        Separator.skip, trimStart_space, reads, expect_cons, seconds, last, if_true,
        List.isEmpty_nil]
    case letterT.letterT =>
      simp only [Option.bind_eq_bind, Option.bind_some, TimeText.chars, Separator.char,
        Separator.skip, reads, expect_cons, seconds, last, if_true, List.isEmpty_nil]
    -- The character between date and time is not the one of the layout.
    all_goals rfl

/-- The third layout reads a time without seconds, and nothing may be left behind it. -/
theorem readDateMinute?_chars (fits : w.Fits) :
    readDateMinute? w.chars = match w.time with
      | .minutes .. => Instant.ofClock? w.reading 0
      | _ => none := by
  obtain ⟨date, time⟩ := w
  rw [readDateMinute?, date_chars fits]
  cases time with
  | absent => rfl
  | minutes hour minute =>
    have reads : hourMinute (paddedChars 2 hour ++ ':' :: (paddedChars 2 minute ++ [])) =
        some (hour, minute, []) :=
      hourMinute_paddedChars fits.hour fits.minute []
    rw [List.append_nil] at reads
    simp only [Option.bind_eq_bind, Option.bind_some, TimeText.chars, trimStart_space, reads,
      if_true, List.isEmpty_nil]
    rfl
  | seconds between hour minute second f =>
    cases between with
    | letterT => rfl
    | blanks =>
      -- The seconds are left.
      have reads :=
        hourMinute_paddedChars fits.hour fits.minute (':' :: (paddedChars 2 second ++ f.chars))
      dsimp only [DateText.reading, TimeText.on] at reads
      simp only [Option.bind_eq_bind, Option.bind_some, TimeText.chars, Separator.char,
        trimStart_space, reads, List.isEmpty_cons, Bool.false_eq_true, if_false]

/-- The last layout reads a date alone. -/
theorem readDate?_chars (fits : w.Fits) :
    readDate? w.chars = match w.time with
      | .absent => Instant.ofClock? w.reading 0
      | _ => none := by
  obtain ⟨date, time⟩ := w
  rw [readDate?, date_chars fits]
  cases time <;> rfl

/-- **A date text is read by the one layout that it has**, whether its numbers are a date and time
or not. -/
theorem readBare?_chars (fits : w.Fits) : readBare? w.chars = Instant.ofClock? w.reading 0 := by
  rw [readBare?, readDateTime?_chars fits, readDateTime?_chars fits, readDateMinute?_chars fits,
    readDate?_chars fits]
  obtain ⟨date, time⟩ := w
  cases time with
  | absent => simp
  | minutes hour minute => simp
  | seconds between hour minute second f => cases between <;> simp

end

end InstantReader

end TableMapper
