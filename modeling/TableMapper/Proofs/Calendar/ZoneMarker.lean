import TableMapper.Proofs.Calendar.DateText
import TableMapper.Proofs.Calendar.Order
import TableMapper.Proofs.Text.Cutting

/-!
# Zone markers do not count

Behind a date text without a zone may stand a marker with any text behind it, or letters `Z`, and
blanks may stand on both sides.  The text is first taken for one with a zone, which can only succeed
with a single `Z` and then gives the same instant; else everything from the marker on is cut off.

- `IsZoneMarker` says what may stand behind a text;
- `Instant.readChars?_marked` says what is read of any date text, and `Instant.zoneMarker_ignored`
  that the instant of a valid one is the same with all of these.
-/

namespace TableMapper

open Decimal (paddedChars)
open Numeral (isDigit)
open Text (isBlank trim trimStart trimEnd dropWhileEnd before? after?)

/-- A zone marker: letters `Z`, or a name of the zone and any text behind it. -/
inductive IsZoneMarker : List Char → Prop where
  | letters (n : Nat) : IsZoneMarker (List.replicate n 'Z')
  | gmt (z : List Char) : IsZoneMarker (' ' :: 'G' :: 'M' :: 'T' :: z)
  | utc (z : List Char) : IsZoneMarker (' ' :: 'U' :: 'T' :: 'C' :: z)

/-- A marker does not go on with a number. -/
theorem head_of_isZoneMarker {marker : List Char} (marked : IsZoneMarker marker) :
    ∀ c ∈ marker.head?, isDigit c = false ∧ c ≠ ':' ∧ c ≠ '.' := by
  intro c first
  cases marked with
  | letters n =>
    cases n with
    | zero => cases first
    | succ n =>
      cases first
      decide
  | gmt z =>
    cases first
    decide
  | utc z =>
    cases first
    decide

namespace InstantReader

variable {w : DateText}

/-! ## §1 Characters of date texts -/

/-- The characters of a date text that are no digits. -/
def dateMarks : List Char := ['-', '+', ' ', 'T', ':', '.']

def IsDateChar (c : Char) : Prop := isDigit c = true ∨ c ∈ dateMarks

/-- Numbers consist of digits. -/
theorem isDateChar_paddedChars (k n : Nat) : ∀ c ∈ paddedChars k n, IsDateChar c :=
  fun _ h => .inl (Decimal.isDigit_of_mem_paddedChars h)

theorem isDateChar_mark {c : Char} (listed : c ∈ dateMarks) : IsDateChar c := .inr listed

/-- A year consists of digits, perhaps behind a sign. -/
theorem isDateChar_yearChars (y : Int) : ∀ c ∈ yearChars y, IsDateChar c := by
  unfold yearChars
  split
  · exact isDateChar_paddedChars _ _
  · rw [List.forall_mem_cons]
    refine ⟨?_, fun c h => .inl (isDigit_of_mem_atLeastChars h)⟩
    split <;> exact isDateChar_mark (by decide)

theorem isDateChar_fractionChars (f : Fraction) : ∀ c ∈ f.chars, IsDateChar c := by
  unfold Fraction.chars
  split
  · exact List.forall_mem_nil _
  · exact List.forall_mem_cons.2 ⟨isDateChar_mark (by decide), isDateChar_paddedChars _ _⟩

/-- A time consists of digits and the marks between its numbers. -/
theorem isDateChar_timeChars (t : TimeText) : ∀ c ∈ t.chars, IsDateChar c := by
  cases t with
  | absent => exact List.forall_mem_nil _
  | minutes hour minute =>
    simp only [TimeText.chars, List.forall_mem_cons, List.forall_mem_append]
    exact ⟨isDateChar_mark (by decide), isDateChar_paddedChars _ _, isDateChar_mark (by decide),
      isDateChar_paddedChars _ _⟩
  | seconds between hour minute second f =>
    simp only [TimeText.chars, List.forall_mem_cons, List.forall_mem_append]
    exact ⟨isDateChar_mark (by cases between <;> decide), isDateChar_paddedChars _ _,
      isDateChar_mark (by decide), isDateChar_paddedChars _ _, isDateChar_mark (by decide),
      isDateChar_paddedChars _ _, isDateChar_fractionChars f⟩

/-- A date text consists of digits and marks. -/
theorem isDateChar_chars (w : DateText) : ∀ c ∈ w.chars, IsDateChar c := by
  simp only [DateText.chars, List.forall_mem_cons, List.forall_mem_append]
  exact ⟨isDateChar_yearChars _, isDateChar_mark (by decide), isDateChar_paddedChars _ _,
    isDateChar_mark (by decide), isDateChar_paddedChars _ _, isDateChar_timeChars _⟩

/-- All characters of date texts are ASCII. -/
theorem ascii_of_mem_chars (w : DateText) : ∀ c ∈ w.chars, c.toNat < 128 := by
  have digits : ∀ d : Fin 10, (Decimal.digitChar d).toNat < 128 := by decide
  have marks : ∀ c ∈ dateMarks, c.toNat < 128 := by simp [dateMarks]
  intro c h
  rcases isDateChar_chars w c h with digit | mark
  · obtain ⟨d, rfl⟩ := Numeral.exists_digitChar_of_isDigit digit
    exact digits d
  · exact marks c mark

/-- A date text begins with a digit or a sign. -/
theorem exists_chars_eq_cons (w : DateText) : ∃ c s, w.chars = c :: s ∧ isBlank c = false := by
  rw [DateText.chars, yearChars]
  split
  · obtain ⟨d, s, text, digit⟩ := Decimal.exists_paddedChars_eq_cons 3 w.date.year.toNat
    rw [text]
    exact ⟨d, _, rfl, isBlank_of_isDigit digit⟩
  · refine ⟨_, _, rfl, ?_⟩
    split <;> decide

/-- The text ends with a digit. -/
def EndsInDigit (s : List Char) : Prop := ∃ init c, s = init ++ [c] ∧ isDigit c = true

/-- What stands before a text does not change its end. -/
theorem EndsInDigit.append {s : List Char} (h : EndsInDigit s) (first : List Char) :
    EndsInDigit (first ++ s) := by
  obtain ⟨init, c, rfl, digit⟩ := h
  exact ⟨first ++ init, c, (List.append_assoc first init [c]).symm, digit⟩

theorem EndsInDigit.cons {s : List Char} (h : EndsInDigit s) (c : Char) : EndsInDigit (c :: s) :=
  h.append [c]

theorem endsInDigit_paddedChars (k n : Nat) : EndsInDigit (paddedChars (k + 1) n) :=
  ⟨_, _, Decimal.paddedChars_succ k n, Numeral.isDigit_digitChar _⟩

/-- A date text ends with a digit, whatever its time is. -/
theorem endsInDigit_chars (w : DateText) : EndsInDigit w.chars := by
  obtain ⟨date, time⟩ := w
  -- The last number is the day, the minute, the second or the fraction.
  have behind (s : List Char) (last : EndsInDigit (paddedChars 2 date.day ++ s)) :
      EndsInDigit (yearChars date.year ++
        '-' :: (paddedChars 2 date.month ++ '-' :: (paddedChars 2 date.day ++ s))) :=
    (((last.cons '-').append _).cons '-').append _
  cases time with
  | absent =>
    refine behind [] ?_
    rw [List.append_nil]
    exact endsInDigit_paddedChars 1 date.day
  | minutes hour minute =>
    exact behind _ (((((endsInDigit_paddedChars 1 minute).cons ':').append _).cons ' ').append _)
  | seconds between hour minute second f =>
    have second : EndsInDigit (paddedChars 2 second ++ f.chars) := by
      unfold Fraction.chars
      split
      case isTrue =>
        rw [List.append_nil]
        exact endsInDigit_paddedChars 1 second
      case isFalse some =>
        obtain ⟨places, same⟩ := Nat.exists_eq_succ_of_ne_zero some
        rw [same]
        exact ((endsInDigit_paddedChars places f.part).cons '.').append _
    exact behind _
      (((((((second.cons ':').append _).cons ':').append _).cons between.char)).append _)

/-- Other characters do not occur in date texts. -/
theorem not_mem_chars {c : Char} (other : isDigit c = false ∧ c ∉ dateMarks) : c ∉ w.chars := by
  intro h
  rcases isDateChar_chars w c h with digit | mark
  · cases digit.symm.trans other.1
  · exact other.2 mark

/-! ## §2 What stands around a text -/

/-- A text with letters behind it ends with a digit or with one of them. -/
theorem exists_letters_eq_append (w : DateText) (n : Nat) :
    ∃ init c, w.chars ++ List.replicate n 'Z' = init ++ [c] ∧ isBlank c = false ∧ c ≠ ' ' := by
  -- Without letters the last digit remains at the end.
  cases n with
  | zero =>
    obtain ⟨init, c, text, digit⟩ := endsInDigit_chars w
    refine ⟨init, c, by rw [List.replicate_zero, List.append_nil, text],
      isBlank_of_isDigit digit, ?_⟩
    rintro rfl
    cases digit
  | succ n =>
    have last : w.chars ++ List.replicate (n + 1) 'Z' =
        w.chars ++ List.replicate n 'Z' ++ ['Z'] := by
      rw [List.replicate_succ', List.append_assoc]
    exact ⟨_, 'Z', last, by decide, by decide⟩

/-- Blanks around a text are cut off, and a marker stays a marker. -/
theorem exists_trim_marked (w : DateText) {before after marker : List Char}
    (blank : ∀ c ∈ before, isBlank c = true) (blank' : ∀ c ∈ after, isBlank c = true)
    (marked : IsZoneMarker marker) :
    ∃ kept, IsZoneMarker kept ∧
      trim (before ++ (w.chars ++ marker ++ after)) = w.chars ++ kept := by
  have start : trimStart (before ++ (w.chars ++ marker ++ after)) = w.chars ++ marker ++ after := by
    obtain ⟨c, s, text, notBlank⟩ := exists_chars_eq_cons w
    apply Text.dropWhile_append_stop blank
    intro d first
    rw [text] at first
    cases first
    exact notBlank
  have ends {init : List Char} {c : Char} (notBlank : isBlank c = false) (z : List Char) :
      trimEnd (init ++ c :: z) = init ++ c :: trimEnd z := Text.dropWhileEnd_append notBlank z
  -- Blanks at the end of the text behind a marker are cut off, too.
  have behind (a b : Char) {c : Char} (notBlank : isBlank c = false) (z : List Char) :
      trimEnd (w.chars ++ ' ' :: a :: b :: c :: z ++ after) =
        w.chars ++ ' ' :: a :: b :: c :: trimEnd (z ++ after) := by
    have text : w.chars ++ ' ' :: a :: b :: c :: z ++ after =
        (w.chars ++ [' ', a, b]) ++ c :: (z ++ after) := by simp
    rw [text, ends notBlank]
    simp
  -- The marker is cut at its end only, so that its first letters stay.
  rw [trim, start]
  cases marked with
  | letters n =>
    obtain ⟨init, c, text, notBlank, -⟩ := exists_letters_eq_append w n
    have none : trimEnd after = [] := Text.dropWhileEnd_of_all blank'
    refine ⟨_, .letters n, ?_⟩
    rw [text, List.append_assoc, List.singleton_append, ends notBlank, none]
  | gmt z => exact ⟨_, .gmt (trimEnd (z ++ after)), behind 'G' 'M' (by decide) z⟩
  | utc z => exact ⟨_, .utc (trimEnd (z ++ after)), behind 'U' 'T' (by decide) z⟩

/-- Only letters are dropped behind a date text. -/
theorem dropLetters (w : DateText) (n : Nat) :
    dropWhileEnd (· == 'Z') (trimEnd (w.chars ++ List.replicate n 'Z')) = w.chars := by
  have trimmed : trimEnd (w.chars ++ List.replicate n 'Z') = w.chars ++ List.replicate n 'Z' := by
    obtain ⟨init, c, text, notBlank, -⟩ := exists_letters_eq_append w n
    rw [text]
    exact Text.dropWhileEnd_of_last notBlank
  obtain ⟨init, c, text, digit⟩ := endsInDigit_chars w
  have notZ : (c == 'Z') = false := by
    apply beq_eq_false_iff_ne.2
    rintro rfl
    cases digit
  have letters : dropWhileEnd (· == 'Z') (List.replicate n 'Z') = [] :=
    Text.dropWhileEnd_of_all (by simp)
  -- The letters are dropped up to the last digit.
  rw [trimmed, text, List.append_assoc, List.singleton_append]
  rw [Text.dropWhileEnd_append (p := (· == 'Z')) notZ, letters]

/-- The two names are cut off one after the other, and then the letters. -/
theorem withoutZoneMarker_of {s beforeGmt kept : List Char}
    (gmt : (before? [' ', 'G', 'M', 'T'] s).getD s = beforeGmt)
    (utc : (before? [' ', 'U', 'T', 'C'] beforeGmt).getD beforeGmt = kept) :
    withoutZoneMarker s = dropWhileEnd (· == 'Z') (trimEnd kept) := by
  subst gmt utc
  rfl

/-- **A marker and what stands behind it are cut off.** -/
theorem withoutZoneMarker_marked (w : DateText) {marker : List Char}
    (marked : IsZoneMarker marker) :
    withoutZoneMarker (w.chars ++ marker) = w.chars := by
  have alone := dropLetters w 0
  rw [List.replicate_zero, List.append_nil] at alone
  have noG : 'G' ∉ w.chars := not_mem_chars (by decide)
  have noU : 'U' ∉ w.chars := not_mem_chars (by decide)
  have last : w.chars.getLast? ≠ some ' ' := by
    obtain ⟨init, c, text, -, notSpace⟩ := exists_letters_eq_append w 0
    rw [List.replicate_zero, List.append_nil] at text
    simpa [text] using notSpace
  -- A name is found where the text ends, since its letters do not occur in the text.
  cases marked with
  | letters n =>
    have last' : (w.chars ++ List.replicate n 'Z').getLast? ≠ some ' ' := by
      obtain ⟨init, c, text, -, notSpace⟩ := exists_letters_eq_append w n
      simpa [text] using notSpace
    have noGmt : before? [' ', 'G', 'M', 'T'] (w.chars ++ List.replicate n 'Z') = none :=
      Text.before?_eq_none (by simp [noG]) last'
    have noUtc : before? [' ', 'U', 'T', 'C'] (w.chars ++ List.replicate n 'Z') = none :=
      Text.before?_eq_none (by simp [noU]) last'
    rw [withoutZoneMarker_of (by rw [noGmt, Option.getD_none]) (by rw [noUtc, Option.getD_none])]
    exact dropLetters w n
  | gmt z =>
    have found : before? [' ', 'G', 'M', 'T'] (w.chars ++ ' ' :: 'G' :: 'M' :: 'T' :: z) =
        some w.chars :=
      Text.before?_append_pattern noG last z
    have noUtc : before? [' ', 'U', 'T', 'C'] w.chars = none := Text.before?_eq_none noU last
    rw [withoutZoneMarker_of (by rw [found, Option.getD_some]) (by rw [noUtc, Option.getD_none])]
    exact alone
  | utc z =>
    -- The other marker may stand behind this one.
    have kept : ∃ z', (before? [' ', 'G', 'M', 'T'] (w.chars ++ ' ' :: 'U' :: 'T' :: 'C' :: z)).getD
        (w.chars ++ ' ' :: 'U' :: 'T' :: 'C' :: z) = w.chars ++ ' ' :: 'U' :: 'T' :: 'C' :: z' := by
      have behind : before? [' ', 'G', 'M', 'T'] ((w.chars ++ [' ', 'U', 'T', 'C']) ++ z) = _ :=
        Text.before?_append (by simp [noG]) (by simp) z
      rw [List.append_assoc, List.cons_append, List.cons_append, List.cons_append, List.cons_append,
        List.nil_append] at behind
      rw [behind]
      cases before? [' ', 'G', 'M', 'T'] z with
      | none => exact ⟨z, rfl⟩
      | some z' => exact ⟨z', by simp⟩
    obtain ⟨z', same⟩ := kept
    have found : before? [' ', 'U', 'T', 'C'] (w.chars ++ ' ' :: 'U' :: 'T' :: 'C' :: z') =
        some w.chars :=
      Text.before?_append_pattern noU last z'
    rw [withoutZoneMarker_of same (by rw [found, Option.getD_some])]
    exact alone

/-! ## §3 Texts with a zone -/

/-- What is read behind the date of a text with a zone. -/
def readZonedTime? (date : CivilDate) (s : List Char) : Option Instant := do
  let s ← (expect 'T' s).or ((expect 't' s).or (expect ' ' s))
  let (hour, s) ← exactDigits 2 s
  let s ← expect ':' s
  let (minute, s) ← exactDigits 2 s
  let s ← expect ':' s
  let (second, s) ← exactDigits 2 s
  let (nanos, s) ← fraction s
  let (offset, s) ← zone s
  if s.isEmpty then Instant.ofClock? ⟨date, hour, minute, second, nanos⟩ offset else none

/-- Only a year of four digits begins a text with a zone. -/
theorem readZoned?_date (fits : w.Fits) (rest : List Char) :
    readZoned? (w.chars ++ rest) =
      if 0 ≤ w.date.year ∧ w.date.year ≤ 9999 then
        readZonedTime? w.date (w.time.chars ++ rest) else none := by
  have text : w.chars ++ rest = yearChars w.date.year ++ '-' :: (paddedChars 2 w.date.month ++
      '-' :: (paddedChars 2 w.date.day ++ (w.time.chars ++ rest))) := by simp [DateText.chars]
  rw [text, yearChars]
  split
  case isTrue plain =>
    obtain ⟨⟨year, month, day⟩, time⟩ := w
    obtain ⟨n, rfl⟩ := Int.eq_ofNat_of_zero_le plain.1
    have year : n < 10 ^ 4 := by
      dsimp only at plain
      omega
    rw [readZoned?]
    -- All the numbers of the date have their width, so each step of the reader succeeds.
    apply (bind_eq_of_some (exactDigits_paddedChars year _) _).trans
    apply (bind_eq_of_some (expect_cons '-' _) _).trans
    apply (bind_eq_of_some (exactDigits_paddedChars fits.month _) _).trans
    apply (bind_eq_of_some (expect_cons '-' _) _).trans
    exact bind_eq_of_some (exactDigits_paddedChars fits.day _) _
  case isFalse signed =>
    -- A sign stands where the first of four digits should.
    have noDigits (s : List Char) :
        exactDigits 4 ((if w.date.year < 0 then '-' else '+') :: s) = none := by
      have sign : isDigit (if w.date.year < 0 then '-' else '+') = false := by
        split <;> rfl
      simp [exactDigits, sign]
    rw [List.cons_append, readZoned?, noDigits]
    rfl

/-- A time without seconds is none of a text with a zone. -/
theorem readZonedTime?_minutes {date : CivilDate} {hour minute : Nat} (hourFits : hour < 10 ^ 2)
    (minuteFits : minute < 10 ^ 2) {rest : List Char} (stop : expect ':' rest = none) :
    readZonedTime? date ((TimeText.minutes hour minute).chars ++ rest) = none := by
  have text : (TimeText.minutes hour minute).chars ++ rest =
      ' ' :: (paddedChars 2 hour ++ ':' :: (paddedChars 2 minute ++ rest)) := by
        simp [TimeText.chars]
  have space (s : List Char) :
      (expect 'T' (' ' :: s)).or ((expect 't' (' ' :: s)).or (expect ' ' (' ' :: s))) =
      some s := rfl
  rw [text, readZonedTime?, space]
  -- The reader comes as far as the minutes, and misses the colon behind them.
  apply (bind_eq_of_some (exactDigits_paddedChars hourFits _) _).trans
  apply (bind_eq_of_some (expect_cons ':' _) _).trans
  apply (bind_eq_of_some (exactDigits_paddedChars minuteFits _) _).trans
  simp only [stop, Option.bind_eq_bind, Option.bind_none]

/-- A time with seconds is the one of a text with a zone, if a zone follows. -/
theorem readZonedTime?_seconds {date : CivilDate} {between : Separator} {hour minute second : Nat}
    {f : Fraction} (fits : DateText.Fits ⟨date, .seconds between hour minute second f⟩)
    {rest : List Char} (stop : ∀ c ∈ rest.head?, isDigit c = false ∧ c ≠ '.') :
    readZonedTime? date ((TimeText.seconds between hour minute second f).chars ++ rest) =
      (zone rest).bind fun (offset, s) =>
        if s.isEmpty then Instant.ofClock? ⟨date, hour, minute, second, f.nanos⟩ offset else
          none := by
  have text : (TimeText.seconds between hour minute second f).chars ++ rest =
      between.char :: (paddedChars 2 hour ++ ':' :: (paddedChars 2 minute ++
        ':' :: (paddedChars 2 second ++ (f.chars ++ rest)))) := by simp [TimeText.chars]
  have separator (s : List Char) :
      (expect 'T' (between.char :: s)).or ((expect 't' (between.char :: s)).or
      (expect ' ' (between.char :: s))) = some s := by cases between <;> rfl
  rw [text, readZonedTime?, separator]
  apply (bind_eq_of_some (exactDigits_paddedChars fits.hour _) _).trans
  apply (bind_eq_of_some (expect_cons ':' _) _).trans
  apply (bind_eq_of_some (exactDigits_paddedChars fits.minute _) _).trans
  apply (bind_eq_of_some (expect_cons ':' _) _).trans
  apply (bind_eq_of_some (exactDigits_paddedChars fits.second _) _).trans
  exact bind_eq_of_some (fraction_chars f stop) _

/-- **A date text with a marker is no text with a zone, or its instant is the same.**  The zone can
only be a `Z`. -/
theorem readZoned?_marked (fits : w.Fits) {marker : List Char} (marked : IsZoneMarker marker) :
    readZoned? (w.chars ++ marker) = none ∨
      readZoned? (w.chars ++ marker) = Instant.ofClock? w.reading 0 := by
  rw [readZoned?_date fits]
  split
  case isFalse => exact .inl rfl
  case isTrue =>
    obtain ⟨date, time⟩ := w
    cases time with
    | absent =>
      -- Behind the bare date the reader asks for a separator, which no marker begins with but a
      -- space; then it asks for digits.
      refine .inl ?_
      cases marked with
      | letters n => cases n <;> rfl
      | gmt z => rfl
      | utc z => rfl
    | minutes hour minute =>
      have stop : expect ':' marker = none := by
        cases marker with
        | nil => rfl
        | cons c z => exact if_neg (head_of_isZoneMarker marked c rfl).2.1
      exact .inl (readZonedTime?_minutes fits.hour fits.minute stop)
    | seconds between hour minute second f =>
      have stop : ∀ c ∈ marker.head?, isDigit c = false ∧ c ≠ '.' := fun c first =>
        ⟨(head_of_isZoneMarker marked c first).1, (head_of_isZoneMarker marked c first).2.2⟩
      -- A zone that is a letter is a single one and ends the text.
      dsimp only
      rw [readZonedTime?_seconds fits stop]
      cases marked with
      | letters n =>
        match n with
        | 0 => exact .inl rfl
        | 1 => exact .inr rfl
        | n + 2 => exact .inl rfl
      | gmt z => exact .inl rfl
      | utc z => exact .inl rfl

end InstantReader

/-! ## §4 Reading a text with a marker -/

open InstantReader

/-- **A marker does not count**, nor do blanks: the text is read as if its layout was all there
is. -/
theorem Instant.readChars?_marked {w : DateText} (fits : w.Fits) {before after marker : List Char}
    (blank : ∀ c ∈ before, isBlank c = true) (blank' : ∀ c ∈ after, isBlank c = true)
    (marked : IsZoneMarker marker) :
    readChars? (before ++ (w.chars ++ marker ++ after)) = ofClock? w.reading 0 := by
  obtain ⟨kept, keptMarked, trimmed⟩ := exists_trim_marked w blank blank' marked
  have bare : readBare? (withoutZoneMarker (w.chars ++ kept)) = ofClock? w.reading 0 := by
    rw [withoutZoneMarker_marked w keptMarked, readBare?_chars fits]
  rw [readChars?, trimmed]
  -- If the text has a zone, its instant is the one of the layout anyway.
  rcases readZoned?_marked fits keptMarked with none | same
  · rw [none]
    exact bare
  · rw [same]
    cases found : ofClock? w.reading 0 with
    | none => exact bare.trans found
    | some t => rfl

/-- **The instant of a date text is the same with any marker behind it and blanks around**: the one
at which a clock in UTC shows what the text says. -/
theorem Instant.zoneMarker_ignored (w : DateText) (plain : 0 ≤ w.date.year ∧ w.date.year ≤ 9999)
    (reading : isReading w.reading = true) :
    ∃ d, d.clock = w.reading ∧ ofClock? w.reading 0 = some d ∧
      ∀ before after marker : String, (∀ c ∈ before.toList, isBlank c = true) →
        (∀ c ∈ after.toList, isBlank c = true) → IsZoneMarker marker.toList →
          read? (before ++ w.text ++ marker ++ after) = some d := by
  have same : w.reading.date = w.date := w.reading_date
  obtain ⟨d, found⟩ := exists_ofClock? reading (by rwa [same])
  refine ⟨d, clock_of_ofClock? found, found, ?_⟩
  intro before after marker blank blank' marked
  -- The blanks stand around the text with its marker.
  have text : (before ++ w.text ++ marker ++ after).toList =
      before.toList ++ (w.chars ++ marker.toList ++ after.toList) := by
    simp [DateText.text]
  rw [read?, text, readChars?_marked (w.fits_of_isReading reading) blank blank' marked, found]

/-- The half of a leap second at the end of a leap day. -/
def endOfLeapDay : DateText :=
  ⟨⟨2024, 2, 29⟩, .seconds .letterT 23 59 60 ⟨1, 5, by decide, by decide⟩⟩

/-- Markers of each kind, and blanks of several, around a text that ends with a leap second. -/
theorem Instant.zoneMarker_ignored_endOfLeapDay :
    endOfLeapDay.text = "2024-02-29T23:59:60.5" ∧
      (0 ≤ endOfLeapDay.date.year ∧ endOfLeapDay.date.year ≤ 9999) ∧
      isReading endOfLeapDay.reading = true ∧
      ∃ d : Instant, d.seconds = 1709251199 ∧ d.nanos = 1500000000 ∧
        read? ("\n " ++ endOfLeapDay.text ++ " UTC+02:00 GMT 12ZZ" ++ "\t ") = some d ∧
        read? ("" ++ endOfLeapDay.text ++ "Z" ++ "") = some d ∧
        read? ("" ++ endOfLeapDay.text ++ "ZZ" ++ " ") = some d := by
  obtain ⟨d, -, found, same⟩ := zoneMarker_ignored endOfLeapDay (by decide) (by decide)
  have shown : d.seconds = 1709251199 ∧ d.nanos = 1500000000 := by
    have instant : ofClock? endOfLeapDay.reading 0 =
        some ⟨1709251199, 1500000000, by decide, by decide⟩ := by decide
    cases found.symm.trans instant
    exact ⟨rfl, rfl⟩
  refine ⟨by decide +kernel, by decide, by decide, d, shown.1, shown.2, ?_, ?_, ?_⟩
  · exact same _ _ _ (by simp [isBlank]) (by simp [isBlank]) (.utc "+02:00 GMT 12ZZ".toList)
  · exact same _ _ _ (by simp) (by simp) (.letters 1)
  · exact same _ _ _ (by simp) (by simp [isBlank]) (.letters 2)

end TableMapper
