import TableMapper.Proofs.Calendar.InstantText
import TableMapper.Proofs.Calendar.Order
import TableMapper.Proofs.Text.Octets

/-!
# Column texts in order

Numbers of fixed width are ordered as their digits are, and so are rows of them with marks between.
The text of a date column in the years 0 to 9999 is such a row, so that it can be compared in place
of its instant.

- `fixedWidth` writes numbers by a layout, and `fixedWidth_lt_fixedWidth` compares what it wrote;
- `Instant.columnText_ordered` says that column texts have 23 characters and are ordered as
  instants.
-/

namespace TableMapper

open Decimal (paddedChars digitChar)
open Text (octets)

/-! ## §1 Numbers of fixed width -/

/-- What two texts begin with in common does not decide their order. -/
theorem append_lt_append {s t : List Char} (common : List Char) (less : s < t) :
    common ++ s < common ++ t := by
  induction common with
  | nil => exact less
  | cons c common ih => exact .cons ih

/-- Digits are ordered as characters as they are as numbers. -/
theorem Decimal.digitChar_lt_digitChar {a b : Fin 10} (less : a < b) :
    digitChar a < digitChar b := by
  revert a b
  decide

/-- Digits of the same number are ordered as their numbers, whatever follows them. -/
theorem Decimal.paddedChars_lt_paddedChars {k m n : Nat} (less : m < n) (fits : n < 10 ^ k)
    (s t : List Char) :
    paddedChars k m ++ s < paddedChars k n ++ t := by
  induction k generalizing m n s t with
  | zero => omega
  | succ k ih =>
    simp only [paddedChars_succ, List.append_assoc, List.singleton_append]
    rcases Nat.lt_or_ge (m / 10) (n / 10) with earlier | same
    · exact ih earlier (by omega) _ _
    · -- The numbers differ in the last digit only.
      have equal : m / 10 = n / 10 := by omega
      have last : m % 10 < n % 10 := by omega
      rw [equal]
      exact append_lt_append _ (.rel (digitChar_lt_digitChar last))

/-- Numbers by a layout, which gives the width of each and the mark behind it. -/
def fixedWidth : List (Nat × List Char) → List Nat → List Char
  | (width, mark) :: layout, n :: numbers =>
    paddedChars width n ++ mark ++ fixedWidth layout numbers
  | _, _ => []

/-- Each number has room in its place of the layout. -/
def FitsWidths (layout : List (Nat × List Char)) (numbers : List Nat) : Prop :=
  List.Forall₂ (fun place n => n < 10 ^ place.1) layout numbers

variable {layout : List (Nat × List Char)} {numbers others : List Nat}

/-- The length of a row depends on the layout alone. -/
theorem length_fixedWidth (fits : FitsWidths layout numbers) :
    (fixedWidth layout numbers).length =
      (layout.map fun place => place.1 + place.2.length).sum := by
  induction fits with
  | nil => rfl
  | cons _ _ ih => simp [fixedWidth, ih, Nat.add_assoc]

/-- **Rows of fixed width are ordered as their numbers**, the first number that differs deciding. -/
theorem fixedWidth_lt_fixedWidth (fits : FitsWidths layout numbers)
    (fits' : FitsWidths layout others)
    (less : numbers < others) : fixedWidth layout numbers < fixedWidth layout others := by
  induction fits generalizing others with
  | nil =>
    cases fits'
    cases less
  | cons _ _ ih =>
    cases fits' with
    | cons first rest =>
      simp only [fixedWidth, List.append_assoc]
      -- Either the first numbers differ, or they are equal and the others decide.
      cases less with
      | rel less => exact Decimal.paddedChars_lt_paddedChars less first _ _
      | cons less => exact append_lt_append _ (append_lt_append _ (ih rest less))

/-! ## §2 Column texts -/

/-- The places of a column text. -/
def columnLayout : List (Nat × List Char) :=
  [(4, ['-']), (2, ['-']), (2, [' ']), (2, [':']), (2, [':']), (2, ['.']), (3, [])]

namespace Instant

/-- The year is written without a sign. -/
def HasPlainYear (t : Instant) : Prop := 0 ≤ t.clock.date.year ∧ t.clock.date.year ≤ 9999

variable {t u : Instant}

/-- The text of a date column is a row of its clock's numbers. -/
theorem columnChars_eq_fixedWidth (plain : t.HasPlainYear) :
    t.columnChars = fixedWidth columnLayout t.clock.fields := by
  have year : yearChars t.clock.date.year = paddedChars 4 t.clock.date.year.toNat := if_pos plain
  simp [columnChars, ClockReading.dateChars, ClockReading.timeChars, ClockReading.milliChars,
    year, fixedWidth, columnLayout, ClockReading.fields]

/-- The numbers of a clock have room in their places. -/
theorem fitsWidths_fields (plain : t.HasPlainYear) : FitsWidths columnLayout t.clock.fields := by
  obtain ⟨⟨month, day⟩, ⟨hour, minute, second⟩, nanos⟩ :=
    InstantReader.bounds_of_isReading t.isReading_clock
  have year : t.clock.date.year.toNat < 10 ^ 4 := by
    have bound := plain.2
    omega
  have millis : t.clock.nanos / 1000000 < 10 ^ 3 := by
    unfold nanosPerSecond at nanos
    omega
  exact .cons year
    (.cons month (.cons day (.cons hour (.cons minute (.cons second (.cons millis .nil))))))

theorem ascii_of_mem_columnChars {c : Char} (h : c ∈ t.columnChars) : c.toNat < 128 := by
  rw [← t.chars_columnWords] at h
  exact InstantReader.ascii_of_mem_chars t.columnWords c h

/-- Column texts have 23 characters. -/
theorem length_columnText (plain : t.HasPlainYear) : t.columnText.length = 23 := by
  rw [columnText, String.length_ofList, columnChars_eq_fixedWidth plain,
    length_fixedWidth (fitsWidths_fields plain)]
  rfl

/-- The text of an instant in an earlier millisecond comes first. -/
theorem octets_columnText_lt (plain : t.HasPlainYear) (plain' : u.HasPlainYear)
    (before : t.MilliBefore u) :
    octets t.columnText < octets u.columnText := by
  have chars : t.columnChars < u.columnChars := by
    rw [columnChars_eq_fixedWidth plain, columnChars_eq_fixedWidth plain']
    have fields : t.clock.fields < u.clock.fields := fields_lt_fields plain.1 before
    exact fixedWidth_lt_fixedWidth (fitsWidths_fields plain) (fitsWidths_fields plain') fields
  exact Text.octets_lt_octets (fun c => ascii_of_mem_columnChars)
    (fun c => ascii_of_mem_columnChars) chars

/-- Texts are equal exactly if the instants are in the same millisecond. -/
theorem columnText_eq_iff (plain : t.HasPlainYear) (plain' : u.HasPlainYear) :
    t.columnText = u.columnText ↔
      t.seconds = u.seconds ∧ t.nanos / 1000000 = u.nanos / 1000000 := by
  constructor
  · intro same
    -- If one millisecond were before the other, the texts would differ.
    have notBefore : ¬ t.MilliBefore u := fun before =>
      List.lt_irrefl _ (same ▸ octets_columnText_lt plain plain' before)
    have notAfter : ¬ u.MilliBefore t := fun after =>
      List.lt_irrefl _ (same ▸ octets_columnText_lt plain' plain after)
    unfold MilliBefore at notBefore notAfter
    omega
  · rintro ⟨seconds, nanos⟩
    have cut : t.cut = u.cut := by simp [Instant.cut, seconds, nanos]
    rw [← columnText_cut t, cut, columnText_cut]

/-- **Column texts stand for their instants in comparisons.**  In the years 0 to 9999 they all have
23 ASCII characters, their octets are ordered as the instants are, leap seconds included, and two of
them are equal exactly if the instants are in the same millisecond. -/
theorem columnText_ordered (plain : t.HasPlainYear) (plain' : u.HasPlainYear) :
    (t.columnText.length = 23 ∧ ∀ c ∈ t.columnText.toList, c.toNat < 128) ∧
      (u.columnText.length = 23 ∧ ∀ c ∈ u.columnText.toList, c.toNat < 128) ∧
      (t ≤ u → octets t.columnText ≤ octets u.columnText) ∧
      (t.columnText = u.columnText ↔
        t.seconds = u.seconds ∧ t.nanos / 1000000 = u.nanos / 1000000) := by
  have ascii (v : Instant) : ∀ c ∈ v.columnText.toList, c.toNat < 128 := by
    intro c h
    rw [columnText, String.toList_ofList] at h
    exact ascii_of_mem_columnChars h
  refine ⟨⟨length_columnText plain, ascii t⟩, ⟨length_columnText plain', ascii u⟩, ?_,
    columnText_eq_iff plain plain'⟩
  intro le
  -- Cut to milliseconds, the order may become equality.
  rcases milliBefore_or_same_of_le le with before | same
  · exact List.le_of_lt (octets_columnText_lt plain plain' before)
  · rw [(columnText_eq_iff plain plain').2 same]
    exact List.le_refl _

/-- A leap second at the end of February 1900, with all its nanoseconds. -/
def endOfFebruary : Instant := ⟨-2203891201, 1999999999, by decide, by decide⟩

/-- The instant right behind it; the year 1900 had no leap day. -/
def startOfMarch : Instant := ⟨-2203891200, 0, by decide, by decide⟩

theorem columnText_ordered_february :
    endOfFebruary.HasPlainYear ∧ startOfMarch.HasPlainYear ∧
      endOfFebruary.columnText = "1900-02-28 23:59:60.999" ∧
        startOfMarch.columnText = "1900-03-01 00:00:00.000" ∧
      octets endOfFebruary.columnText ≤ octets startOfMarch.columnText ∧
      endOfFebruary.columnText ≠ startOfMarch.columnText := by
  have plain : endOfFebruary.HasPlainYear := ⟨by decide, by decide⟩
  have plain' : startOfMarch.HasPlainYear := ⟨by decide, by decide⟩
  obtain ⟨-, -, ordered, same⟩ := columnText_ordered plain plain'
  refine ⟨plain, plain', by decide +kernel, by decide +kernel, ordered (.inl (by decide)), ?_⟩
  rw [Ne, same]
  decide

end Instant

end TableMapper
