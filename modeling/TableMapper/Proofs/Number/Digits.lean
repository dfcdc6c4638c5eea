import Mathlib.Tactic.Ring
import TableMapper.Number.Decimal
import TableMapper.Number.Numeral
import TableMapper.Proofs.Text.Runs

/-!
# Digits written and read

The digits of a number, written by `Decimal.natChars` and `Decimal.paddedChars`, are digits to the
readers and have the number as their value.  Runs of digits end where a reader meets any other
character; these laws let the readers of literals, documents and dates resume after a number.
-/

namespace TableMapper

open Numeral (digit? isDigit digitsValue takeDigits readDigits?)

/-! ## §1 Single digits -/

namespace Numeral

/-- A digit is read from its character. -/
@[simp]
theorem digit?_digitChar (d : Fin 10) : digit? (Decimal.digitChar d) = some d.val := by
  revert d
  decide

@[simp]
theorem isDigit_digitChar (d : Fin 10) : isDigit (Decimal.digitChar d) = true := by
  simp [isDigit]

/-- The digits of the readers are the ten characters of the core library's class. -/
theorem isDigit_eq_isDigit (c : Char) : isDigit c = c.isDigit := by
  have zero : '0'.val = 48 := rfl
  have nine : '9'.val = 57 := rfl
  simp only [isDigit, digit?, Char.isDigit, Char.le_def, zero, nine, ge_iff_le]
  by_cases low : 48 ≤ c.val <;> by_cases high : c.val ≤ 57 <;> simp [low, high]

/-- The value of a digit is its distance from `0`. -/
theorem digit?_of_isDigit {c : Char} (h : isDigit c = true) :
    digit? c = some (c.toNat - '0'.toNat) := by
  unfold isDigit at h
  unfold digit? at h ⊢
  split at h
  case isTrue inRange => rw [if_pos inRange]
  case isFalse => simp at h

/-- A character that counts as a digit is one of the ten. -/
theorem exists_digitChar_of_isDigit {c : Char} (h : isDigit c = true) :
    ∃ d : Fin 10, c = Decimal.digitChar d := by
  rw [isDigit_eq_isDigit] at h
  have bounds : 48 ≤ c.toNat ∧ c.toNat ≤ 57 := by
    simpa [Char.isDigit, UInt32.le_iff_toNat_le] using h
  have all : ∀ n < 58, 48 ≤ n → ∃ d : Fin 10, Char.ofNat n = Decimal.digitChar d := by decide
  obtain ⟨d, same⟩ := all c.toNat (Nat.lt_succ_of_le bounds.2) bounds.1
  exact ⟨d, (Char.ofNat_toNat c).symm.trans same⟩

/-! ## §2 Runs of digits -/

/-- Digits are read from left to right. -/
theorem digitsValue_append (acc : Nat) (s t : List Char) :
    digitsValue acc (s ++ t) = digitsValue (digitsValue acc s) t := by
  induction s generalizing acc with
  | nil => rfl
  | cons c s ih => exact ih _

/-- What was read before is shifted by the digits that follow. -/
theorem digitsValue_eq_add (acc : Nat) (s : List Char) :
    digitsValue acc s = acc * 10 ^ s.length + digitsValue 0 s := by
  induction s generalizing acc with
  | nil => simp [digitsValue]
  | cons c s ih =>
    simp only [digitsValue, List.length_cons]
    rw [ih, ih (0 * 10 + _), Nat.add_mul, Nat.pow_succ]
    simp only [Nat.zero_mul, Nat.zero_add, Nat.mul_assoc, Nat.mul_comm 10, Nat.add_assoc]

/-- The value of digits is the one of the core library. -/
theorem digitsValue_eq_ofDigitChars {s : List Char} (digits : ∀ c ∈ s, isDigit c = true)
    (acc : Nat) :
    digitsValue acc s = Nat.ofDigitChars 10 s acc := by
  induction s generalizing acc with
  | nil => rfl
  | cons c s ih =>
    have first := digit?_of_isDigit (digits c (List.mem_cons_self ..))
    simp only [digitsValue, Nat.ofDigitChars_cons, first, Option.getD_some, Nat.mul_comm acc 10]
    exact ih (fun d hd => digits d (List.mem_cons_of_mem _ hd)) _

/-- A text of digits is read as a number. -/
theorem readDigits?_of_digits {s : List Char} (nonempty : s ≠ [])
    (digits : ∀ c ∈ s, isDigit c = true) :
    readDigits? s = some (digitsValue 0 s) := by
  simp [readDigits?, nonempty, List.all_eq_true.2 digits]

/-- Digits with a point among them are no run of digits. -/
theorem readDigits?_of_point (whole fraction : List Char) :
    readDigits? (whole ++ '.' :: fraction) = none := by
  have noDigit : isDigit '.' = false := by decide
  simp [readDigits?, noDigit]

/-- A reader takes the digits up to the first other character. -/
theorem takeDigits_append {s rest : List Char} (digits : ∀ c ∈ s, isDigit c = true)
    (stop : ∀ c ∈ rest.head?, isDigit c = false) : takeDigits (s ++ rest) = (s, rest) := by
  simp only [takeDigits, Text.takeWhile_append_stop digits stop,
    Text.dropWhile_append_stop digits stop]

end Numeral

/-! ## §3 Written numbers -/

namespace Decimal

/-- Written digits are digits. -/
theorem isDigit_of_mem_map (digits : List (Fin 10)) :
    ∀ c ∈ digits.map digitChar, isDigit c = true := by
  intro c h
  obtain ⟨d, -, rfl⟩ := List.mem_map.1 h
  exact Numeral.isDigit_digitChar d

/-- A numeral consists of digits. -/
theorem isDigit_of_mem_natChars {n : Nat} {c : Char} (h : c ∈ natChars n) : isDigit c = true := by
  rw [Numeral.isDigit_eq_isDigit]
  exact Nat.isDigit_of_mem_toDigits (by decide) (by decide) h

theorem natChars_ne_nil (n : Nat) : natChars n ≠ [] := Nat.toDigits_ne_nil

/-- It begins with one. -/
theorem exists_natChars_eq_cons (n : Nat) : ∃ c s, natChars n = c :: s ∧ isDigit c = true := by
  obtain ⟨c, s, text⟩ := List.exists_cons_of_ne_nil (natChars_ne_nil n)
  exact ⟨c, s, text, isDigit_of_mem_natChars (text ▸ List.mem_cons_self ..)⟩

/-- Only zero begins with a zero. -/
theorem head?_natChars_ne {n : Nat} (positive : n ≠ 0) : (natChars n).head? ≠ some '0' := by
  induction n using Nat.strongRecOn with
  | ind n ih =>
    unfold natChars at ih ⊢
    -- The first digit is that of a tenth of the number, down to a single digit.
    rcases Nat.lt_or_ge n 10 with small | large
    · have digits : ∀ k < 10, k ≠ 0 → some (Nat.digitChar k) ≠ some '0' := by decide
      rw [Nat.toDigits_of_lt_base small]
      exact digits n small positive
    · have first := ih (n / 10) (by omega) (by omega)
      obtain ⟨c, s, text⟩ := List.exists_cons_of_ne_nil (natChars_ne_nil (n / 10))
      unfold natChars at text
      rw [text] at first
      rw [Nat.toDigits_of_base_le (by decide) large, text]
      exact first

/-- A number is read from its numeral. -/
@[simp]
theorem digitsValue_natChars (n : Nat) : digitsValue 0 (natChars n) = n := by
  rw [Numeral.digitsValue_eq_ofDigitChars fun c => isDigit_of_mem_natChars]
  exact Nat.ofDigitChars_ten_toDigits

@[simp]
theorem readDigits?_natChars (n : Nat) : readDigits? (natChars n) = some n := by
  rw [Numeral.readDigits?_of_digits (natChars_ne_nil n) fun c => isDigit_of_mem_natChars,
    digitsValue_natChars]

/-- As many digits are kept as were asked for. -/
@[simp]
theorem length_lastDigits (k n : Nat) : (lastDigits k n).length = k := by
  induction k generalizing n with
  | zero => rfl
  | succ k ih => simp [lastDigits, ih]

/-- A padded numeral is as long as was asked for. -/
@[simp]
theorem length_paddedChars (k n : Nat) : (paddedChars k n).length = k := by
  simp [paddedChars]

/-- Its last digit is the remainder by ten. -/
theorem paddedChars_succ (k n : Nat) :
    paddedChars (k + 1) n = paddedChars k (n / 10) ++
      [digitChar ⟨n % 10, Nat.mod_lt n (by decide)⟩] := by
  simp [paddedChars, lastDigits]

/-- It consists of digits. -/
theorem isDigit_of_mem_paddedChars {k n : Nat} {c : Char} (h : c ∈ paddedChars k n) :
    isDigit c = true :=
  isDigit_of_mem_map _ c h

theorem exists_paddedChars_eq_cons (k n : Nat) :
    ∃ c s, paddedChars (k + 1) n = c :: s ∧ isDigit c = true := by
  cases text : paddedChars (k + 1) n with
  | nil => simpa [text] using length_paddedChars (k + 1) n
  | cons c s => exact ⟨c, s, rfl, isDigit_of_mem_paddedChars (text ▸ List.mem_cons_self ..)⟩

/-- The value of the last `k` digits of a number is its remainder. -/
theorem digitsValue_paddedChars (k n : Nat) : digitsValue 0 (paddedChars k n) = n % 10 ^ k := by
  induction k generalizing n with
  | zero => simp [paddedChars, lastDigits, digitsValue, Nat.mod_one]
  | succ k ih =>
    rw [paddedChars_succ, Numeral.digitsValue_append, ih]
    simp only [digitsValue, Numeral.digit?_digitChar, Option.getD_some]
    rw [Nat.pow_succ, Nat.mul_comm (10 ^ k) 10, Nat.mod_mul]
    omega

end Decimal

end TableMapper
