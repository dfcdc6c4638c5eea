import TableMapper.Text.Blank
import TableMapper.Text.Search

/-!
# Letter case

Taking a text to lower case changes ASCII letters only: it can be done once or twice, and before or
after blanks are cut off.  The upper case of a text does not depend on the case of its letters.
-/

namespace TableMapper.Text

/-- Only capital letters are changed. -/
theorem toLower_eq_or (c : Char) :
    c.toLower = c ∨ ∃ n, 65 ≤ n ∧ n ≤ 90 ∧ c = Char.ofNat n := by
  by_cases capital : c.val ≥ 'A'.val ∧ c.val ≤ 'Z'.val
  · refine .inr ⟨c.toNat, ?_, ?_, (Char.ofNat_toNat c).symm⟩
    · exact UInt32.le_iff_toNat_le.1 capital.1
    · exact UInt32.le_iff_toNat_le.1 capital.2
  · exact .inl (dif_neg capital)

/-- What holds of all characters that are no capital letters and of the 26 that are holds of all. -/
theorem forall_of_capitals {P : Char → Prop} (others : ∀ c : Char, c.toLower = c → P c)
    (capitals : ∀ n < 91, 65 ≤ n → P (Char.ofNat n)) (c : Char) : P c := by
  rcases toLower_eq_or c with same | ⟨n, low, high, rfl⟩
  · exact others c same
  · exact capitals n (Nat.lt_succ_of_le high) low

@[simp]
theorem toLower_toLower (c : Char) : c.toLower.toLower = c.toLower :=
  forall_of_capitals (P := fun c => c.toLower.toLower = c.toLower)
    (fun c same => by rw [same, same])
    (by decide) c

/-- No letter becomes a character that is none. -/
theorem eq_of_toLower_eq {c d : Char} (noLetter : d.isAlpha = false)
    (same : c.toLower = d) : c = d := by
  have letters : ∀ n < 91, 65 ≤ n → (Char.ofNat n).toLower.isAlpha = true := by decide
  rcases toLower_eq_or c with fixed | ⟨n, low, high, rfl⟩
  · exact fixed.symm.trans same
  · have letter := letters n (Nat.lt_succ_of_le high) low
    rw [same, noLetter] at letter
    cases letter

@[simp]
theorem toUpper_toLower (c : Char) : c.toLower.toUpper = c.toUpper :=
  forall_of_capitals (P := fun c => c.toLower.toUpper = c.toUpper) (fun c same => by rw [same])
    (by decide) c

/-- Only small letters are changed. -/
theorem toUpper_eq_or (c : Char) :
    c.toUpper = c ∨ ∃ n, 97 ≤ n ∧ n ≤ 122 ∧ c = Char.ofNat n := by
  by_cases small : c.val ≥ 'a'.val ∧ c.val ≤ 'z'.val
  · refine .inr ⟨c.toNat, ?_, ?_, (Char.ofNat_toNat c).symm⟩
    · exact UInt32.le_iff_toNat_le.1 small.1
    · exact UInt32.le_iff_toNat_le.1 small.2
  · exact .inl (dif_neg small)

@[simp]
theorem toUpper_toUpper (c : Char) : c.toUpper.toUpper = c.toUpper := by
  rcases toUpper_eq_or c with same | ⟨n, low, high, rfl⟩
  · rw [same, same]
  · have smalls : ∀ n < 123, 97 ≤ n →
        (Char.ofNat n).toUpper.toUpper = (Char.ofNat n).toUpper := by decide
    exact smalls n (Nat.lt_succ_of_le high) low

@[simp]
theorem isBlank_toLower (c : Char) : isBlank c.toLower = isBlank c :=
  forall_of_capitals (P := fun c => isBlank c.toLower = isBlank c) (fun c same => by rw [same])
    (by decide) c

@[simp]
theorem lower_append (s t : List Char) : lower (s ++ t) = lower s ++ lower t := List.map_append

@[simp]
theorem lower_lower (s : List Char) : lower (lower s) = lower s := by
  simp [lower]

@[simp]
theorem toList_lowerCase (s : String) : (lowerCase s).toList = lower s.toList := by
  simp [lowerCase]

@[simp]
theorem upper_lower (s : List Char) : upper (lower s) = upper s := by
  simp [upper, lower]

@[simp]
theorem upper_upper (s : List Char) : upper (upper s) = upper s := by
  simp [upper]

/-- Texts that agree up to letter case have the same upper case. -/
theorem upperCase_eq_of_lowerCase_eq {s t : String} (same : lowerCase s = lowerCase t) :
    upperCase s = upperCase t := by
  have lowers : lower s.toList = lower t.toList := String.ofList_injective same
  rw [upperCase, upperCase, ← upper_lower, lowers, upper_lower]

@[simp]
theorem upperCase_upperCase (s : String) : upperCase (upperCase s) = upperCase s := by
  simp [upperCase]

/-- Texts agree up to case exactly if they agree in lower case. -/
theorem sameLetters_iff {s t : String} :
    sameLetters s t = true ↔ lower s.toList = lower t.toList := by
  rw [sameLetters, beq_iff_eq]

theorem dropWhile_isBlank_lower (s : List Char) :
    (lower s).dropWhile isBlank = lower (s.dropWhile isBlank) := by
  induction s with
  | nil => rfl
  | cons c s ih =>
    cases blank : isBlank c with
    | true => simpa [lower, blank] using ih
    | false => simp [lower, blank]

/-- Trimming does not depend on the case of letters. -/
theorem trim_lower (s : List Char) : trim (lower s) = lower (trim s) := by
  have reverse (s : List Char) : (lower s).reverse = lower s.reverse := by simp [lower]
  simp only [trim, trimEnd, dropWhileEnd, trimStart, dropWhile_isBlank_lower, reverse]

end TableMapper.Text
