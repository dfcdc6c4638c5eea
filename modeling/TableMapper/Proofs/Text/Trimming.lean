import TableMapper.Text.Blank

/-!
# Texts without blanks at their ends

Trimming leaves a text alone that neither begins nor ends with a blank, and takes away the blanks
around it.
-/

namespace TableMapper.Text

theorem trimStart_of_head {c : Char} {s : List Char} (notBlank : isBlank c = false) :
    trimStart (c :: s) = c :: s := by
  rw [trimStart, List.dropWhile_cons_of_neg (by simp [notBlank])]

/-- What is dropped stands behind the last character that stays. -/
theorem dropWhileEnd_append {p : Char → Bool} {s : List Char} {c : Char} (stop : p c = false)
    (t : List Char) :
    dropWhileEnd p (s ++ c :: t) = s ++ c :: dropWhileEnd p t := by
  have reversed : (s ++ c :: t).reverse = t.reverse ++ c :: s.reverse := by simp
  have kept : (c :: s.reverse).dropWhile p = c :: s.reverse :=
    List.dropWhile_cons_of_neg (by simp [stop])
  rw [dropWhileEnd, reversed, List.dropWhile_append, kept, dropWhileEnd]
  split
  case isTrue empty => simp [List.isEmpty_iff.1 empty]
  case isFalse => simp

theorem dropWhileEnd_of_all {p : Char → Bool} {s : List Char} (all : ∀ c ∈ s, p c = true) :
    dropWhileEnd p s = [] := by
  rw [dropWhileEnd, ← List.append_nil s.reverse, List.dropWhile_append_of_pos (by simpa using all)]
  rfl

theorem dropWhileEnd_of_last {p : Char → Bool} {s : List Char} {c : Char} (stop : p c = false) :
    dropWhileEnd p (s ++ [c]) = s ++ [c] := dropWhileEnd_append stop []

/-- A text without blanks at its ends is left as it is. -/
theorem trim_of_ends {s : List Char} (first : ∀ c ∈ s.head?, isBlank c = false)
    (last : ∀ c ∈ s.getLast?, isBlank c = false) : trim s = s := by
  have start : trimStart s = s := by
    cases s with
    | nil => rfl
    | cons c s => exact trimStart_of_head (first c rfl)
  rw [trim, start]
  -- From the back, as the last character stops the trimming.
  rcases List.eq_nil_or_concat s with rfl | ⟨init, d, rfl⟩
  · rfl
  · rw [List.concat_eq_append] at last ⊢
    exact dropWhileEnd_of_last (last d (by simp))

theorem trim_of_all {s : List Char} (notBlank : ∀ c ∈ s, isBlank c = false) : trim s = s :=
  trim_of_ends (fun c h => notBlank c (List.mem_of_head? h)) fun c h =>
    notBlank c (List.mem_of_getLast? h)

end TableMapper.Text
