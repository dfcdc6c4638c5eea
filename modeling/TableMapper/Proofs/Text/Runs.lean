/-!
# Runs of characters

A reader that takes characters of a class stops exactly where a run of them was written, if the next
character is not of the class.
-/

namespace TableMapper.Text

variable {p : Char → Bool} {s rest : List Char}

/-- A run is taken up to where it stops. -/
theorem takeWhile_append_stop (run : ∀ c ∈ s, p c = true) (stop : ∀ c ∈ rest.head?, p c = false) :
    (s ++ rest).takeWhile p = s := by
  rw [List.takeWhile_append_of_pos run]
  cases rest with
  | nil => simp
  | cons c rest => simp [stop c rfl]

/-- What is left begins where the run stops. -/
theorem dropWhile_append_stop (run : ∀ c ∈ s, p c = true) (stop : ∀ c ∈ rest.head?, p c = false) :
    (s ++ rest).dropWhile p = rest := by
  rw [List.dropWhile_append_of_pos run]
  cases rest with
  | nil => rfl
  | cons c rest => simp [stop c rfl]

end TableMapper.Text
