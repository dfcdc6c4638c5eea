import TableMapper.Text.Search

/-!
# Cutting, joining and replacing

What was joined can be cut again: the pieces of a text with the separator between them are the text,
a pattern at the beginning of a text leaves what follows it, and one behind a text that cannot hold
its beginning leaves the text.  Replacing a pair of characters goes through a text character by
character, and looks at the next one only behind the first character of the pair.
-/

namespace TableMapper.Text

/-! ## §1 Pieces and patterns -/

/-- Cutting at a separator is the library's. -/
theorem splitOn_eq (separator : Char) (s : List Char) :
    splitOn separator s = s.splitOn separator := by
  induction s with
  | nil => rfl
  | cons c s ih =>
    rw [List.splitOn_cons_eq_if_modifyHead, splitOn, ih]
    -- A separator opens a new piece, another character joins the first one.
    by_cases same : c = separator
    · simp [same]
    · have some_piece : s.splitOn separator ≠ [] := List.splitOn_ne_nil separator s
      cases pieces : s.splitOn separator with
      | nil => exact absurd pieces some_piece
      | cons piece pieces => simp [same]

/-- The pieces with the separator between them are the text. -/
theorem intercalate_splitOn (separator : Char) (s : List Char) :
    [separator].intercalate (splitOn separator s) = s := by
  rw [splitOn_eq, List.intercalate_splitOn]

@[simp]
theorem after?_append (pattern rest : List Char) : after? pattern (pattern ++ rest) = some rest :=
  after?_eq_some_iff.2 rfl

/-- A pattern is not found where its first character does not stand. -/
theorem after?_of_head?_ne {c : Char} {pattern rest : List Char} (other : rest.head? ≠ some c) :
    after? (c :: pattern) rest = none := by
  cases rest with
  | nil => rfl
  | cons d rest =>
    have differs : c ≠ d := fun same => other (congrArg some same.symm)
    simp [after?, differs]

/-- A pattern does not begin inside a text that lacks its second character and does not end with its
first one. -/
theorem before?_append {a b : Char} {pattern s : List Char} (missing : b ∉ s)
    (last : s.getLast? ≠ some a) (z : List Char) :
    before? (a :: b :: pattern) (s ++ z) = (before? (a :: b :: pattern) z).map (s ++ ·) := by
  induction s with
  | nil => simp
  | cons c s ih =>
    obtain ⟨-, later⟩ := not_or.1 (mt List.mem_cons.2 missing)
    -- Here the pattern would need its second character next, or its first one at the end.
    have nowhere : after? (a :: b :: pattern) (c :: (s ++ z)) = none := by
      cases found : after? (a :: b :: pattern) (c :: (s ++ z)) with
      | none => rfl
      | some rest =>
        have begins := List.cons.inj (after?_eq_some_iff.1 found)
        cases s with
        | nil => exact absurd (congrArg some begins.1) last
        | cons d s => exact absurd (List.mem_cons.2 (.inl (List.cons.inj begins.2).1.symm)) later
    have rest : s.getLast? ≠ some a := by
      cases s with
      | nil => simp
      | cons d s => rwa [List.getLast?_cons_cons] at last
    rw [List.cons_append, before?, nowhere, ih later rest]
    simp [Function.comp_def]

/-- A pattern is not found where its second character is missing. -/
theorem before?_eq_none {a b : Char} {pattern s : List Char} (missing : b ∉ s)
    (last : s.getLast? ≠ some a) :
    before? (a :: b :: pattern) s = none := by
  have behind : before? (a :: b :: pattern) (s ++ []) = _ := before?_append missing last []
  rwa [List.append_nil] at behind

/-- A pattern is found behind such a text. -/
theorem before?_append_pattern {a b : Char} {pattern s : List Char} (missing : b ∉ s)
    (last : s.getLast? ≠ some a)
    (z : List Char) : before? (a :: b :: pattern) (s ++ (a :: b :: pattern ++ z)) = some s := by
  have here : before? (a :: b :: pattern) (a :: b :: pattern ++ z) = some [] := by
    rw [List.cons_append, before?, ← List.cons_append, after?_append]
    rfl
  rw [before?_append missing last, here, Option.map_some, List.append_nil]

/-! ## §2 Pairs -/

section

variable {a b c : Char} {new s : List Char}

@[simp]
theorem replacePair_nil : replacePair a b new [] = [] := rfl

@[simp]
theorem replacePair_pair : replacePair a b new (a :: b :: s) = new ++ replacePair a b new s := by
  rw [replacePair, if_pos ⟨rfl, rfl⟩]

theorem replacePair_cons_of_ne (other : c ≠ a) :
    replacePair a b new (c :: s) = c :: replacePair a b new s := by
  cases s with
  | nil => rfl
  | cons d s => rw [replacePair, if_neg fun pair => other pair.1]

/-- The first character of the pair stays if the second one does not follow. -/
theorem replacePair_cons_of_head?_ne (apart : s.head? ≠ some b) :
    replacePair a b new (c :: s) = c :: replacePair a b new s := by
  cases s with
  | nil => rfl
  | cons d s => rw [replacePair, if_neg fun pair => apart (congrArg some pair.2)]

/-- Nothing is replaced in a text without the first character. -/
theorem replacePair_append_of_not_mem (missing : a ∉ s) (rest : List Char) :
    replacePair a b new (s ++ rest) = s ++ replacePair a b new rest := by
  induction s with
  | nil => rfl
  | cons c s ih =>
    obtain ⟨other, later⟩ := not_or.1 (mt List.mem_cons.2 missing)
    rw [List.cons_append, replacePair_cons_of_ne (Ne.symm other), ih later, List.cons_append]

theorem replacePair_of_not_mem (missing : a ∉ s) : replacePair a b new s = s := by
  have whole : replacePair a b new (s ++ []) = s ++ replacePair a b new [] :=
    replacePair_append_of_not_mem missing []
  simpa using whole

end

end TableMapper.Text
