import TableMapper.Proofs.Text.Cutting
import TableMapper.Proofs.Text.Trimming

/-!
# Words and pieces

The words of a text are the pieces between its blanks, empty ones left out (`words_eq`), so a blank
parts the words before it from those behind it (`words_append_cons`).  Blanks around a text do not
count, and trimming changes nothing.
-/

namespace TableMapper.Text

/-! ## §1 Pieces -/

/-- No piece holds a character that the text is cut at. -/
theorem kept_of_mem_splitOnP {p : Char → Bool} {s piece : List Char} (h : piece ∈ s.splitOnP p) :
    ∀ c ∈ piece, c ∈ s ∧ p c = false := by
  induction s generalizing piece with
  | nil =>
    rw [List.splitOnP_nil, List.mem_singleton] at h
    simp [h]
  | cons d s ih =>
    have later {piece : List Char} (h : piece ∈ s.splitOnP p) : ∀ c ∈ piece,
        c ∈ d :: s ∧ p c = false :=
      fun c listed => ⟨List.mem_cons_of_mem _ (ih h c listed).1, (ih h c listed).2⟩
    rw [List.splitOnP_cons_eq_if_modifyHead] at h
    split at h
    case isTrue cut =>
      rcases List.mem_cons.1 h with rfl | h
      · simp
      · exact later h
    case isFalse stays =>
      -- The first character goes to the first piece of the others.
      obtain ⟨first, others, pieces⟩ := List.exists_cons_of_ne_nil (List.splitOnP_ne_nil p s)
      rw [pieces, List.modifyHead_cons] at h
      rcases List.mem_cons.1 h with rfl | h
      · intro c listed
        rcases List.mem_cons.1 listed with rfl | listed
        · exact ⟨List.mem_cons_self .., by simpa using stays⟩
        · exact later (pieces ▸ List.mem_cons_self ..) c listed
      · exact later (pieces ▸ List.mem_cons_of_mem _ h)

theorem not_mem_of_mem_splitOn {separator : Char} {s piece : List Char}
    (h : piece ∈ splitOn separator s) :
    separator ∉ piece := by
  rw [splitOn_eq, List.splitOn_eq_splitOnP] at h
  intro listed
  simpa using (kept_of_mem_splitOnP h separator listed).2

/-! ## §2 Words -/

theorem words_nil : words [] = [] := rfl

/-- The words of a text are its pieces between blanks that are not empty. -/
theorem words_eq (s : List Char) : words s = (s.splitOnP isBlank).filter (!·.isEmpty) := by
  -- The word that has begun goes before the first piece of the rest.
  have scan (s word : List Char) :
      wordsFrom word s = ((s.splitOnP isBlank).modifyHead (word.reverse ++ ·)).filter
        (!·.isEmpty) := by
    induction s generalizing word with
    | nil => cases word <;> simp [wordsFrom]
    | cons c s ih =>
      obtain ⟨first, others, pieces⟩ := List.exists_cons_of_ne_nil (List.splitOnP_ne_nil isBlank s)
      rw [wordsFrom, List.splitOnP_cons_eq_if_modifyHead]
      simp only [ih, pieces]
      split
      case isTrue => cases word <;> simp
      case isFalse => simp
  obtain ⟨first, others, pieces⟩ := List.exists_cons_of_ne_nil (List.splitOnP_ne_nil isBlank s)
  rw [words, scan, pieces]
  simp

/-- **A blank parts words.** -/
theorem words_append_cons {c : Char} (blank : isBlank c = true) (s t : List Char) :
    words (s ++ c :: t) = words s ++ words t := by
  simp only [words_eq, List.splitOnP_append_cons s t blank, List.filter_append]

/-- Whether a text consists of blanks, perhaps of none at all. -/
def Blanks (s : List Char) : Prop := ∀ c ∈ s, isBlank c = true

instance (s : List Char) : Decidable (Blanks s) := List.decidableBAll _ s

theorem blanks_nil : Blanks [] := nofun

/-- Blanks between two texts separate their words. -/
theorem words_append_blanks {b : List Char} (blanks : Blanks b) (some_blank : b ≠ [])
    (s t : List Char) :
    words (s ++ b ++ t) = words s ++ words t := by
  induction b generalizing s with
  | nil => exact absurd rfl some_blank
  | cons c b ih =>
    obtain ⟨blank, others⟩ := List.forall_mem_cons.1 blanks
    cases b with
    | nil => simpa using words_append_cons blank s t
    | cons d b =>
      -- The first blank may as well be the last character of the text before.
      have rest := ih others nofun (s ++ [c])
      have first : words (s ++ [c]) = words s :=
        (words_append_cons blank s []).trans (List.append_nil _)
      rw [first] at rest
      simpa using rest

theorem words_of_blanks {b : List Char} (blanks : Blanks b) : words b = [] := by
  cases b with
  | nil => rfl
  | cons c b => simpa [words_nil] using words_append_blanks blanks nofun [] []

/-- Blanks around a text do not count. -/
theorem words_surrounded {before after : List Char} (blanks : Blanks before)
    (blanks' : Blanks after) (s : List Char) : words (before ++ s ++ after) = words s := by
  have inner : words (before ++ s) = words s := by
    cases before with
    | nil => rfl
    | cons c before => simpa [words_nil] using words_append_blanks blanks nofun [] s
  cases after with
  | nil => rw [List.append_nil, inner]
  | cons c after => simpa [words_nil, inner]
    using words_append_blanks blanks' nofun (before ++ s) []

/-- A text without blanks is one word. -/
theorem words_of_notBlank {w : List Char} (nonempty : w ≠ [])
    (notBlank : ∀ c ∈ w, isBlank c = false) :
    words w = [w] := by
  rw [words_eq, List.splitOnP_eq_singleton notBlank]
  simp [nonempty]

/-- A word has characters, and they are characters of the text that are not blank. -/
theorem spec_of_mem_words {s w : List Char} (h : w ∈ words s) :
    w ≠ [] ∧ ∀ c ∈ w, c ∈ s ∧ isBlank c = false := by
  rw [words_eq] at h
  obtain ⟨piece, nonempty⟩ := List.mem_filter.1 h
  exact ⟨by simpa using nonempty, kept_of_mem_splitOnP piece⟩

/-! ## §3 Trimming -/

theorem blanks_takeWhile (s : List Char) : Blanks (s.takeWhile isBlank) :=
  List.all_eq_true.1 List.all_takeWhile

/-- A text is its trimmed form with blanks around it. -/
theorem exists_eq_trim (s : List Char) :
    ∃ before after, Blanks before ∧ Blanks after ∧ s = before ++ trim s ++ after := by
  refine ⟨s.takeWhile isBlank, ((trimStart s).reverse.takeWhile isBlank).reverse,
    blanks_takeWhile s, ?_, ?_⟩
  · exact fun c h => blanks_takeWhile _ c (List.mem_reverse.1 h)
  · rw [List.append_assoc, trim, trimEnd, dropWhileEnd, ← List.reverse_append,
      List.takeWhile_append_dropWhile, List.reverse_reverse, trimStart,
      List.takeWhile_append_dropWhile]

@[simp]
theorem words_trim (s : List Char) : words (trim s) = words s := by
  obtain ⟨before, after, blanks, blanks', split⟩ := exists_eq_trim s
  have same := words_surrounded blanks blanks' (trim s)
  rw [← split] at same
  exact same.symm

theorem wordsFrom_ne_nil {word : List Char} (begun : word ≠ []) (s : List Char) :
    wordsFrom word s ≠ [] := by
  induction s generalizing word with
  | nil => simp [wordsFrom, begun]
  | cons c s ih =>
    rw [wordsFrom]
    split
    · simp [begun]
    · exact ih (List.cons_ne_nil c word)

/-- Trimming leaves nothing exactly if there is no word. -/
theorem trim_eq_nil_iff {s : List Char} : trim s = [] ↔ words s = [] := by
  constructor
  · intro empty
    rw [← words_trim, empty, words_nil]
  · intro none
    have blanks := words_surrounded (blanks_takeWhile s) blanks_nil (s.dropWhile isBlank)
    rw [List.append_nil, List.takeWhile_append_dropWhile, none] at blanks
    cases rest : s.dropWhile isBlank with
    | nil =>
      rw [trim, trimStart, rest]
      rfl
    | cons c t =>
      -- What does not begin with a blank begins with a word.
      have first : isBlank c = false := by
        simpa [rest]
          using List.head_dropWhile_not isBlank (by simp [rest] : s.dropWhile isBlank ≠ [])
      rw [rest, words, wordsFrom, first, if_neg Bool.false_ne_true] at blanks
      exact absurd blanks.symm (wordsFrom_ne_nil (List.cons_ne_nil c []) t)

end TableMapper.Text
