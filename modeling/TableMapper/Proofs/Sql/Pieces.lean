import Mathlib.Data.List.Forall2
import TableMapper.Proofs.Sql.Lexeme
import TableMapper.Sql.ColumnType

/-!
# Texts made of pieces

A text as a list of pieces: the keywords, signs and numbers that the writer puts, and the texts that
were supplied to it.  Supplied texts are written as names, as string literals, or as they are.

- `Spells s ps`: the scanner cuts `s` into the lexemes of the pieces `ps`, one for each, if the
  texts that are written as they are are bare words.  It is kept by every way in which texts are put
  together.
- `Spells.lexemes_iff`: if one of these texts is no bare word, the scanner finds other lexemes.
-/

namespace TableMapper.Sql

open Numeral (isDigit)

/-! ## §1 Pieces -/

/-- A piece of a text. -/
inductive Piece where
  /-- A lexeme of the writer's own. -/
  | own (l : Lexeme)
  /-- A supplied text, written as a name. -/
  | name (s : String)
  /-- A supplied text, written as a string literal. -/
  | text (s : String)
  /-- A supplied text, written as it is. -/
  | bare (s : String)
  deriving DecidableEq, Repr

namespace Piece

/-- The one lexeme that a piece should be. -/
def lexeme : Piece → Lexeme
  | .own l => l
  | .name s => .name (Path.ofName s)
  | .text s => .string s
  | .bare s => .word s

/-- A piece without what was supplied. -/
def form : Piece → Piece
  | .own l => .own l
  | .name _ => .name ""
  | .text _ => .text ""
  | .bare _ => .bare ""

/-- Whether the text of a piece may be written in its way. -/
def Fits : Piece → Prop
  | .bare s => IsBareWord s
  | _ => True

@[simp]
theorem fits_own (l : Lexeme) : (own l).Fits := trivial

@[simp]
theorem fits_name (s : String) : (name s).Fits := trivial

@[simp]
theorem fits_text (s : String) : (text s).Fits := trivial

@[simp]
theorem fits_bare (s : String) : (bare s).Fits ↔ IsBareWord s := Iff.rfl

/-- Whether all texts that are written as they are are bare words. -/
def AllFit (ps : List Piece) : Prop := ∀ p ∈ ps, p.Fits

@[simp]
theorem allFit_nil : AllFit [] := List.forall_mem_nil _

@[simp]
theorem allFit_cons (p : Piece) (ps : List Piece) : AllFit (p :: ps) ↔ p.Fits ∧ AllFit ps :=
  List.forall_mem_cons

@[simp]
theorem allFit_append (ps qs : List Piece) : AllFit (ps ++ qs) ↔ AllFit ps ∧ AllFit qs :=
  List.forall_mem_append

def number (n : Nat) : Piece := .own (.number (String.ofList (Decimal.natChars n)))

def sign (c : Char) : Piece := .own (.sign c)

def words (ws : List String) : List Piece := ws.map fun w => .own (.word w)

/-- Lists of pieces with commas between them. -/
def commas (items : List (List Piece)) : List Piece := [sign ','].intercalate items

def parenthesised (items : List (List Piece)) : List Piece := sign '(' :: commas items ++ [sign ')']

@[simp]
theorem commas_nil : commas [] = [] := rfl

@[simp]
theorem commas_singleton (item : List Piece) : commas [item] = item := by
  simp [commas]

@[simp]
theorem commas_cons_cons (item item' : List Piece) (items : List (List Piece)) :
    commas (item :: item' :: items) = item ++ sign ',' :: commas (item' :: items) := by
  simp [commas, List.intercalate_cons_cons]

@[simp]
theorem allFit_words (ws : List String) : AllFit (words ws) := by
  intro p listed
  obtain ⟨w, -, rfl⟩ := List.mem_map.1 listed
  exact fits_own _

/-- A list fits if its members do. -/
theorem allFit_commas {items : List (List Piece)} :
    AllFit (commas items) ↔ ∀ ps ∈ items, AllFit ps := by
  induction items with
  | nil => simp
  | cons ps items ih =>
    cases items with
    | nil => simp
    | cons ps' items =>
      rw [commas_cons_cons, allFit_append, allFit_cons, ih, List.forall_mem_cons]
      simp [sign]

@[simp]
theorem allFit_parenthesised (items : List (List Piece)) :
    AllFit (parenthesised items) ↔ ∀ ps ∈ items, AllFit ps := by
  simp [parenthesised, sign, allFit_commas]

end Piece

open Piece (sign words commas)

/-! ## §2 What may follow a lexeme -/

/-- Whether a text may follow a name, a literal or a word without becoming part of it. -/
def Ends (rest : List Char) : Prop := ∀ c ∈ rest.head?, c ∈ [' ', '\n', ',', '(', ')']

@[simp]
theorem ends_nil : Ends [] := by
  simp [Ends]

@[simp]
theorem ends_cons (c : Char) (rest : List Char) :
    Ends (c :: rest) ↔ c ∈ [' ', '\n', ',', '(', ')'] := by
  simp [Ends]

theorem Ends.append {s rest : List Char} (first : Ends s) (second : Ends rest) :
    Ends (s ++ rest) := by
  cases s with
  | nil => exact second
  | cons c s => exact (ends_cons c _).2 ((ends_cons c _).1 first)

theorem Ends.ite {c : Prop} [Decidable c] {s t : List Char} (yes : Ends s) (no : Ends t) :
    Ends (if c then s else t) := by
  split
  · exact yes
  · exact no

/-- What may follow a lexeme does not begin with a character of a class that has none of these. -/
theorem Ends.not_mem {rest : List Char} (ends : Ends rest) {p : Char → Bool}
    (other : [' ', '\n', ',', '(', ')'].all fun c => !p c) : ∀ c ∈ rest.head?, p c = false := by
  intro c first
  simpa using List.all_eq_true.1 other c (ends c first)

theorem Ends.head?_ne {rest : List Char} (ends : Ends rest) {c : Char}
    (other : c ∉ [' ', '\n', ',', '(', ')']) : rest.head? ≠ some c :=
  fun first => other (ends c first)

/-! ## §3 Texts cut into pieces -/

/-- The text `s` is cut into the lexemes of the pieces `ps`, whatever may follow. -/
def Spells (s : List Char) (ps : List Piece) : Prop :=
  Piece.AllFit ps → ∀ rest, Ends rest →
    lexemes (s ++ rest) = (lexemes rest).map (ps.map Piece.lexeme ++ ·)

variable {s t : List Char} {ps qs : List Piece}

/-- **The scanner finds one lexeme for each piece exactly if the texts that are written as they are
are bare words.** -/
theorem Spells.lexemes_iff (spells : Spells s ps) :
    lexemes s = some (ps.map Piece.lexeme) ↔ Piece.AllFit ps := by
  constructor
  · -- Whatever the scanner reports as a word is one.
    intro scanned p listed
    cases p with
    | bare w => exact isBareWord_of_mem_lexemes scanned (List.mem_map.2 ⟨.bare w, listed, rfl⟩)
    | _ => trivial
  · intro fits
    simpa using spells fits [] ends_nil

theorem spells_nil : Spells [] [] := by
  intro _ rest _
  simp

/-- Two texts spell the pieces of both, if the second cannot run into the first. -/
theorem Spells.append (first : Spells s ps) (second : Spells t qs) (ends : Ends t) :
    Spells (s ++ t) (ps ++ qs) := by
  intro fits rest last
  obtain ⟨fits₁, fits₂⟩ := (Piece.allFit_append ps qs).1 fits
  rw [List.append_assoc, first fits₁ _ (ends.append last), second fits₂ rest last]
  simp [Function.comp_def]

/-- Either text of a choice spells its own pieces. -/
theorem Spells.ite {c : Prop} [Decidable c] (yes : Spells s ps) (no : Spells t qs) :
    Spells (if c then s else t) (if c then ps else qs) := by
  split
  · exact yes
  · exact no

theorem Spells.gap {c : Char} (gap : isGap c = true) (spells : Spells t qs) :
    Spells (c :: t) qs := by
  intro fits rest last
  rw [List.cons_append, lexemes_gap gap, spells fits rest last]

theorem Spells.space (spells : Spells t qs) : Spells (' ' :: t) qs := spells.gap (by decide)

theorem Spells.gaps {gaps : List Char} (all : gaps.all isGap = true) (spells : Spells t qs) :
    Spells (gaps ++ t) qs := by
  induction gaps with
  | nil => exact spells
  | cons c gaps ih =>
    obtain ⟨first, others⟩ := Bool.and_eq_true_iff.1 ((List.all_cons ..).symm.trans all)
    exact (ih others).gap first

/-- A parenthesis or a comma ends by itself. -/
theorem Spells.sign {c : Char} (mark : c ∈ ['(', ')', ',']) (spells : Spells t qs) :
    Spells (c :: t) (sign c :: qs) := by
  intro fits rest last
  have read : readLexeme? (c :: (t ++ rest)) = some (some (.sign c), t ++ rest) := by
    simp only [List.mem_cons, List.not_mem_nil, or_false] at mark
    rcases mark with rfl | rfl | rfl <;> rfl
  rw [List.cons_append, lexemes_of_readLexeme? read,
    spells (fun p h => fits p (List.mem_cons_of_mem _ h)) rest last]
  simp [Function.comp_def, Piece.sign, Piece.lexeme]

/-- A text that is read as one lexeme spells one piece. -/
theorem spells_of_readLexeme? {p : Piece}
    (read : p.Fits → ∀ rest, Ends rest → readLexeme? (s ++ rest) = some (some p.lexeme, rest)) :
    Spells s [p] := by
  intro fits rest last
  rw [lexemes_of_readLexeme? (read (fits p (List.mem_singleton_self p)) rest last)]
  rfl

/-- A quoted name is one piece. -/
theorem spells_name (s : String) : Spells (identifierChars s.toList) [.name s] := by
  apply spells_of_readLexeme?
  intro _ rest last
  -- Neither a second backtick nor a dot follows, so the name ends here.
  have read := readPath?_identifierChars s.toList (last.head?_ne (c := '\x60') (by decide))
    (last.head?_ne (c := '.') (by decide))
  show (readPath? (identifierChars s.toList ++ rest)).map _ = _
  rw [read]
  rfl

/-- A string literal is one piece. -/
theorem spells_text (s : String) : Spells (stringChars s.toList) [.text s] := by
  apply spells_of_readLexeme?
  intro _ rest last
  have read := readString?_stringChars s.toList (last.head?_ne (c := '\'') (by decide))
  show (readString? (stringChars s.toList ++ rest)).map _ = _
  rw [read]
  simp [Piece.lexeme]

/-- No word character begins any other lexeme. -/
theorem readLexeme?_of_isWordChar {c : Char} (letter : isWordChar c = true) (s : List Char) :
    readLexeme? (c :: s) =
      some (some (runLexeme (c :: s.takeWhile isWordChar)), s.dropWhile isWordChar) := by
  -- The scanner tries the signs first, one by one, and the runs of word characters last.
  have noOther : ∀ d : Char, isWordChar d = false → c ≠ d := by
    rintro d other rfl
    exact absurd letter (by simp [other])
  simp (disch := decide) [readLexeme?, isGap, noOther, letter]

/-- A run of word characters is read as a whole. -/
theorem readLexeme?_run {run rest : List Char} (nonempty : run ≠ [])
    (letters : ∀ c ∈ run, isWordChar c = true) (last : Ends rest) :
    readLexeme? (run ++ rest) = some (some (runLexeme run), rest) := by
  obtain ⟨c, s, rfl⟩ := List.exists_cons_of_ne_nil nonempty
  have others : ∀ d ∈ s, isWordChar d = true := fun d h => letters d (List.mem_cons_of_mem _ h)
  have stops := last.not_mem (p := isWordChar) (by decide)
  rw [List.cons_append, readLexeme?_of_isWordChar (letters c (List.mem_cons_self ..)),
    Text.takeWhile_append_stop others stops, Text.dropWhile_append_stop others stops]

theorem readLexeme?_word {w : String} (word : IsBareWord w) {rest : List Char} (last : Ends rest) :
    readLexeme? (w.toList ++ rest) = some (some (.word w), rest) := by
  obtain ⟨nonempty, letters, noNumeral⟩ := word
  rw [readLexeme?_run nonempty (List.all_eq_true.1 letters) last]
  simp [runLexeme, noNumeral]

/-- A word stands for itself, if it is a bare one. -/
theorem spells_bare (w : String) : Spells w.toList [.bare w] :=
  spells_of_readLexeme? fun word _ last => readLexeme?_word word last

theorem spells_word (w : String) (word : IsBareWord w := by decide) : Spells w.toList (words [w]) :=
  spells_of_readLexeme? fun _ _ last => readLexeme?_word word last

/-- Words with single spaces between them. -/
theorem spells_words (ws : List String) (all : ∀ w ∈ ws, IsBareWord w := by decide) :
    Spells (joined " " (ws.map String.toList)) (words ws) := by
  induction ws with
  | nil => exact spells_nil
  | cons w ws ih =>
    obtain ⟨first, others⟩ := List.forall_mem_cons.1 all
    cases ws with
    | nil => simpa using spells_word w first
    | cons w' ws => simpa [words] using (spells_word w first).append (ih others).space (by simp)

theorem Spells.keywords (keyword : String) (ws : List String) (all : ∀ w ∈ ws, IsBareWord w)
    (text : keyword.toList = joined " " (ws.map String.toList) ++ [' ']) (spells : Spells t qs) :
    Spells (keyword.toList ++ t) (words ws ++ qs) := by
  rw [text, List.append_assoc]
  exact (spells_words ws all).append spells.space (by simp)

theorem spells_number (n : Nat) : Spells (Decimal.natChars n) [.number n] := by
  apply spells_of_readLexeme?
  intro _ rest last
  have digits : ∀ c ∈ Decimal.natChars n, isDigit c = true :=
    fun c => Decimal.isDigit_of_mem_natChars
  have numeral : isNumeral (Decimal.natChars n) = true := by
    simp [isNumeral, List.all_eq_true.2 digits]
  rw [readLexeme?_run (Decimal.natChars_ne_nil n)
    (fun c h => by simp [isWordChar, digits c h]) last]
  simp [runLexeme, numeral, Piece.lexeme, Piece.number]

/-! ## §4 Lists -/

/-- Texts with a comma and blanks between them. -/
theorem spells_intercalate {gaps : List Char} (all : gaps.all isGap = true)
    {parts : List (List Char)} {pieces : List (List Piece)}
    (each : List.Forall₂ Spells parts pieces) :
    Spells ((',' :: gaps).intercalate parts) (commas pieces) := by
  -- By induction on the members: each but the last ends at the comma behind it.
  induction each with
  | nil => exact spells_nil
  | @cons s ps parts pieces first others ih =>
    cases others with
    | nil => simpa using first
    | cons _ _ =>
      have both := first.append ((ih.gaps all).sign (c := ',') (by decide)) (by simp)
      simpa [List.intercalate_cons_cons] using both

/-- What holds of each item holds of a list of them. -/
theorem forall₂_spells {α : Type} {chars : α → List Char} {pieces : α → List Piece}
    (each : ∀ a, Spells (chars a) (pieces a)) (items : List α) :
    List.Forall₂ Spells (items.map chars) (items.map pieces) := by
  simpa [List.forall₂_map_left_iff, List.forall₂_map_right_iff, List.forall₂_same]
    using fun a _ => each a

/-- A list in parentheses, with commas and blanks between its members. -/
theorem spells_parenthesised {gaps : List Char} (all : gaps.all isGap = true)
    {parts : List (List Char)} {pieces : List (List Piece)}
    (each : List.Forall₂ Spells parts pieces) :
    Spells ('(' :: (',' :: gaps).intercalate parts ++ [')']) (Piece.parenthesised pieces) := by
  have closed :=
    (spells_intercalate all each).append (spells_nil.sign (c := ')') (by decide)) (by simp)
  exact closed.sign (c := '(') (by decide)

end TableMapper.Sql
