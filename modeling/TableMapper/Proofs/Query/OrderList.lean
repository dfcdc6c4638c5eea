import TableMapper.Proofs.TryMap
import TableMapper.Proofs.Text.Cutting
import TableMapper.Proofs.Text.Letters
import TableMapper.Proofs.Text.Words
import TableMapper.Query.Order

/-!
# Order lists are printed and read back

A list of order terms is laid out with commas between its terms (`OrderTerm.LaidOut`): blanks go
around terms and between a column and its direction, the direction is in any letter case, and terms
that are blank do not count.

`OrderTerm.readList_printed` says that such a text is read as its terms, that terms which have been
read are printed as such a text, and which texts are refused.
-/

namespace TableMapper

open Text (Blanks words splitOn trim sameLetters sameLetters_iff)

/-! ## §1 Directions -/

/-- A direction is read from its keyword in any letter case, and from nothing else. -/
theorem readDirection_eq_ok_iff {word : String} {direction : Sql.Direction} :
    readDirection word = .ok direction ↔ sameLetters word direction.keyword := by
  have asc : sameLetters word "ASC" ↔ sameLetters word "asc" := by
    rw [sameLetters_iff, sameLetters_iff,
      show Text.lower "ASC".toList = Text.lower "asc".toList by decide]
  have desc : sameLetters word "DESC" ↔ sameLetters word "desc" := by
    rw [sameLetters_iff, sameLetters_iff,
      show Text.lower "DESC".toList = Text.lower "desc".toList by decide]
  -- No word is both.
  have apart : sameLetters word "asc" → ¬ sameLetters word "desc" := by
    intro first second
    exact absurd ((sameLetters_iff.1 first).symm.trans (sameLetters_iff.1 second)) (by decide)
  rw [readDirection]
  cases direction with
  | ascending =>
    rw [Sql.Direction.keyword, asc]
    split
    case isTrue first => simp [first]
    case isFalse notFirst => split <;> simp [notFirst]
  | descending =>
    rw [Sql.Direction.keyword, desc]
    split
    case isTrue first => simp [apart first]
    case isFalse => split <;> simp [*]

/-- A direction's keyword is a word without commas, in any letter case. -/
theorem plain_of_sameLetters {word : String} {direction : Sql.Direction}
    (same : sameLetters word direction.keyword) :
    word.toList ≠ [] ∧ ∀ c ∈ word.toList, Text.isBlank c = false ∧ c ≠ ',' := by
  -- The letters of a keyword, and lowering makes no blank and no comma.
  have lowers := sameLetters_iff.1 same
  have some_char : Text.lower direction.keyword.toList ≠ [] := by cases direction <;> decide
  have letters : (Text.lower direction.keyword.toList).all (fun c => !Text.isBlank c && c != ',') =
      true := by
    cases direction <;> decide
  rw [← lowers] at some_char letters
  refine ⟨fun empty => some_char (by rw [empty]; rfl), fun c listed => ?_⟩
  obtain ⟨notBlank, noComma⟩ : Text.isBlank c.toLower = false ∧ c.toLower ≠ ',' := by
    simpa using List.all_eq_true.1 letters c.toLower (List.mem_map_of_mem listed)
  refine ⟨by rwa [Text.isBlank_toLower] at notBlank, ?_⟩
  rintro rfl
  exact noComma rfl

namespace Sql.OrderTerm

/-! ## §2 One term -/

/-- The words of a term: the column, and the direction in any letter case if there is one. -/
inductive HasWords : OrderTerm → List (List Char) → Prop where
  | bare (column : List Char) : HasWords ⟨String.ofList column, none⟩ [column]
  | directed (column : List Char) {word : List Char} {direction : Direction}
      (same : sameLetters (String.ofList word) direction.keyword) :
      HasWords ⟨String.ofList column, some direction⟩ [column, word]

/-- A term is read exactly from its words. -/
theorem read_eq_ok_iff {s : String} {term : OrderTerm} :
    read s = .ok term ↔ term.HasWords (words s.toList) := by
  rw [read]
  constructor
  · intro done
    -- No word, the column alone, or a word behind it that must be its direction and the last.
    split at done
    case h_1 => cases done
    case h_2 column found =>
      obtain rfl := Except.ok.inj done
      rw [found]
      exact .bare column
    case h_3 column word rest found =>
      cases direction : readDirection (String.ofList word) with
      | error e =>
        rw [direction] at done
        cases done
      | ok d =>
        rw [direction] at done
        cases rest with
        | nil =>
          obtain rfl := Except.ok.inj done
          rw [found]
          exact .directed column (readDirection_eq_ok_iff.1 direction)
        | cons extra rest => cases done
  · intro has
    generalize words s.toList = found at has
    cases has with
    | bare column => rfl
    | directed column same => simp only [readDirection_eq_ok_iff.2 same]

/-- Words too many for a term, or with a second one that is no direction. -/
def Malformed (found : List (List Char)) : Prop :=
  3 ≤ found.length ∨
    ∃ word, found[1]? = some word ∧
      ∀ direction : Direction, ¬ sameLetters (String.ofList word) direction.keyword

/-- Words are malformed exactly if no term has them. -/
theorem malformed_iff {found : List (List Char)} (some_word : found ≠ []) :
    Malformed found ↔ ¬ ∃ term : OrderTerm, term.HasWords found := by
  match found with
  | [column] =>
    have good : ∃ term : OrderTerm, term.HasWords [column] := ⟨_, .bare column⟩
    simp [Malformed, good]
  | [column, word] =>
    -- Only the second word can be at fault.
    have second : (∃ term : OrderTerm, term.HasWords [column, word]) ↔
        ∃ direction : Direction, sameLetters (String.ofList word) direction.keyword := by
      constructor
      · rintro ⟨_, has⟩
        cases has with
        | directed _ same => exact ⟨_, same⟩
      · rintro ⟨_, same⟩
        exact ⟨_, .directed column same⟩
    rw [second]
    simp [Malformed]
  | column :: word :: extra :: rest =>
    have none : ¬ ∃ term : OrderTerm, term.HasWords (column :: word :: extra :: rest) := by
      rintro ⟨_, has⟩
      cases has
    simp [Malformed, none]

theorem invalidFilter_of_read {s : String} {e : Error} (failed : read s = .error e) :
    ∃ fault, e = .invalidFilter fault := by
  rw [read] at failed
  split at failed
  case h_1 => exact ⟨_, (Except.error.inj failed).symm⟩
  case h_2 => cases failed
  case h_3 column word rest _ =>
    -- The second word is no direction, or a third one follows.
    cases direction : readDirection (String.ofList word) with
    | error e' =>
      rw [direction] at failed
      obtain rfl := Except.error.inj failed
      rw [readDirection] at direction
      split at direction
      · cases direction
      · split at direction
        · cases direction
        · exact ⟨_, (Except.error.inj direction).symm⟩
    | ok d =>
      rw [direction] at failed
      cases rest with
      | nil => cases failed
      | cons extra rest => exact ⟨_, (Except.error.inj failed).symm⟩

/-! ## §3 Lists of terms -/

/-- The pieces between commas that have words. -/
def termPieces (s : List Char) : List (List Char) :=
  (splitOn ',' s).filter fun piece => !(words piece).isEmpty

/-- A list is read piece by piece, blank pieces left out. -/
theorem readList_eq (s : String) :
    readList s = tryMap (fun piece => read (String.ofList (trim piece))) (termPieces s.toList) := by
  have blank (piece : List Char) : (trim piece).isEmpty = (words piece).isEmpty := by
    rw [Bool.eq_iff_iff, List.isEmpty_iff, List.isEmpty_iff, Text.trim_eq_nil_iff]
  have pieces : ((splitOn ',' s.toList).map trim).filter (!·.isEmpty) =
      (termPieces s.toList).map trim := by
    simp only [termPieces, List.filter_map, Function.comp_def, blank]
  rw [readList]
  simp only [pieces, tryMap_map]

/-- A list gives terms exactly if its pieces have their words. -/
theorem readList_eq_ok_iff {s : String} {terms : List OrderTerm} :
    readList s = .ok terms ↔
      List.Forall₂ (fun piece term => HasWords term (words piece)) (termPieces s.toList) terms := by
  rw [readList_eq, tryMap_eq_ok_iff_forall₂]
  simp only [read_eq_ok_iff, String.toList_ofList, Text.words_trim]

/-- A list is refused exactly if the words of one of its terms are. -/
theorem readList_eq_error_iff {s : String} :
    (∃ fault, readList s = .error (.invalidFilter fault)) ↔
      ∃ piece ∈ splitOn ',' s.toList, words piece ≠ [] ∧ Malformed (words piece) := by
  have counts {piece : List Char} : piece ∈ termPieces s.toList ↔
      piece ∈ splitOn ',' s.toList ∧ words piece ≠ [] := by
    simp [termPieces]
  have read_iff (piece : List Char) {term : OrderTerm} :
      read (String.ofList (trim piece)) = .ok term ↔ term.HasWords (words piece) := by
    rw [read_eq_ok_iff, String.toList_ofList, Text.words_trim]
  rw [readList_eq]
  constructor
  · rintro ⟨fault, failed⟩
    obtain ⟨piece, listed, failed⟩ := exists_mem_of_tryMap_eq_error failed
    obtain ⟨listed, some_word⟩ := counts.1 listed
    refine ⟨piece, listed, some_word, (malformed_iff some_word).2 ?_⟩
    rintro ⟨term, has⟩
    cases failed.symm.trans ((read_iff piece).2 has)
  · rintro ⟨piece, listed, some_word, malformed⟩
    cases result : tryMap (fun piece => read (String.ofList (trim piece))) (termPieces s.toList)
      with
    | ok terms =>
      -- Every term would have been read, this one, too.
      obtain ⟨term, done⟩ :=
        exists_tryMap_eq_ok_iff.1 ⟨terms, result⟩ piece (counts.2 ⟨listed, some_word⟩)
      exact absurd ⟨term, (read_iff piece).1 done⟩ ((malformed_iff some_word).1 malformed)
    | error e =>
      obtain ⟨_, -, failed⟩ := exists_mem_of_tryMap_eq_error result
      obtain ⟨fault, rfl⟩ := invalidFilter_of_read failed
      exact ⟨fault, rfl⟩

/-! ## §4 Lists as text -/

/-- Whether the column is a word without commas. -/
def IsPlain (term : OrderTerm) : Prop :=
  term.column.toList ≠ [] ∧ ∀ c ∈ term.column.toList, Text.isBlank c = false ∧ c ≠ ','

instance (term : OrderTerm) : Decidable term.IsPlain :=
  have := List.decidableBAll (fun c => Text.isBlank c = false ∧ c ≠ ',') term.column.toList
  instDecidableAnd

/-- A text of one term: blanks around it and between the column and the direction, the direction in
any letter case. -/
inductive Spells : OrderTerm → List Char → Prop where
  | bare {column : String} {before after : List Char} (blanks : Blanks before)
      (blanks' : Blanks after) :
      Spells ⟨column, none⟩ (before ++ column.toList ++ after)
  | directed {column word : String} {direction : Direction} {before between after : List Char}
      (blanks : Blanks before) (gap : Blanks between) (some_gap : between ≠ [])
      (blanks' : Blanks after) (same : sameLetters word direction.keyword) :
      Spells ⟨column, some direction⟩ (before ++ (column.toList ++ between ++ word.toList) ++ after)

/-- What stands between commas in a text of some terms: a text of each term, and blank ones
anywhere. -/
inductive LaidOut : List OrderTerm → List (List Char) → Prop where
  | nil : LaidOut [] []
  | blank {b : List Char} {terms : List OrderTerm} {pieces : List (List Char)} (blanks : Blanks b)
      (rest : LaidOut terms pieces) : LaidOut terms (b :: pieces)
  | term {term : OrderTerm} {piece : List Char} {terms : List OrderTerm} {pieces : List (List Char)}
      (spelled : Spells term piece) (rest : LaidOut terms pieces) :
      LaidOut (term :: terms) (piece :: pieces)

/-- The text of a list of terms, with commas between them. -/
def listText (terms : List OrderTerm) : String := String.intercalate "," (terms.map text)

theorem noComma_of_blanks {b : List Char} (blanks : Blanks b) : ',' ∉ b :=
  fun listed => absurd (blanks ',' listed) (by decide)

theorem Spells.noComma {term : OrderTerm} {piece : List Char} (spelled : Spells term piece)
    (plain : term.IsPlain) :
    ',' ∉ piece := by
  have column : ',' ∉ term.column.toList := fun listed => (plain.2 ',' listed).2 rfl
  cases spelled with
  | bare blanks blanks' => simp [noComma_of_blanks blanks, noComma_of_blanks blanks', column]
  | directed blanks gap _ blanks' same =>
    have word : ',' ∉ _ := fun listed => ((plain_of_sameLetters same).2 ',' listed).2 rfl
    simp [noComma_of_blanks blanks, noComma_of_blanks gap, noComma_of_blanks blanks', column, word]

/-- The words of a text of one term are those of the term. -/
theorem Spells.hasWords {term : OrderTerm} {piece : List Char} (spelled : Spells term piece)
    (plain : term.IsPlain) :
    term.HasWords (words piece) := by
  have single : words term.column.toList = [term.column.toList] :=
    Text.words_of_notBlank plain.1 fun c listed => (plain.2 c listed).1
  -- A column alone, or a column and its direction.
  cases spelled with
  | @bare column _ _ blanks blanks' =>
    rw [Text.words_surrounded blanks blanks', single]
    simpa using HasWords.bare column.toList
  | @directed column word _ _ _ _ blanks gap some_gap blanks' same =>
    obtain ⟨some_char, letters⟩ := plain_of_sameLetters same
    have second : words word.toList = [word.toList] :=
      Text.words_of_notBlank some_char fun c listed => (letters c listed).1
    rw [Text.words_surrounded blanks blanks', Text.words_append_blanks gap some_gap, single, second]
    rw [← String.ofList_toList (s := word)] at same
    simpa using HasWords.directed column.toList same

theorem LaidOut.noComma {terms : List OrderTerm} {pieces : List (List Char)}
    (laid : LaidOut terms pieces)
    (plain : ∀ term ∈ terms, term.IsPlain) : ∀ piece ∈ pieces, ',' ∉ piece := by
  induction laid with
  | nil => simp
  | blank blanks _ ih => exact List.forall_mem_cons.2 ⟨noComma_of_blanks blanks, ih plain⟩
  | term spelled _ ih =>
    obtain ⟨first, others⟩ := List.forall_mem_cons.1 plain
    exact List.forall_mem_cons.2 ⟨spelled.noComma first, ih others⟩

/-- The pieces of a layout that are not blank have the words of its terms. -/
theorem LaidOut.forall₂_hasWords {terms : List OrderTerm} {pieces : List (List Char)}
    (laid : LaidOut terms pieces) (plain : ∀ term ∈ terms, term.IsPlain) :
    List.Forall₂ (fun piece term => HasWords term (words piece))
      (pieces.filter fun piece => !(words piece).isEmpty)
      terms := by
  -- Blank pieces are dropped, and each other one has a word.
  induction laid with
  | nil => exact .nil
  | blank blanks _ ih =>
    rw [List.filter_cons_of_neg (by simp [Text.words_of_blanks blanks])]
    exact ih plain
  | @term _ piece _ _ spelled _ ih =>
    obtain ⟨first, others⟩ := List.forall_mem_cons.1 plain
    have has := spelled.hasWords first
    have some_word : words piece ≠ [] := by
      intro none
      rw [none] at has
      cases has
    rw [List.filter_cons_of_pos (by simpa using some_word)]
    exact .cons has (ih others)

/-- A laid-out text is read as its terms. -/
theorem LaidOut.readList {terms : List OrderTerm} {pieces : List (List Char)}
    (laid : LaidOut terms pieces) (plain : ∀ term ∈ terms, term.IsPlain) :
    readList (String.ofList ([','].intercalate pieces)) = .ok terms := by
  have counted := laid.forall₂_hasWords plain
  rw [readList_eq_ok_iff, String.toList_ofList, termPieces, Text.splitOn_eq]
  -- No piece at all is cut into one empty piece, which is dropped.
  cases pieces with
  | nil =>
    cases laid
    exact .nil
  | cons piece pieces =>
    rwa [List.splitOn_intercalate ',' (laid.noComma plain) (List.cons_ne_nil piece pieces)]

/-- The text of a term is one of its texts. -/
theorem spells_text (term : OrderTerm) : Spells term term.text.toList := by
  obtain ⟨column, direction⟩ := term
  -- The text of a term is its plainest spelling.
  cases direction with
  | none =>
    have spelled : Spells ⟨column, none⟩ ([] ++ column.toList ++ []) :=
      .bare Text.blanks_nil Text.blanks_nil
    simpa [text] using spelled
  | some direction =>
    have own : sameLetters direction.keyword direction.keyword := sameLetters_iff.2 rfl
    have spelled : Spells ⟨column, some direction⟩
        ([] ++ (column.toList ++ [' '] ++ direction.keyword.toList) ++ []) :=
      .directed Text.blanks_nil (by decide) (List.cons_ne_nil _ _) Text.blanks_nil own
    simpa [text] using spelled

theorem laidOut_texts (terms : List OrderTerm) : LaidOut terms (terms.map (·.text.toList)) := by
  induction terms with
  | nil => exact .nil
  | cons term terms ih => exact .term (spells_text term) ih

/-- A list that was written is read back. -/
theorem readList_listText {terms : List OrderTerm} (plain : ∀ term ∈ terms, term.IsPlain) :
    readList (listText terms) = .ok terms := by
  have printed : listText terms =
      String.ofList ([','].intercalate (terms.map (·.text.toList))) := by
    rw [← String.ofList_toList (s := listText terms), listText, String.toList_intercalate,
      List.map_map]
    rfl
  rw [printed]
  exact (laidOut_texts terms).readList plain

/-- A column that was read is a word without commas. -/
theorem isPlain_of_hasWords {term : OrderTerm} {piece : List Char}
    (has : term.HasWords (words piece)) (noComma : ',' ∉ piece) : term.IsPlain := by
  have first (column : List Char) (listed : column ∈ words piece) :
      column ≠ [] ∧ ∀ c ∈ column, Text.isBlank c = false ∧ c ≠ ',' := by
    obtain ⟨some_char, chars⟩ := Text.spec_of_mem_words listed
    refine ⟨some_char, fun c h => ⟨(chars c h).2, ?_⟩⟩
    rintro rfl
    exact noComma (chars _ h).1
  -- Words hold no blank, and the piece no comma.
  generalize words piece = found at has first
  cases has with
  | bare column => simpa [IsPlain] using first column (List.mem_cons_self ..)
  | directed column same => simpa [IsPlain] using first column (List.mem_cons_self ..)

theorem isPlain_of_readList {s : String} {terms : List OrderTerm} (done : readList s = .ok terms) :
    ∀ term ∈ terms, term.IsPlain := by
  have noComma : ∀ piece ∈ termPieces s.toList, ',' ∉ piece :=
    fun piece listed => Text.not_mem_of_mem_splitOn (List.mem_filter.1 listed).1
  have has := readList_eq_ok_iff.1 done
  clear done
  -- The pieces are cut at commas, so none is left in them.
  generalize termPieces s.toList = pieces at has noComma
  induction has with
  | nil => simp
  | cons first _ ih =>
    obtain ⟨here, others⟩ := List.forall_mem_cons.1 noComma
    exact List.forall_mem_cons.2 ⟨isPlain_of_hasWords first here, ih others⟩

/-- **Order lists are printed and read back.**  Terms whose columns are words without commas are
read from any text that lays them out, the printed one among them.  Terms that have been read are
such terms, so they are read again from what they are printed as.  A text is refused exactly if a
term of it that is not blank has three or more words, or a second one that is no direction. -/
theorem orderList_readBack :
    (∀ terms : List OrderTerm, (∀ term ∈ terms, term.IsPlain) →
      readList (listText terms) = .ok terms ∧
        ∀ pieces, LaidOut terms pieces →
          readList (String.ofList ([','].intercalate pieces)) = .ok terms) ∧
      (∀ s terms, readList s = .ok terms →
        (∀ term ∈ terms, term.IsPlain) ∧ readList (listText terms) = .ok terms) ∧
      ∀ s, (∃ fault, readList s = .error (.invalidFilter fault)) ↔
        ∃ piece ∈ splitOn ',' s.toList, words piece ≠ [] ∧ Malformed (words piece) := by
  refine ⟨fun terms plain => ?_, fun s terms done => ?_, fun s => readList_eq_error_iff⟩
  · exact ⟨readList_listText plain, fun pieces laid => laid.readList plain⟩
  -- What is read is plain, so it can be written and read again.
  · have plain := isPlain_of_readList done
    exact ⟨plain, readList_listText plain⟩

/-- A list with blanks of several kinds, blank terms and a direction in mixed letters, and a
statement in the place of a direction. -/
theorem orderList_readBack_untidy :
    readList " name\u00a0\tdEsC ,\u3000,, age\n" = .ok [⟨"name", some .descending⟩, ⟨"age", none⟩] ∧
      readList "name DESC,age" = .ok [⟨"name", some .descending⟩, ⟨"age", none⟩] ∧
      ∃ fault, readList "name; DROP TABLE x" = .error (.invalidFilter fault) := by
  obtain ⟨written, -, refused⟩ := orderList_readBack
  have plain : ∀ term ∈ [(⟨"name", some .descending⟩ : OrderTerm), ⟨"age", none⟩],
      term.IsPlain := by decide
  -- Blanks of several kinds, letters of either case and empty terms.
  have name : Spells ⟨"name", some .descending⟩
      ([' '] ++ ("name".toList ++ ['\u00a0', '\t'] ++ "dEsC".toList) ++ [' ']) :=
    .directed (by decide) (by decide) (List.cons_ne_nil _ _) (by decide) (by decide)
  have age : Spells ⟨"age", none⟩ ([' '] ++ "age".toList ++ ['\n']) := .bare (by decide) (by decide)
  have blank : Blanks ['\u3000'] := by decide
  obtain ⟨pieces, untidy, laid⟩ : ∃ pieces,
      " name\u00a0\tdEsC ,\u3000,, age\n".toList = [','].intercalate pieces ∧
      LaidOut [⟨"name", some .descending⟩, ⟨"age", none⟩] pieces :=
    ⟨_, by decide, .term name (.blank blank (.blank Text.blanks_nil (.term age .nil)))⟩
  obtain ⟨printed, layouts⟩ := written _ plain
  have read := layouts pieces laid
  rw [← untidy, String.ofList_toList] at read
  exact ⟨read, printed,
    (refused _).2 ⟨"name; DROP TABLE x".toList, by decide, by decide, .inl (by decide)⟩⟩

end Sql.OrderTerm

end TableMapper
