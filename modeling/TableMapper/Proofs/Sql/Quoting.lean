import TableMapper.Proofs.Number.Digits
import TableMapper.Proofs.Sql.Token
import TableMapper.Proofs.Text.Cutting

/-!
# Written tokens are read back

Each writer of `Sql` is undone by the reader of its tokens, and the reader stops where the writer
did:

- string literals and names hold any text at all;
- numbers and words end at the next character that cannot belong to them.

`Delimited` says which texts may follow a token; `tokens_*` are the laws of the whole cutting.
-/

namespace TableMapper.Sql

open Numeral (isDigit digitsValue takeDigits)

/-! ## §1 What may follow a token -/

@[simp]
theorem joined_singleton (separator : String) (part : List Char) :
    joined separator [part] = part := by
  simp [joined]

@[simp]
theorem joined_cons_cons (separator : String) (part part' : List Char) (parts : List (List Char)) :
    joined separator (part :: part' :: parts) =
      part ++ separator.toList ++ joined separator (part' :: parts) := by
  simp [joined]

/-- Whether a text may follow a token without becoming part of it. -/
def Delimited (rest : List Char) : Prop := ∀ c ∈ rest.head?, c = ' ' ∨ c = ',' ∨ c = ')'

@[simp]
theorem delimited_nil : Delimited [] := by
  simp [Delimited]

@[simp]
theorem delimited_cons (c : Char) (rest : List Char) :
    Delimited (c :: rest) ↔ c = ' ' ∨ c = ',' ∨ c = ')' := by
  simp [Delimited]

/-- A text that may follow a token does not begin with a character of the class `p`. -/
theorem Delimited.not_mem {rest : List Char} (stop : Delimited rest) {p : Char → Bool}
    (other : p ' ' = false ∧ p ',' = false ∧ p ')' = false) : ∀ c ∈ rest.head?, p c = false := by
  intro c first
  rcases stop c first with rfl | rfl | rfl
  · exact other.1
  · exact other.2.1
  · exact other.2.2

theorem Delimited.head?_ne {rest : List Char} (stop : Delimited rest) {c : Char}
    (other : c ≠ ' ' ∧ c ≠ ',' ∧ c ≠ ')') : rest.head? ≠ some c := by
  intro first
  rcases stop c first with rfl | rfl | rfl
  · exact other.1 rfl
  · exact other.2.1 rfl
  · exact other.2.2 rfl

/-! ## §2 String literals -/

/-- The contents of a string are read back character by character. -/
theorem readContents?_stringChar (c : Char) (s : List Char) :
    readContents? (stringChar c ++ s) = (readContents? s).map fun (t, rest) => (c :: t, rest) := by
  unfold stringChar
  -- Each escape is read by `unescaped`; all other characters stand for themselves.
  split_ifs with nul backspace tab feed ret sub double quote backslash
  case neg => simp [readContents?, quote, backslash]
  all_goals
    subst c
    simp [readContents?, unescaped]

/-- The contents of a string literal are read back up to its closing quote. -/
theorem readContents?_append (s : List Char) {rest : List Char} (stop : rest.head? ≠ some '\'') :
    readContents? (s.flatMap stringChar ++ '\'' :: rest) = some (s, rest) := by
  induction s with
  | nil =>
    -- A quote behind the closing one would make a quote of both.
    cases rest with
    | nil => rfl
    | cons c rest =>
      have other : c ≠ '\'' := fun same => stop (congrArg some same)
      simp [readContents?, other]
  | cons c s ih =>
    rw [List.flatMap_cons, List.append_assoc, readContents?_stringChar, ih]
    rfl

/-- **Any text is read back from its string literal.** -/
theorem readString?_stringChars (s : List Char) {rest : List Char} (stop : rest.head? ≠ some '\'') :
    readString? (stringChars s ++ rest) = some (s, rest) := by
  simpa [stringChars, readString?] using readContents?_append s stop

/-! ## §3 Names -/

/-- The parts of a name that begins with `c`, given those of the rest of it. -/
def partsAfter (c : Char) (parts : List Char × List (List Char)) : List Char × List (List Char) :=
  if c = '.' then ([], parts.1 :: parts.2) else (c :: parts.1, parts.2)

/-- So are the parts of a name. -/
theorem readParts?_identifierChar (c : Char) (s : List Char) :
    readParts? (identifierChar c ++ s) =
      (readParts? s).map fun (parts, rest) => (partsAfter c parts, rest) := by
  unfold identifierChar
  -- A backtick is doubled, and a point closes one part and opens the next.
  split_ifs with backtick point
  case pos =>
    subst c
    simp [readParts?, partsAfter]
  case pos =>
    subst c
    simp [readParts?, partsAfter]
  case neg => simp [readParts?, partsAfter, backtick, point]

/-- The parts of a name are read back up to its closing backtick. -/
theorem readParts?_append (name : List Char) {rest : List Char} (next : rest.head? ≠ some '\x60')
    (point : rest.head? ≠ some '.') :
    ∃ part parts, readParts? (name.flatMap identifierChar ++ '\x60' :: rest) =
      some ((part, parts), rest) ∧
      part :: parts = Text.splitOn '.' name := by
  induction name with
  | nil =>
    refine ⟨[], [], ?_, rfl⟩
    cases rest with
    | nil => rfl
    | cons c rest =>
      -- A second backtick or a point would go on with the name.
      have noBacktick : c ≠ '\x60' := fun same => next (congrArg some same)
      have noPoint : c ≠ '.' := fun same => point (congrArg some same)
      simp [readParts?, noBacktick, noPoint]
  | cons c name ih =>
    obtain ⟨part, parts, read, split⟩ := ih
    refine ⟨(partsAfter c (part, parts)).1, (partsAfter c (part, parts)).2, ?_, ?_⟩
    · rw [List.flatMap_cons, List.append_assoc, readParts?_identifierChar, read]
      rfl
    · by_cases point : c = '.' <;> simp [partsAfter, Text.splitOn, ← split, point]

/-- **Any name is read back part by part.** -/
theorem readPath?_identifierChars (name : List Char) {rest : List Char}
    (next : rest.head? ≠ some '\x60') (point : rest.head? ≠ some '.') :
    readPath? (identifierChars name ++ rest) = some (Text.splitOn '.' name, rest) := by
  obtain ⟨part, parts, read, split⟩ := readParts?_append name next point
  simp [identifierChars, readPath?, read, split]

/-- Texts with the same literal are the same. -/
theorem quoteString_injective : Function.Injective quoteString := by
  intro s t same
  -- Nothing follows the literals, so both are read whole.
  have read (s : String) : readString? (quoteString s).toList = some (s.toList, []) := by
    simpa [quoteString] using readString?_stringChars s.toList (by simp : [].head? ≠ some '\'')
  have both := (read s).symm.trans (same ▸ read t)
  exact String.toList_inj.1 (Prod.mk.inj (Option.some.inj both)).1

/-- Texts with the same quoted name are the same. -/
theorem quoteName_injective : Function.Injective quoteName := by
  intro name other same
  have read (name : String) : readPath? (quoteName name).toList =
      some (Text.splitOn '.' name.toList, []) := by
    simpa [quoteName]
      using readPath?_identifierChars name.toList (by simp : [].head? ≠ some '\x60') (by simp)
  have both := (read name).symm.trans (same ▸ read other)
  -- The parts with points between them are the name again.
  have names := congrArg ['.'].intercalate (Prod.mk.inj (Option.some.inj both)).1
  rw [Text.intercalate_splitOn, Text.intercalate_splitOn] at names
  exact String.toList_inj.1 names

/-- **Quoting is inverted by reading.**  A quoted text is read back whatever follows it, unless that
is a quote, and a quoted name part by part, unless a backtick or a point follows.  So different
texts are quoted differently, and so are different names. -/
theorem quoting_inverted :
    (∀ (s : String) (rest : List Char), rest.head? ≠ some '\'' →
      readString? ((quoteString s).toList ++ rest) = some (s.toList, rest)) ∧
    (∀ (name : String) (rest : List Char), rest.head? ≠ some '\x60' → rest.head? ≠ some '.' →
      readPath? ((quoteName name).toList ++ rest) = some (Text.splitOn '.' name.toList, rest)) ∧
    Function.Injective quoteString ∧ Function.Injective quoteName := by
  refine ⟨fun s rest stop => ?_, fun name rest next point => ?_, quoteString_injective,
    quoteName_injective⟩
  · rw [quoteString, String.toList_ofList, readString?_stringChars s.toList stop]
  · rw [quoteName, String.toList_ofList, readPath?_identifierChars name.toList next point]

/-- A text with backslashes before quotes, and a name with adjacent backticks and empty parts. -/
theorem quoting_inverted_crowded :
    readString? ((quoteString "\\' OR \"1\"='\\\n").toList ++ " OR".toList) =
        some ("\\' OR \"1\"='\\\n".toList, " OR".toList) ∧
      readPath? ((quoteName ".a\x60\x60..").toList ++ ", \x60b\x60".toList) =
        some ([[], ['a', '\x60', '\x60'], [], []], ", \x60b\x60".toList) := by
  obtain ⟨texts, names, -, -⟩ := quoting_inverted
  exact ⟨texts _ _ (by decide), names _ _ (by decide) (by decide)⟩

/-! ## §4 Numbers -/

@[simp]
theorem digitOf_digitChar (d : Fin 10) : digitOf (Decimal.digitChar d) = d := by
  simp [digitOf]

theorem isDigit_of_mem_digitChars {digits : List (Fin 10)} :
    ∀ c ∈ digits.map Decimal.digitChar, isDigit c = true := by
  intro c digit
  obtain ⟨d, -, rfl⟩ := List.mem_map.1 digit
  exact Numeral.isDigit_digitChar d

theorem readFraction_append (digits : List (Fin 10)) {rest : List Char}
    (stop : ∀ c ∈ rest.head?, isDigit c = false) (point : rest.head? ≠ some '.') :
    readFraction ((if digits.isEmpty then [] else '.' :: digits.map Decimal.digitChar) ++ rest) =
      (digits.map Decimal.digitChar, rest) := by
  -- Without digits there is no point either.
  cases digits with
  | nil =>
    cases rest with
    | nil => rfl
    | cons c rest =>
      have noPoint : c ≠ '.' := fun same => point (congrArg some same)
      simp [readFraction, noPoint]
  | cons d digits =>
    have taken := Numeral.takeDigits_append (s := (d :: digits).map Decimal.digitChar)
      isDigit_of_mem_digitChars stop
    simp only [List.isEmpty_cons, Bool.false_eq_true, if_false, List.cons_append,
      readFraction, taken]
    simp

/-- A numeral is read back up to where no digit follows. -/
theorem readUnsigned?_append (negative : Bool) (whole : Nat) (digits : List (Fin 10))
    {rest : List Char} (stop : ∀ c ∈ rest.head?, isDigit c = false)
    (point : rest.head? ≠ some '.') :
    readUnsigned? negative (Decimal.natChars whole ++
      ((if digits.isEmpty then [] else '.' :: digits.map Decimal.digitChar) ++ rest)) =
      some (⟨negative, whole, digits⟩, rest) := by
  -- Either the point or what follows the numeral ends the digits of the whole part.
  have afterWhole : ∀ c ∈ ((if digits.isEmpty then [] else '.' :: digits.map Decimal.digitChar) ++
      rest).head?, isDigit c = false := by
    cases digits with
    | nil => simpa using stop
    | cons d digits => simp +decide
  have taken :=
    Numeral.takeDigits_append (fun c => Decimal.isDigit_of_mem_natChars (n := whole) (c := c))
    afterWhole
  have fraction := readFraction_append digits stop point
  simp only [readUnsigned?, taken, fraction]
  simp [Decimal.natChars_ne_nil, Function.comp_def]

/-- **Any numeral is read back digit by digit.** -/
theorem readNumber?_chars (d : Decimal) {rest : List Char}
    (stop : ∀ c ∈ rest.head?, isDigit c = false) (point : rest.head? ≠ some '.') :
    readNumber? (d.chars ++ rest) = some (d, rest) := by
  obtain ⟨negative, whole, digits⟩ := d
  have read := readUnsigned?_append negative whole digits stop point
  -- Only a minus sign could be mistaken, and no number begins with one.
  cases negative with
  | true => simpa [Decimal.chars, readNumber?] using read
  | false =>
    obtain ⟨c, s, chars, digit⟩ := Decimal.exists_natChars_eq_cons whole
    have noSign : c ≠ '-' := by
      rintro rfl
      exact absurd digit (by decide)
    simp only [Decimal.chars, Bool.false_eq_true, if_false, List.nil_append, List.append_assoc]
    rw [← read, chars]
    simp [readNumber?, noSign]

/-! ## §5 Cutting a text -/

/-- The tokens of a text that begins with the tokens `ts`, given those of its rest. -/
def before (ts : List Token) (rest : Option (List Token)) : Option (List Token) :=
  rest.map (ts ++ ·)

@[simp]
theorem before_some (ts us : List Token) : before ts (some us) = some (ts ++ us) := rfl

@[simp]
theorem before_before (ts us : List Token) (rest : Option (List Token)) :
    before ts (before us rest) = before (ts ++ us) rest := by
  simp [before, Function.comp_def]

/-- The text `s` is cut into the tokens `ts`, whatever text follows a space, a comma or a
parenthesis. -/
def Cuts (s : List Char) (ts : List Token) : Prop :=
  ∀ rest, Delimited rest → tokens (s ++ rest) = before ts (tokens rest)

@[simp]
theorem tokens_nil : tokens [] = some [] := by
  rw [tokens]

@[simp]
theorem tokens_space (s : List Char) : tokens (' ' :: s) = tokens s := by
  rw [tokens]
  rfl

/-- A token is cut off where its reader stops. -/
theorem tokens_of_readToken? {c : Char} {s rest : List Char} {t : Token}
    (noSpace : isSpace c = false) (read : readToken? (c :: s) = some (t, rest)) :
    tokens (c :: s) = before [t] (tokens rest) := by
  rw [tokens]
  simp only [noSpace, Bool.false_eq_true, if_false]
  split
  case h_1 none => simp [none] at read
  case h_2 t' rest' same =>
    obtain ⟨rfl, rfl⟩ := Prod.mk.inj (Option.some.inj (same.symm.trans read))
    rfl

/-- A parenthesis, a comma or an asterisk is a token by itself. -/
theorem tokens_mark {c : Char} (mark : isMark c = true) (s : List Char) :
    tokens (c :: s) = before [.mark c] (tokens s) := by
  have cases : ((c = '(' ∨ c = ')') ∨ c = ',') ∨ c = '*' := by simpa [isMark] using mark
  refine tokens_of_readToken? ?_ ?_ <;> rcases cases with ((rfl | rfl) | rfl) | rfl <;> rfl

/-- A quoted name is one token. -/
theorem cuts_name (name : String) :
    Cuts (identifierChars name.toList) [.name (Path.ofName name)] := by
  intro rest stop
  have read := readPath?_identifierChars name.toList (stop.head?_ne (c := '\x60') (by decide))
    (stop.head?_ne (c := '.') (by decide))
  apply tokens_of_readToken? rfl
  show (readPath? (identifierChars name.toList ++ rest)).map _ = _
  rw [read]
  rfl

/-- A string literal is one token. -/
theorem cuts_string (s : String) : Cuts (stringChars s.toList) [.string s] := by
  intro rest stop
  have read := readString?_stringChars s.toList (stop.head?_ne (c := '\'') (by decide))
  apply tokens_of_readToken? rfl
  show (readString? (stringChars s.toList ++ rest)).map _ = _
  rw [read]
  simp

/-- A number begins with a sign or a digit. -/
theorem exists_chars_eq (d : Decimal) :
    ∃ c s, d.chars = c :: s ∧ (c = '-' ∨ ∃ digit, c = Decimal.digitChar digit) := by
  obtain ⟨c, s, digits, digit⟩ := Decimal.exists_natChars_eq_cons d.whole
  simp only [Decimal.chars, digits]
  cases d.negative with
  | true => exact ⟨'-', _, rfl, .inl rfl⟩
  | false => exact ⟨c, _, rfl, .inr (Numeral.exists_digitChar_of_isDigit digit)⟩

/-- A text that begins with a sign or a digit is cut as a number. -/
theorem readToken?_number {c : Char} (s : List Char)
    (first : c = '-' ∨ ∃ digit, c = Decimal.digitChar digit) :
    isSpace c = false ∧
      readToken? (c :: s) = (readNumber? (c :: s)).map fun (d, rest) => (.number d, rest) := by
  rcases first with rfl | ⟨digit, rfl⟩
  · exact ⟨rfl, rfl⟩
  · -- The readers of other tokens are tried before, and none of them takes a digit.
    have plain : ∀ d : Fin 10,
        isSpace (Decimal.digitChar d) = false ∧ Decimal.digitChar d ≠ '\x60' ∧
        Decimal.digitChar d ≠ '\'' ∧ isMark (Decimal.digitChar d) = false ∧
        isLetter (Decimal.digitChar d) = false := by decide
    obtain ⟨noSpace, noName, noString, noMark, noLetter⟩ := plain digit
    exact ⟨noSpace, by simp [readToken?, noName, noString, noMark, noLetter]⟩

/-- The text of a numeral is one token. -/
theorem cuts_number (d : Decimal) : Cuts d.chars [.number d] := by
  intro rest stop
  have read := readNumber?_chars d (stop.not_mem (by decide)) (stop.head?_ne (c := '.') (by decide))
  obtain ⟨c, s, chars, first⟩ := exists_chars_eq d
  rw [chars, List.cons_append] at read ⊢
  obtain ⟨noSpace, token⟩ := readToken?_number (s ++ rest) first
  apply tokens_of_readToken? noSpace
  rw [token, read]
  rfl

/-- No letter begins any other token. -/
theorem plain_of_isLetter {c : Char} (letter : isLetter c = true) :
    isSpace c = false ∧ c ≠ '\x60' ∧ c ≠ '\'' ∧ isMark c = false := by
  have noOther : ∀ d : Char, isLetter d = false → c ≠ d := by
    rintro d other rfl
    exact absurd letter (by simp [other])
  simp (disch := decide) [isSpace, isMark, noOther]

/-- A run of letters is one token. -/
theorem cuts_word {c : Char} {s : List Char} (letters : ∀ d ∈ c :: s, isLetter d = true) :
    Cuts (c :: s) [.word (String.ofList (c :: s))] := by
  intro rest stop
  have letter := letters c (List.mem_cons_self ..)
  have others : ∀ d ∈ s, isLetter d = true := fun d h => letters d (List.mem_cons_of_mem _ h)
  obtain ⟨noSpace, noName, noString, noMark⟩ := plain_of_isLetter letter
  -- The word ends where no letter follows.
  have stops := stop.not_mem (p := isLetter) (by decide)
  rw [List.cons_append]
  apply tokens_of_readToken? noSpace
  simp only [readToken?, noName, noString, noMark, letter, if_true, if_false, Bool.false_eq_true,
    Text.takeWhile_append_stop others stops, Text.dropWhile_append_stop others stops]

end TableMapper.Sql
