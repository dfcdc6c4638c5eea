import TableMapper.Proofs.Sql.Quoting

/-!
# Lexemes

The server's scanner, for any text at all.  `tokens` knows only what queries consist of and has no
answer for other texts; `lexemes` says what the server makes of a text however it came about:

- blanks and comments are skipped;
- names between backticks and strings between quotes hold any characters;
- a longest run of word characters is a numeral or a bare word;
- any other character is a sign by itself, so `1.5` and `<=` are several lexemes.

There are no lexemes if a name, a string or a comment is not closed.
-/

namespace TableMapper.Sql

open Numeral (isDigit)

/-! ## §1 Characters and runs -/

/-- What the scanner tells apart. -/
inductive Lexeme where
  | name (path : Path)
  | string (s : String)
  | number (numeral : String)
  /-- A keyword or any other bare word. -/
  | word (letters : String)
  | sign (c : Char)
  deriving DecidableEq, Repr

/-- The blanks of the scanner: space, tab, the two feeds, return and new line. -/
def isGap (c : Char) : Bool :=
  c = ' ' || c = '\t' || c = '\n' || c = '\x0b' || c = '\x0c' || c = '\r'

/-- The characters of words that need no quotes. -/
def isWordChar (c : Char) : Bool :=
  isLetter c || isDigit c || c = '$' || (0x80 ≤ c.toNat && c.toNat ≤ 0xFFFF)

def isHexDigit (c : Char) : Bool := isDigit c || ('a' ≤ c && c ≤ 'f') || ('A' ≤ c && c ≤ 'F')

/-- Whether a run has the prefix and then only characters of a class, at least one. -/
def hasPrefixed (start : List Char) (p : Char → Bool) (run : List Char) : Bool :=
  (Text.after? start run).any fun s => !s.isEmpty && s.all p

/-- Whether a run consists of digits and, behind the letter `e`, digits. -/
def isScientific (run : List Char) : Bool :=
  match run.dropWhile isDigit with
  | [] => false
  | e :: s => run.head?.any isDigit && (e = 'e' || e = 'E') && !s.isEmpty && s.all isDigit

/-- Whether a run of word characters is a number: in digits, in hexadecimal or binary notation, or
with an exponent. -/
def isNumeral (run : List Char) : Bool :=
  run.all isDigit || hasPrefixed ['0', 'x'] isHexDigit run ||
    hasPrefixed ['0', 'b'] (fun c => c = '0' || c = '1') run || isScientific run

/-- A text that the scanner takes as one word. -/
def IsBareWord (w : String) : Prop :=
  w.toList ≠ [] ∧ w.toList.all isWordChar = true ∧ isNumeral w.toList = false

instance (w : String) : Decidable (IsBareWord w) :=
  inferInstanceAs (Decidable (_ ≠ _ ∧ _ = _ ∧ _ = _))

/-- The lexeme of a run of word characters. -/
def runLexeme (run : List Char) : Lexeme :=
  if isNumeral run then .number (String.ofList run) else .word (String.ofList run)

/-! ## §2 The scanner -/

/-- Whether what follows a hyphen makes a comment of the line: a second hyphen, and a blank, a
control character or nothing behind it. -/
def opensLine : List Char → Bool
  | ['-'] => true
  | '-' :: c :: _ => c ≤ ' ' || c = '\x7f'
  | _ => false

/-- Whether what follows a slash opens a comment.  Behind an exclamation mark stands no comment, but
text that the server carries out. -/
def opensBlock : List Char → Bool
  | '*' :: '!' :: _ => false
  | '*' :: _ => true
  | _ => false

/-- The text after the end of a comment. -/
def afterBlock? : List Char → Option (List Char)
  | [] => none
  | '*' :: '/' :: s => some s
  | _ :: s => afterBlock? s

/-- Exchanges the two kinds of quotes. -/
def swapQuote (c : Char) : Char := if c = '"' then '\'' else if c = '\'' then '"' else c

/-- A string between double quotes at the beginning of a text, and the rest: what the text with both
kinds of quotes exchanged has between single quotes. -/
def readDoubleQuoted? (s : List Char) : Option (List Char × List Char) :=
  (readString? (s.map swapQuote)).map fun (t, rest) => (t.map swapQuote, rest.map swapQuote)

/-- The lexeme at the beginning of a text, or none for a blank or a comment, and the rest. -/
def readLexeme? : List Char → Option (Option Lexeme × List Char)
  | [] => none
  | c :: s =>
    if isGap c then some (none, s)
    else if c = '#' ∨ c = '-' ∧ opensLine s then some (none, s.dropWhile (· != '\n'))
    else if c = '/' ∧ opensBlock s then (afterBlock? s.tail).map fun rest => (none, rest)
    else if c = '\x60' then
      (readPath? (c :: s)).map fun (path, rest) => (some (.name (path.map String.ofList)), rest)
    else if c = '\'' then
      (readString? (c :: s)).map fun (t, rest) => (some (.string (String.ofList t)), rest)
    else if c = '"' then
      (readDoubleQuoted? (c :: s)).map fun (t, rest) => (some (.string (String.ofList t)), rest)
    else if isWordChar c then
      some (some (runLexeme (c :: s.takeWhile isWordChar)), s.dropWhile isWordChar)
    else some (some (.sign c), s)

theorem length_le_of_afterBlock? {s rest : List Char} (h : afterBlock? s = some rest) :
    rest.length ≤ s.length := by
  fun_induction afterBlock? s with
  | case1 => cases h
  | case2 s =>
    cases h
    exact Nat.le_add_right _ 2
  | case3 c s _ ih => exact Nat.le_succ_of_le (ih h)

theorem length_lt_of_readDoubleQuoted? {s t rest : List Char}
    (h : readDoubleQuoted? s = some (t, rest)) :
    rest.length < s.length := by
  obtain ⟨⟨u, more⟩, read, same⟩ := Option.map_eq_some_iff.1 h
  have shorter := length_lt_of_readString? read
  obtain ⟨-, rfl⟩ := Prod.mk.inj same
  simpa using shorter

/-- A run that is read as a word is a bare word. -/
theorem isBareWord_of_runLexeme {c : Char} {s : List Char} {w : String}
    (letter : isWordChar c = true)
    (same : runLexeme (c :: s.takeWhile isWordChar) = .word w) : IsBareWord w := by
  unfold runLexeme at same
  split at same
  case isTrue => cases same
  case isFalse word =>
    obtain rfl := Lexeme.word.inj same
    have letters : (c :: s.takeWhile isWordChar).all isWordChar = true := by simp [letter]
    simpa [IsBareWord] using And.intro letters word

/-- What is left is shorter, and a word that is found is a bare word. -/
theorem readLexeme?_spec {s rest : List Char} {l : Option Lexeme}
    (h : readLexeme? s = some (l, rest)) :
    rest.length < s.length ∧ ∀ w, l = some (.word w) → IsBareWord w := by
  unfold readLexeme? at h
  split at h
  case h_1 => cases h
  case h_2 c s =>
    have tail {s' : List Char} (le : s'.length ≤ s.length) : s'.length < (c :: s).length :=
      Nat.lt_succ_of_le le
    -- The first character tells what begins; only runs of word characters are words.
    split at h
    case isTrue gap =>
      obtain ⟨rfl, rfl⟩ := Prod.mk.inj (Option.some.inj h)
      exact ⟨tail (Nat.le_refl _), by simp⟩
    split at h
    case isTrue line =>
      obtain ⟨rfl, rfl⟩ := Prod.mk.inj (Option.some.inj h)
      exact ⟨tail (List.dropWhile_sublist _).length_le, by simp⟩
    split at h
    case isTrue block =>
      obtain ⟨rest', closed, same⟩ := Option.map_eq_some_iff.1 h
      obtain ⟨rfl, rfl⟩ := Prod.mk.inj same
      exact ⟨tail ((length_le_of_afterBlock? closed).trans (by simp)), by simp⟩
    split at h
    case isTrue name =>
      obtain ⟨⟨path, rest'⟩, read, same⟩ := Option.map_eq_some_iff.1 h
      obtain ⟨rfl, rfl⟩ := Prod.mk.inj same
      exact ⟨length_lt_of_readPath? read, by simp⟩
    split at h
    case isTrue string =>
      obtain ⟨⟨t, rest'⟩, read, same⟩ := Option.map_eq_some_iff.1 h
      obtain ⟨rfl, rfl⟩ := Prod.mk.inj same
      exact ⟨length_lt_of_readString? read, by simp⟩
    split at h
    case isTrue string =>
      obtain ⟨⟨t, rest'⟩, read, same⟩ := Option.map_eq_some_iff.1 h
      obtain ⟨rfl, rfl⟩ := Prod.mk.inj same
      exact ⟨length_lt_of_readDoubleQuoted? read, by simp⟩
    split at h
    case isTrue letter =>
      obtain ⟨rfl, rfl⟩ := Prod.mk.inj (Option.some.inj h)
      exact ⟨tail (List.dropWhile_sublist _).length_le,
        fun w same => isBareWord_of_runLexeme letter (Option.some.inj same)⟩
    case isFalse =>
      obtain ⟨rfl, rfl⟩ := Prod.mk.inj (Option.some.inj h)
      exact ⟨tail (Nat.le_refl _), by simp⟩

/-- The lexemes of a text, if everything in it is closed. -/
def lexemes (s : List Char) : Option (List Lexeme) :=
  match s with
  | [] => some []
  | c :: s =>
    match _ : readLexeme? (c :: s) with
    | none => none
    | some (l, rest) => (lexemes rest).map (l.toList ++ ·)
termination_by s.length
decreasing_by exact (readLexeme?_spec ‹_›).1

/-! ## §3 One step -/

@[simp]
theorem lexemes_nil : lexemes [] = some [] := by
  rw [lexemes]

/-- Scanning goes on behind the lexeme that was read. -/
theorem lexemes_of_readLexeme? {s rest : List Char} {l : Option Lexeme}
    (read : readLexeme? s = some (l, rest)) : lexemes s = (lexemes rest).map (l.toList ++ ·) := by
  cases s with
  | nil => cases read
  | cons c s =>
    rw [lexemes]
    -- The scanner takes the same step.
    split
    case h_1 none => cases none.symm.trans read
    case h_2 same =>
      cases same.symm.trans read
      rfl

theorem lexemes_gap {c : Char} (gap : isGap c = true) (s : List Char) :
    lexemes (c :: s) = lexemes s := by
  have read : readLexeme? (c :: s) = some (none, s) := by simp [readLexeme?, gap]
  rw [lexemes_of_readLexeme? read]
  simp

/-- **Every word that the scanner finds is a bare word.** -/
theorem isBareWord_of_mem_lexemes {s : List Char} {ls : List Lexeme} {w : String}
    (scanned : lexemes s = some ls) (listed : .word w ∈ ls) : IsBareWord w := by
  fun_induction lexemes s generalizing ls with
  | case1 =>
    cases scanned
    cases listed
  | case2 => cases scanned
  | case3 c s l rest read ih =>
    obtain ⟨ls', scanned', rfl⟩ := Option.map_eq_some_iff.1 scanned
    -- The word is the lexeme read here or one of the rest.
    rcases List.mem_append.1 listed with first | later
    · exact (readLexeme?_spec read).2 w (Option.mem_toList.1 first)
    · exact ih scanned' later

/-- The words of comments, names and strings are none. -/
example : lexemes "DROP `a; b` -- KEY `c\n, 'it''s' /* not */ ;".toList =
    some [.word "DROP", .name ["a; b"], .sign ',', .string "it's", .sign ';'] := by decide +kernel

end TableMapper.Sql
