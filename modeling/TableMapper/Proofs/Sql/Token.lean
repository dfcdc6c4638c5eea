import TableMapper.Number.Numeral
import TableMapper.Sql.Predicate
import TableMapper.Text.Search

/-!
# Reading statements: tokens

The reader of the texts that `Sql` writes, up to tokens.  It knows the quoting rules of the server
and nothing of how a text came about.

- `readString?` reads a string literal: a backslash escapes the next character, and a quote written
  twice is one quote;
- `readPath?` reads a name: parts between backticks, joined by points, a backtick written twice
  being one;
- `readNumber?` reads a number;
- `tokens` cuts a whole text into names, literals, words and signs.

Each reader of one token gives what it read and the rest of the text.
-/

namespace TableMapper.Sql

open Numeral (isDigit digitsValue takeDigits)

/-! ## §1 String literals -/

/-- The character that a backslash and `c` stand for. -/
def unescaped (c : Char) : Char :=
  if c = '0' then '\x00'
  else if c = 'b' then '\x08'
  else if c = 't' then '\t'
  else if c = 'n' then '\n'
  else if c = 'r' then '\r'
  else if c = 'Z' then '\x1a'
  else c

/-- The contents of a string literal after its opening quote, and the rest after its closing one. -/
def readContents? : List Char → Option (List Char × List Char)
  | [] => none
  | '\\' :: c :: s => (readContents? s).map fun (t, rest) => (unescaped c :: t, rest)
  | '\\' :: [] => none
  | '\'' :: '\'' :: s => (readContents? s).map fun (t, rest) => ('\'' :: t, rest)
  | '\'' :: s => some ([], s)
  | c :: s => (readContents? s).map fun (t, rest) => (c :: t, rest)

/-- A string literal at the beginning of a text, and the rest. -/
def readString? : List Char → Option (List Char × List Char)
  | '\'' :: s => readContents? s
  | _ => none

/-! ## §2 Names -/

/-- The parts of a name after its opening backtick, the first one apart, and the rest after its
closing one.  A point between two backticks begins another part. -/
def readParts? : List Char → Option ((List Char × List (List Char)) × List Char)
  | [] => none
  | '\x60' :: '\x60' :: s =>
    (readParts? s).map fun ((part, parts), rest) => (('\x60' :: part, parts), rest)
  | '\x60' :: '.' :: '\x60' :: s =>
    (readParts? s).map fun ((part, parts), rest) => (([], part :: parts), rest)
  | '\x60' :: s => some (([], []), s)
  | c :: s => (readParts? s).map fun ((part, parts), rest) => ((c :: part, parts), rest)

/-- A name at the beginning of a text, by its parts, and the rest. -/
def readPath? : List Char → Option (List (List Char) × List Char)
  | '\x60' :: s => (readParts? s).map fun ((part, parts), rest) => (part :: parts, rest)
  | _ => none

/-- A column as statements name it: the parts of its path. -/
abbrev Path := List String

/-- The path of a name, whose parts stand between points. -/
def Path.ofName (name : String) : Path := (Text.splitOn '.' name.toList).map String.ofList

/-! ## §3 Numbers -/

/-- The digit of a character. -/
def digitOf (c : Char) : Fin 10 := Fin.ofNat 10 ((Numeral.digit? c).getD 0)

/-- The digits after a point at the beginning of a text, if there are any, and the rest. -/
def readFraction : List Char → List Char × List Char
  | '.' :: s => if (takeDigits s).1.isEmpty then ([], '.' :: s) else takeDigits s
  | s => ([], s)

/-- A number without sign at the beginning of a text, and the rest. -/
def readUnsigned? (negative : Bool) (s : List Char) : Option (Decimal × List Char) :=
  let (whole, rest) := takeDigits s
  if whole.isEmpty then none
  else
    let (fraction, rest) := readFraction rest
    some (⟨negative, digitsValue 0 whole, fraction.map digitOf⟩, rest)

/-- A number at the beginning of a text, and the rest. -/
def readNumber? : List Char → Option (Decimal × List Char)
  | '-' :: s => readUnsigned? true s
  | s => readUnsigned? false s

/-! ## §4 Words and signs -/

/-- Whether a character occurs in words. -/
def isLetter (c : Char) : Bool := ('a' ≤ c && c ≤ 'z') || ('A' ≤ c && c ≤ 'Z') || c = '_'

/-- A comparison at the beginning of a text, and the rest. -/
def readComparison? : List Char → Option (Comparison × List Char)
  | '=' :: s => some (.eq, s)
  | '!' :: '=' :: s => some (.ne, s)
  | '<' :: '=' :: s => some (.le, s)
  | '<' :: s => some (.lt, s)
  | '>' :: '=' :: s => some (.ge, s)
  | '>' :: s => some (.gt, s)
  | _ => none

/-- The tokens of a statement. -/
inductive Token where
  | name (path : Path)
  | string (s : String)
  | number (d : Decimal)
  /-- A keyword or any other bare word. -/
  | word (letters : String)
  | comparison (c : Comparison)
  /-- A parenthesis, a comma or an asterisk. -/
  | mark (c : Char)
  deriving DecidableEq, Repr

/-- Whether a character is a token by itself. -/
def isMark (c : Char) : Bool := c = '(' || c = ')' || c = ',' || c = '*'

/-- The token at the beginning of a text, and the rest. -/
def readToken? : List Char → Option (Token × List Char)
  | [] => none
  | c :: s =>
    if c = '\x60' then (readPath? (c :: s)).map fun (path, rest) =>
      (.name (path.map String.ofList), rest)
    else if c = '\'' then (readString? (c :: s)).map fun (t, rest) =>
      (.string (String.ofList t), rest)
    else if isMark c then some (.mark c, s)
    else if isLetter c then
      some (.word (String.ofList (c :: s.takeWhile isLetter)), s.dropWhile isLetter)
    else if c = '-' ∨ isDigit c then (readNumber? (c :: s)).map fun (d, rest) => (.number d, rest)
    else (readComparison? (c :: s)).map fun (comparison, rest) => (.comparison comparison, rest)

/-- The characters that may stand between tokens. -/
def isSpace (c : Char) : Bool := c = ' ' || c = '\t' || c = '\n' || c = '\r'

/-! ## §5 Readers make progress -/

/-- A reader that only changes what another one read leaves the same rest. -/
theorem exists_of_map_rest {α β : Type} {f : α × List Char → β × List Char}
    {read : Option (α × List Char)} {b : β} {rest : List Char} (h : read.map f = some (b, rest))
    (kept : ∀ p, (f p).2 = p.2) : ∃ a, read = some (a, rest) := by
  obtain ⟨⟨a, r⟩, first, equal⟩ := Option.map_eq_some_iff.1 h
  have same : r = rest := (kept (a, r)).symm.trans (congrArg Prod.snd equal)
  exact ⟨a, same ▸ first⟩

theorem length_lt_of_readContents? {s t rest : List Char} (h : readContents? s = some (t, rest)) :
    rest.length < s.length := by
  -- Every step takes one or two characters; the cases without a further step end at the closing
  -- quote.
  fun_induction readContents? s generalizing t with
  | case1 => cases h
  | case2 c s ih | case4 s ih | case6 c s _ _ _ _ ih =>
    obtain ⟨u, read⟩ := exists_of_map_rest h fun _ => rfl
    have shorter := ih read
    simp only [List.length_cons]
    omega
  | case3 => cases h
  | case5 s _ =>
    obtain ⟨rfl, rfl⟩ := Prod.mk.inj (Option.some.inj h)
    exact Nat.lt_succ_self _

theorem length_lt_of_readParts? {s rest : List Char} {parts : List Char × List (List Char)}
    (h : readParts? s = some (parts, rest)) : rest.length < s.length := by
  fun_induction readParts? s generalizing parts with
  | case1 => cases h
  -- A doubled backtick, a point between two parts, or any other character.
  | case2 s ih | case3 s ih | case5 c s _ _ _ ih =>
    obtain ⟨u, read⟩ := exists_of_map_rest h fun _ => rfl
    have shorter := ih read
    simp only [List.length_cons]
    omega
  | case4 s _ _ =>
    obtain ⟨rfl, rfl⟩ := Prod.mk.inj (Option.some.inj h)
    exact Nat.lt_succ_self _

theorem length_lt_of_readString? {s t rest : List Char} (h : readString? s = some (t, rest)) :
    rest.length < s.length := by
  unfold readString? at h
  split at h
  case h_1 s => exact Nat.lt_succ_of_lt (length_lt_of_readContents? h)
  case h_2 => cases h

theorem length_lt_of_readPath? {s rest : List Char} {parts : List (List Char)}
    (h : readPath? s = some (parts, rest)) : rest.length < s.length := by
  unfold readPath? at h
  split at h
  case h_1 s =>
    obtain ⟨u, read⟩ := exists_of_map_rest h fun _ => rfl
    exact Nat.lt_succ_of_lt (length_lt_of_readParts? read)
  case h_2 => cases h

theorem length_readFraction_le (s : List Char) : (readFraction s).2.length ≤ s.length := by
  unfold readFraction
  split
  case h_1 s =>
    split
    · exact Nat.le_refl _
    · exact Nat.le_succ_of_le (List.dropWhile_sublist _).length_le
  case h_2 => exact Nat.le_refl _

theorem length_lt_of_readUnsigned? {negative : Bool} {s rest : List Char} {d : Decimal}
    (h : readUnsigned? negative s = some (d, rest)) : rest.length < s.length := by
  simp only [readUnsigned?] at h
  split at h
  case isTrue => cases h
  case isFalse some_digits =>
    obtain ⟨-, rfl⟩ := Prod.mk.inj (Option.some.inj h)
    -- There is a digit before the point, so something has been read.
    have whole : 0 < (takeDigits s).1.length := List.length_pos_iff.2 (by simpa using some_digits)
    have both : (takeDigits s).1.length + (takeDigits s).2.length = s.length := by
      simp only [takeDigits]
      rw [← List.length_append, List.takeWhile_append_dropWhile]
    have fraction := length_readFraction_le (takeDigits s).2
    omega

theorem length_lt_of_readNumber? {s rest : List Char} {d : Decimal}
    (h : readNumber? s = some (d, rest)) : rest.length < s.length := by
  unfold readNumber? at h
  split at h
  case h_1 s => exact Nat.lt_succ_of_lt (length_lt_of_readUnsigned? h)
  case h_2 => exact length_lt_of_readUnsigned? h

theorem length_lt_of_readComparison? {s rest : List Char} {c : Comparison}
    (h : readComparison? s = some (c, rest)) : rest.length < s.length := by
  unfold readComparison? at h
  split at h <;> try cases h
  all_goals simp only [List.length_cons]; omega

/-- A token takes at least one character. -/
theorem length_lt_of_readToken? {s rest : List Char} {t : Token}
    (h : readToken? s = some (t, rest)) :
    rest.length < s.length := by
  unfold readToken? at h
  split at h
  case h_1 => cases h
  case h_2 c s =>
    -- The first character tells what kind of token begins.
    split at h
    case isTrue name =>
      obtain ⟨u, read⟩ := exists_of_map_rest h fun _ => rfl
      exact length_lt_of_readPath? read
    split at h
    case isTrue string =>
      obtain ⟨u, read⟩ := exists_of_map_rest h fun _ => rfl
      exact length_lt_of_readString? read
    split at h
    case isTrue mark =>
      obtain ⟨-, rfl⟩ := Prod.mk.inj (Option.some.inj h)
      exact Nat.lt_succ_self _
    split at h
    case isTrue letter =>
      obtain ⟨-, rfl⟩ := Prod.mk.inj (Option.some.inj h)
      exact Nat.lt_succ_of_le (List.dropWhile_sublist _).length_le
    split at h
    case isTrue number =>
      obtain ⟨u, read⟩ := exists_of_map_rest h fun _ => rfl
      exact length_lt_of_readNumber? read
    case isFalse =>
      obtain ⟨u, read⟩ := exists_of_map_rest h fun _ => rfl
      exact length_lt_of_readComparison? read

/-- The tokens of a text with spaces between them, if it consists of tokens. -/
def tokens (s : List Char) : Option (List Token) :=
  match s with
  | [] => some []
  | c :: s =>
    if isSpace c then tokens s
    else
      match _ : readToken? (c :: s) with
      | none => none
      | some (t, rest) => (tokens rest).map (t :: ·)
termination_by s.length
decreasing_by
  · exact Nat.lt_succ_self _
  · exact length_lt_of_readToken? ‹_›

end TableMapper.Sql
