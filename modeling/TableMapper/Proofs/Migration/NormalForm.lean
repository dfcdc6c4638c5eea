import TableMapper.Migration.Reconcile
import TableMapper.Proofs.Number.Digits
import TableMapper.Proofs.Text.Cutting
import TableMapper.Proofs.Text.Letters
import TableMapper.Proofs.Text.Trimming

/-!
# Normal forms of types

What `Reconcile.normalizeType` makes of the type of a column, said without replacing anything in its
text.

- `normalizeType_enumeration`: a list of allowed texts is normalized text by text (`normalValue`).
  Quotes that are escaped by a backslash become doubled ones, and so does the closing quote behind a
  backslash.
- `normalizeType_number`: types of numbers lose nothing but the display width of integers.
-/

namespace TableMapper.Reconcile

open Sql (stringChar stringChars)
open Sql.ColumnType (parenthesised)
open Text (lower replacePair)

/-! ## §1 Characters between quotes -/

/-- The characters that are written as another one behind a backslash, with that one; quotes and
backslashes are written as themselves behind it. -/
def escapes : List (Char × Char) :=
  [('\x00', '0'), ('\x08', 'b'), ('\t', 't'), ('\n', 'n'), ('\r', 'r'), ('\x1a', 'Z'), ('"', '"')]

/-- How a character is written between single quotes. -/
inductive Written : Char → List Char → Prop where
  | plain {c : Char} (noQuote : c ≠ '\'') (noBackslash : c ≠ '\\') (noDouble : c ≠ '"') :
    Written c [c]
  | quote : Written '\'' ['\\', '\'']
  | backslash : Written '\\' ['\\', '\\']
  | escape {c e : Char} (listed : (c, e) ∈ escapes) : Written c ['\\', e]

/-- Each character is written in one of these ways. -/
theorem written_stringChar (c : Char) : Written c (stringChar c) := by
  by_cases quote : c = '\''
  · subst c
    exact .quote
  by_cases backslash : c = '\\'
  · subst c
    exact .backslash
  unfold stringChar
  simp only [quote, backslash, if_false]
  -- The seven characters with an escape of their own.
  split_ifs with nul backspace tab feed ret sub double
  case neg => exact .plain quote backslash double
  all_goals
    subst c
    exact .escape (by decide)

/-! ## §2 Doubled quotes -/

/-- A text with each quote behind a backslash doubled and the backslash left out. -/
def quotesDoubled (s : List Char) : List Char := replacePair '\\' '\'' ['\'', '\''] s

/-- The normal form of a character of a text between quotes. -/
def normalChar (c : Char) : List Char := if c = '\'' then ['\'', '\''] else lower (stringChar c)

/-- The normal form of a text up to its closing quote.  Behind a backslash the closing quote is
doubled, too, and the second backslash left out. -/
def normalContents : List Char → List Char
  | [] => ['\'']
  | c :: s => if c = '\\' ∧ s = [] then ['\\', '\'', '\''] else normalChar c ++ normalContents s

/-- The normal form of a text between quotes. -/
def normalValue (v : List Char) : List Char := '\'' :: normalContents v

/-- What a character is written as does not begin with a quote. -/
theorem head?_lower_stringChar_ne (c : Char) (rest : List Char) :
    (lower (stringChar c) ++ rest).head? ≠ some '\'' := by
  have written := written_stringChar c
  -- A quote is written behind a backslash.
  generalize stringChar c = s at written ⊢
  cases written with
  | plain noQuote noBackslash noDouble =>
    intro same
    exact noQuote (Text.eq_of_toLower_eq rfl (Option.some.inj same))
  | quote => simp [lower]
  | backslash => simp [lower]
  | escape listed => simp [lower]

/-- A character is brought to its normal form by itself, unless it is a backslash before a quote. -/
theorem quotesDoubled_stringChar {c : Char} {rest : List Char}
    (apart : c = '\\' → rest.head? ≠ some '\'') :
    quotesDoubled (lower (stringChar c) ++ rest) = normalChar c ++ quotesDoubled rest := by
  have written := written_stringChar c
  unfold normalChar
  generalize stringChar c = s at written ⊢
  cases written with
  | plain noQuote noBackslash noDouble =>
    have noBackslash' : c.toLower ≠ '\\' := fun same => noBackslash (Text.eq_of_toLower_eq rfl same)
    rw [if_neg noQuote]
    exact Text.replacePair_cons_of_ne noBackslash'
  | quote => exact Text.replacePair_pair
  | backslash =>
    show replacePair '\\' '\'' ['\'', '\''] ('\\' :: '\\' :: rest) = _
    rw [Text.replacePair_cons_of_head?_ne (by simp), Text.replacePair_cons_of_head?_ne (apart rfl)]
    rfl
  | @escape c e listed =>
    -- An escape is written with a backslash, but no quote follows it.
    have others : ∀ pair ∈ escapes,
        pair.1 ≠ '\'' ∧ pair.2.toLower ≠ '\'' ∧ pair.2.toLower ≠ '\\' := by decide
    obtain ⟨noQuote, escapeNoQuote, escapeNoBackslash⟩ := others _ listed
    rw [if_neg noQuote]
    show replacePair '\\' '\'' ['\'', '\''] ('\\' :: e.toLower :: rest) =
        '\\' :: e.toLower :: quotesDoubled rest
    rw [Text.replacePair_cons_of_head?_ne (by simpa using escapeNoQuote),
      Text.replacePair_cons_of_ne escapeNoBackslash]
    rfl

/-- A text between quotes is brought to its normal form up to its closing quote. -/
theorem quotesDoubled_contents (v rest : List Char) :
    quotesDoubled (lower (v.flatMap stringChar) ++ '\'' :: rest) =
      normalContents v ++ quotesDoubled rest := by
  induction v with
  | nil => exact Text.replacePair_cons_of_ne (by decide)
  | cons c v ih =>
    rw [List.flatMap_cons, Text.lower_append, List.append_assoc, normalContents]
    split
    case isTrue last =>
      -- The second backslash and the closing quote are a pair.
      obtain ⟨rfl, rfl⟩ := last
      show replacePair '\\' '\'' ['\'', '\''] ('\\' :: '\\' :: '\'' :: rest) = _
      rw [Text.replacePair_cons_of_head?_ne (by simp), Text.replacePair_pair]
      rfl
    case isFalse notLast =>
      have apart : c = '\\' → (lower (v.flatMap stringChar) ++ '\'' :: rest).head? ≠ some '\'' := by
        intro backslash
        cases v with
        | nil => exact absurd ⟨backslash, rfl⟩ notLast
        | cons d v =>
          rw [List.flatMap_cons, Text.lower_append, List.append_assoc]
          exact head?_lower_stringChar_ne d _
      rw [quotesDoubled_stringChar apart, ih, List.append_assoc]

/-- A text between quotes is brought to its normal form, with both quotes. -/
theorem quotesDoubled_value (v rest : List Char) :
    quotesDoubled (lower (stringChars v) ++ rest) = normalValue v ++ quotesDoubled rest := by
  have text : lower (stringChars v) ++ rest =
      '\'' :: (lower (v.flatMap stringChar) ++ '\'' :: rest) := by
    simp [stringChars, lower]
  rw [text, normalValue, List.cons_append, ← quotesDoubled_contents]
  exact Text.replacePair_cons_of_ne (by decide)

/-- The values of a list are brought to their normal forms one by one. -/
theorem quotesDoubled_values (values : List String) (rest : List Char) :
    quotesDoubled ([','].intercalate (values.map fun v => lower (stringChars v.toList)) ++ rest) =
      [','].intercalate (values.map fun v => normalValue v.toList) ++ quotesDoubled rest := by
  induction values with
  | nil => rfl
  | cons v values ih =>
    cases values with
    | nil => simpa using quotesDoubled_value v.toList rest
    | cons w values =>
      -- The comma between two values starts no pair.
      have comma (s : List Char) : quotesDoubled (',' :: s) = ',' :: quotesDoubled s :=
        Text.replacePair_cons_of_ne (by decide)
      simp only [List.map_cons, List.intercalate_cons_cons, List.append_assoc,
        List.singleton_append] at ih ⊢
      rw [quotesDoubled_value, List.cons_append, comma, ih, List.cons_append]

/-- Parentheses and commas have no letter case. -/
theorem lower_parenthesised (items : List (List Char)) :
    lower (parenthesised items) = parenthesised (items.map lower) := by
  -- By induction, as commas stand between items only.
  have commas : lower ([','].intercalate items) = [','].intercalate (items.map lower) := by
    induction items with
    | nil => rfl
    | cons item items ih =>
      cases items with
      | nil => simp
      | cons other items =>
        simp only [List.map_cons, List.intercalate_cons_cons, Text.lower_append] at ih ⊢
        rw [ih]
        rfl
  show lower ('(' :: ([','].intercalate items ++ [')'])) = _
  rw [← List.singleton_append, Text.lower_append, Text.lower_append, commas]
  rfl

/-! ## §3 Types -/

theorem getLast?_parenthesised (start : List Char) (items : List (List Char)) :
    (start ++ parenthesised items).getLast? = some ')' := by
  show (start ++ ('(' :: [','].intercalate items ++ [')'])).getLast? = _
  rw [← List.append_assoc, List.getLast?_append, List.getLast?_singleton, Option.some_or]

/-- A type that ends with a parenthesis has no blanks around it. -/
theorem trim_parenthesised {name : List Char} (noBlank : name.all (fun c => !Text.isBlank c) = true)
    (items : List (List Char)) :
    Text.trim (name ++ parenthesised items) = name ++ parenthesised items := by
  -- A name has no blank, and the text ends in a bracket.
  apply Text.trim_of_ends
  · intro c first
    cases name with
    | nil =>
      obtain rfl := Option.some.inj first
      decide
    | cons d name =>
      obtain rfl := Option.some.inj first
      simpa using List.all_eq_true.1 noBlank d (List.mem_cons_self ..)
  · intro c last
    rw [getLast?_parenthesised] at last
    obtain rfl := Option.some.inj last
    decide

/-- **A list of allowed texts is normalized text by text.** -/
theorem normalizeType_enumeration (values : List String) :
    normalizeType (Sql.ColumnType.enumeration values).text =
      "enum".toList ++ parenthesised (values.map fun v => normalValue v.toList) := by
  have text : (Sql.ColumnType.enumeration values).text.toList =
      "ENUM".toList ++ parenthesised (values.map fun v => stringChars v.toList) :=
        String.toList_ofList
  have doubled : quotesDoubled
      (lower ("ENUM".toList ++ parenthesised (values.map fun v => stringChars v.toList))) =
      "enum".toList ++ parenthesised (values.map fun v => normalValue v.toList) := by
    have opening : '\\' ∉ "enum(".toList := by decide
    rw [Text.lower_append, lower_parenthesised, List.map_map]
    -- Nothing is rewritten up to the opening parenthesis, and from there value by value.
    calc quotesDoubled (lower "ENUM".toList ++
        parenthesised (values.map (lower ∘ fun v => stringChars v.toList)))
      _ = quotesDoubled ("enum(".toList ++
            ([','].intercalate (values.map fun v => lower (stringChars v.toList)) ++ [')'])) := rfl
      _ = "enum(".toList ++ quotesDoubled
            ([','].intercalate (values.map fun v => lower (stringChars v.toList)) ++ [')']) :=
          Text.replacePair_append_of_not_mem opening _
      _ = "enum(".toList ++
        ([','].intercalate (values.map fun v => normalValue v.toList) ++ [')']) := by
          rw [quotesDoubled_values]
          rfl
      _ = "enum".toList ++ parenthesised (values.map fun v => normalValue v.toList) := rfl
  show withoutWidth
      (quotesDoubled (lower (Text.trim (Sql.ColumnType.enumeration values).text.toList))) = _
  rw [text, trim_parenthesised (by decide), doubled]
  rfl

/-- The names of the integer types. -/
def integerNames : List String := ["tinyint", "smallint", "mediumint", "bigint", "integer", "int"]

/-- The names of the other types of numbers, but for those of single precision. -/
def decimalNames : List String := ["decimal", "numeric", "double", "real"]

/-- The numbers of a type in parentheses, if there are any. -/
def argumentChars (arguments : List Nat) : List Char :=
  if arguments.isEmpty then [] else parenthesised (arguments.map Decimal.natChars)

/-- What follows the type of numbers without sign, in lower case. -/
def signChars (unsigned : Bool) : List Char := if unsigned then " unsigned".toList else []

/-- The normal form of a type of numbers. -/
def numberForm (name : String) (arguments : List Nat) (unsigned : Bool) : List Char :=
  name.toList ++ (if name ∈ integerNames then [] else argumentChars arguments) ++ signChars unsigned

/-- The characters of a list are those of its items, besides parentheses and commas. -/
theorem mem_parenthesised_iff {items : List (List Char)} {c : Char} (noMark : c ∉ ['(', ',', ')']) :
    c ∈ parenthesised items ↔ ∃ item ∈ items, c ∈ item := by
  simp only [List.mem_cons, List.not_mem_nil, or_false, not_or] at noMark
  obtain ⟨noOpening, noComma, noClosing⟩ := noMark
  -- No mark of the list can be the character.
  have inside : c ∈ [','].intercalate items ↔ ∃ item ∈ items, c ∈ item := by
    induction items with
    | nil => simp
    | cons item items ih =>
      cases items with
      | nil => simp
      | cons other items =>
        simp only [List.intercalate_cons_cons, List.mem_append, List.mem_singleton, noComma,
          or_false, ih]
        simp
  simp [parenthesised, noOpening, noClosing, inside]

/-- The numbers of a type have no blanks, capitals or backslashes. -/
theorem plain_of_mem_argumentChars {arguments : List Nat} {c : Char}
    (h : c ∈ argumentChars arguments) :
    Text.isBlank c = false ∧ c.toLower = c ∧ c ≠ '\\' := by
  unfold argumentChars at h
  split at h
  case isTrue => cases h
  case isFalse =>
    -- A mark of the list, or a digit of one of its numbers.
    by_cases mark : c ∈ ['(', ',', ')']
    · simp only [List.mem_cons, List.not_mem_nil, or_false] at mark
      rcases mark with rfl | rfl | rfl <;> decide
    · obtain ⟨item, listed, digit⟩ := (mem_parenthesised_iff mark).1 h
      obtain ⟨n, -, rfl⟩ := List.mem_map.1 listed
      obtain ⟨d, rfl⟩ := Numeral.exists_digitChar_of_isDigit (Decimal.isDigit_of_mem_natChars digit)
      have digits : ∀ d : Fin 10, Text.isBlank (Decimal.digitChar d) = false ∧
          (Decimal.digitChar d).toLower = Decimal.digitChar d ∧ Decimal.digitChar d ≠ '\\' := by
            decide
      exact digits d

theorem lower_arguments (arguments : List Nat) :
    lower (argumentChars arguments) = argumentChars arguments := by
  rw [lower, List.map_congr_left fun c h => (plain_of_mem_argumentChars h).2.1]
  exact List.map_id' _

/-- Digits in parentheses behind the name of an integer type are left out. -/
theorem withoutWidth_of_arguments {name : String} (integer : name ∈ integerNames)
    {width : List Char} (digits : ∀ c ∈ width, Numeral.isDigit c = true) (rest : List Char) :
    withoutWidth (name.toList ++ '(' :: (width ++ ')' :: rest)) = name.toList ++ rest := by
  have found : integerArguments? integerTypes (name.toList ++ '(' :: (width ++ ')' :: rest)) =
      some (name.toList, width ++ ')' :: rest) := by
    simp only [integerNames, List.mem_cons, List.not_mem_nil, or_false] at integer
    rcases integer with rfl | rfl | rfl | rfl | rfl | rfl <;> rfl
  have inside : ∀ c ∈ width, (c != ')') = true := by
    intro c h
    rw [bne_iff_ne]
    rintro rfl
    cases digits _ h
  -- The width ends at the bracket.
  have stop : ∀ c ∈ (')' :: rest).head?, (c != ')') = false := by
    rintro c ⟨⟩
    rfl
  rw [withoutWidth, found]
  simp only [Text.takeWhile_append_stop inside stop, Text.dropWhile_append_stop inside stop]
  rw [if_pos (List.all_eq_true.2 digits)]

/-- An integer type loses its display width, if it has one. -/
theorem withoutWidth_of_integer {name : String} (integer : name ∈ integerNames)
    {arguments : List Nat} (atMostOne : arguments.length ≤ 1) (unsigned : Bool) :
    withoutWidth (name.toList ++ argumentChars arguments ++ signChars unsigned) =
      name.toList ++ signChars unsigned := by
  -- Without arguments there is nothing to leave out.
  match arguments with
  | [] =>
    simp only [integerNames, List.mem_cons, List.not_mem_nil, or_false] at integer
    rcases integer with rfl | rfl | rfl | rfl | rfl | rfl <;> cases unsigned <;> rfl
  | [width] =>
    have text : name.toList ++ argumentChars [width] ++ signChars unsigned =
        name.toList ++ '(' :: (Decimal.natChars width ++ ')' :: signChars unsigned) := by
      simp [argumentChars, parenthesised]
    rw [text, withoutWidth_of_arguments integer fun c => Decimal.isDigit_of_mem_natChars]
  | _ :: _ :: _ => simp at atMostOne

/-- Types of other numbers keep what is in parentheses. -/
theorem withoutWidth_of_decimal {name : String} (decimal : name ∈ decimalNames) (rest : List Char) :
    withoutWidth (name.toList ++ rest) = name.toList ++ rest := by
  simp only [decimalNames, List.mem_cons, List.not_mem_nil, or_false] at decimal
  rcases decimal with rfl | rfl | rfl | rfl <;> rfl

/-- The name and the numbers of a type have no blanks or backslashes. -/
theorem plain_of_mem_number {name : String} (listed : name ∈ integerNames ++ decimalNames)
    (arguments : List Nat) :
    ∀ c ∈ name.toList ++ argumentChars arguments, Text.isBlank c = false ∧ c ≠ '\\' := by
  have names : ∀ name ∈ integerNames ++ decimalNames,
      name.toList.all (fun c => !Text.isBlank c && c != '\\') = true := by decide
  intro c h
  rcases List.mem_append.1 h with letter | argument
  · simpa using List.all_eq_true.1 (names name listed) c letter
  · obtain ⟨noBlank, -, noBackslash⟩ := plain_of_mem_argumentChars argument
    exact ⟨noBlank, noBackslash⟩

theorem lower_number {name : String} (listed : name ∈ integerNames ++ decimalNames)
    (arguments : List Nat) (unsigned : Bool) :
    lower (name.toList ++ argumentChars arguments ++ signChars unsigned) =
      name.toList ++ argumentChars arguments ++ signChars unsigned := by
  have names : ∀ name ∈ integerNames ++ decimalNames, lower name.toList = name.toList := by decide
  rw [Text.lower_append, Text.lower_append, names name listed, lower_arguments]
  cases unsigned <;> rfl

/-- A type of numbers has no blanks around it. -/
theorem trim_number {name : String} (listed : name ∈ integerNames ++ decimalNames)
    (arguments : List Nat) (unsigned : Bool) :
    Text.trim (name.toList ++ argumentChars arguments ++ signChars unsigned) =
      name.toList ++ argumentChars arguments ++ signChars unsigned := by
  -- It begins with a letter and ends with one or with a parenthesis.
  have plain := plain_of_mem_number listed arguments
  have nonempty : ∀ name ∈ integerNames ++ decimalNames, name.toList ≠ [] := by decide
  obtain ⟨d, s, text⟩ := List.exists_cons_of_ne_nil (nonempty name listed)
  apply Text.trim_of_ends
  · intro c first
    rw [text] at first plain
    obtain rfl := Option.some.inj first
    exact (plain _ (List.mem_cons_self ..)).1
  · intro c last
    cases unsigned with
    | true =>
      rw [List.getLast?_append] at last
      obtain rfl := Option.some.inj last
      decide
    | false =>
      rw [signChars, if_neg Bool.false_ne_true, List.append_nil] at last
      exact (plain c (List.mem_of_getLast? last)).1

/-- **Types of numbers lose the display width of integers and no more.** -/
theorem normalizeType_number {type name : String} (listed : name ∈ integerNames ++ decimalNames)
    {arguments : List Nat} (atMostOne : name ∈ integerNames → arguments.length ≤ 1)
    {unsigned : Bool}
    (text : lower type.toList = name.toList ++ argumentChars arguments ++ signChars unsigned) :
    normalizeType type = numberForm name arguments unsigned := by
  -- No quote is doubled, since nothing is escaped.
  have noBackslash : '\\' ∉ name.toList ++ argumentChars arguments ++ signChars unsigned := by
    intro h
    rcases List.mem_append.1 h with h | h
    · exact (plain_of_mem_number listed arguments _ h).2 rfl
    · revert h
      cases unsigned <;> decide
  have normal : normalizeType type =
      withoutWidth (name.toList ++ argumentChars arguments ++ signChars unsigned) := by
    show withoutWidth (quotesDoubled (lower (Text.trim type.toList))) = _
    rw [← Text.trim_lower, text, trim_number listed, quotesDoubled,
      Text.replacePair_of_not_mem noBackslash]
  rw [normal, numberForm]
  by_cases integer : name ∈ integerNames
  · rw [withoutWidth_of_integer integer (atMostOne integer), if_pos integer, List.append_nil]
  · have decimal : name ∈ decimalNames := (List.mem_append.1 listed).resolve_left integer
    rw [if_neg integer, List.append_assoc, withoutWidth_of_decimal decimal]

end TableMapper.Reconcile
