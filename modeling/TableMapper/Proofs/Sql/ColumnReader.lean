import TableMapper.Proofs.Sql.TablePieces
import TableMapper.Proofs.Text.Cutting

/-!
# Definitions of columns are read

What follows the name of a column in a statement, read by the server from the text alone: a type,
perhaps a character set and a collation, and whether the column takes NULL.

- `readDefinition?` reads a definition.  Its type is the text that was read as one; a definition
  that says neither `NULL` nor `NOT NULL` is refused.
- Names of types, character sets and collations may be declared, and are then written as they are,
  whatever characters they have.  `DeclaredWords` tells the reader these words, and nothing else.
- `readDefinition?_chars` and `readDefinition?_id` say what is read from the definitions that are
  written.
-/

namespace TableMapper

namespace Sql

/-! ## §1 Skipping words and lists -/

/-- The text after the first of the words that it begins with, or the text itself. -/
def skipOneOf (words : List String) (s : List Char) : List Char :=
  (words.findSome? fun word => Text.after? word.toList s).getD s

/-- A text that begins with none of the words is left as it is. -/
theorem skipOneOf_of_none {words : List String} {s : List Char}
    (none : ∀ word ∈ words, Text.after? word.toList s = .none) : skipOneOf words s = s := by
  rw [skipOneOf, List.findSome?_eq_none_iff.2 none]
  rfl

/-- Words that begin with a space are not found where none stands. -/
theorem skipOneOf_of_space {words : List String} {s : List Char}
    (spaced : ∀ word ∈ words, word.toList.head? = some ' ') (stop : s.head? ≠ some ' ') :
    skipOneOf words s = s := by
  apply skipOneOf_of_none
  intro word listed
  obtain ⟨pattern, text⟩ := List.head?_eq_some_iff.1 (spaced word listed)
  rw [text]
  exact Text.after?_of_head?_ne stop

/-- The text behind the parenthesis that closes a list; those inside string literals do not
count. -/
def afterList? (s : List Char) : Option (List Char) :=
  match s with
  | [] => none
  | c :: rest =>
    if c = ')' then some rest
    else if c = '\'' then
      match _ : readString? (c :: rest) with
      | some (_, after) => afterList? after
      | none => none
    else afterList? rest
termination_by s.length
decreasing_by
  · exact length_lt_of_readString? ‹_›
  · exact Nat.lt_succ_self _

/-- The list goes on behind the text `item` as if it were not there. -/
def Skipped (item : List Char) : Prop :=
  ∀ rest, rest.head? ≠ some '\'' → afterList? (item ++ rest) = afterList? rest

/-- Characters that neither close the list nor open a string literal are skipped. -/
theorem skipped_of_plain {item : List Char} (plain : ∀ c ∈ item, c ≠ ')' ∧ c ≠ '\'') :
    Skipped item := by
  intro rest _
  induction item with
  | nil => rfl
  | cons c item ih =>
    obtain ⟨⟨notEnd, notQuote⟩, others⟩ := List.forall_mem_cons.1 plain
    rw [List.cons_append, afterList?, if_neg notEnd, if_neg notQuote, ih others]

/-- The digits of a number are skipped. -/
theorem skipped_natChars (n : Nat) : Skipped (Decimal.natChars n) := by
  apply skipped_of_plain
  intro c listed
  have digit := Decimal.isDigit_of_mem_natChars listed
  constructor <;> rintro rfl <;> cases digit

/-- A string literal is skipped, whatever its text is. -/
theorem skipped_stringChars (s : List Char) : Skipped (stringChars s) := by
  intro rest stop
  have read := readString?_stringChars s stop
  obtain ⟨tail, text⟩ : ∃ tail, stringChars s ++ rest = '\'' :: tail := ⟨_, rfl⟩
  rw [text] at read ⊢
  -- At a quote the whole string is passed.
  rw [afterList?, if_neg (by decide), if_pos rfl]
  split
  case h_1 found =>
    cases found.symm.trans read
    rfl
  case h_2 none => cases none.symm.trans read

/-- A list of such items is skipped up to its closing parenthesis. -/
theorem afterList?_items {items : List (List Char)} (each : ∀ item ∈ items, Skipped item)
    (rest : List Char) : afterList? ([','].intercalate items ++ ')' :: rest) = some rest := by
  have closed : afterList? (')' :: rest) = some rest := by rw [afterList?, if_pos rfl]
  induction items with
  | nil => exact closed
  | cons item items ih =>
    obtain ⟨first, others⟩ := List.forall_mem_cons.1 each
    -- The last item is followed by the parenthesis, and any other by a comma.
    cases items with
    | nil => simpa using (first _ (by simp)).trans closed
    | cons item' items =>
      have comma : ∀ s, afterList? (',' :: s) = afterList? s := by
        intro s
        rw [afterList?, if_neg (by decide), if_neg (by decide)]
      have text : [','].intercalate (item :: item' :: items) ++ ')' :: rest =
          item ++ (',' :: ([','].intercalate (item' :: items) ++ ')' :: rest)) := by
        simp
      rw [text, first _ (by simp), comma, ih others]

/-! ## §2 Reading definitions -/

/-- The words of a definition that are written as they were declared: the name of the type, the
character set and the collation. -/
structure DeclaredWords where
  type : Option String
  charset : Option String
  collation : Option String

namespace DeclaredWords

/-- A column none of whose words was declared. -/
def absent : DeclaredWords := ⟨none, none, none⟩

/-- The words of a property.  Names of types are in upper case in statements. -/
def ofProperty (p : Property) : DeclaredWords where
  type := if p.type.hasStorageType then p.dataType.map Text.upperCase else none
  charset := p.charset
  collation := p.collation

end DeclaredWords

/-- The text behind the name of a type: behind the declared word, or behind a run of capital
letters. -/
def afterTypeName? (word : Option String) (s : List Char) : Option (List Char) :=
  match word with
  | some word => Text.after? word.toList s
  | none => some (s.dropWhile Char.isUpper)

/-- The text behind a list in parentheses, if there is one. -/
def afterArguments? (s : List Char) : Option (List Char) :=
  match s with
  | '(' :: s => afterList? s
  | s => some s

/-- The text behind a type: its name, perhaps a list, and perhaps that numbers have no sign. -/
def afterType? (word : Option String) (s : List Char) : Option (List Char) := do
  let s ← afterTypeName? word s
  let s ← afterArguments? s
  some (skipOneOf [" UNSIGNED"] s)

/-- The text behind a keyword and the declared word, or the text itself if it does not begin with
the keyword. -/
def afterOption? (keyword : String) (word : Option String) (s : List Char) : Option (List Char) :=
  match Text.after? keyword.toList s with
  | none => some s
  | some s => word.bind fun word => Text.after? word.toList s

/-- Whether a column takes NULL, and the rest of the text. -/
def readNullable? (s : List Char) : Option (Bool × List Char) :=
  match Text.after? " NOT NULL".toList s with
  | some s => some (false, s)
  | none => (Text.after? " NULL".toList s).map fun s => (true, s)

/-- What stands behind a type: perhaps a character set and a collation, and whether the column takes
NULL; and the rest of the text. -/
def readOptions? (words : DeclaredWords) (s : List Char) : Option (Bool × List Char) := do
  let s ← afterOption? " CHARACTER SET " words.charset s
  let s ← afterOption? " COLLATE " words.collation s
  readNullable? s

/-- The definition of a column at the beginning of a text: its type as it is written there, whether
the column takes NULL, and the rest.  That the server counts is said last and does not matter. -/
def readDefinition? (words : DeclaredWords) (s : List Char) :
    Option ((String × Bool) × List Char) := do
  let behind ← afterType? words.type s
  let type := String.ofList (s.take (s.length - behind.length))
  let (nullable, rest) ← readOptions? words behind
  some ((type, nullable), skipOneOf [" AUTO_INCREMENT"] rest)

/-! ## §3 Types are read -/

/-- The name of a type is the declared word, or consists of capital letters if none was declared. -/
def ColumnType.NamedBy (type : ColumnType) (word : Option String) : Prop :=
  match type with
  | .named name _ _ => word = some name ∨ word = none ∧ name.toList.all Char.isUpper = true
  | .enumeration _ => word = none

/-- What follows a type: a space and a word other than `UNSIGNED`. -/
def FollowsType (rest : List Char) : Prop := ∃ c s, rest = ' ' :: c :: s ∧ c ≠ 'U'

/-- A name is read up to what is no capital letter. -/
theorem afterTypeName?_append {name : String} {word : Option String}
    (named : word = some name ∨ word = none ∧ name.toList.all Char.isUpper = true)
    {rest : List Char} (stop : ∀ c ∈ rest.head?, c.isUpper = false) :
    afterTypeName? word (name.toList ++ rest) = some rest := by
  rcases named with rfl | ⟨rfl, capitals⟩
  · exact Text.after?_append name.toList rest
  · exact congrArg some (Text.dropWhile_append_stop (List.all_eq_true.1 capitals) stop)

/-- Behind a type, whatever stands there is left. -/
theorem skipOneOf_sign (unsigned : Bool) {rest : List Char} (follows : FollowsType rest) :
    skipOneOf [" UNSIGNED"] ((if unsigned then " UNSIGNED".toList else []) ++ rest) = rest := by
  cases unsigned with
  | true => rfl
  | false =>
    obtain ⟨c, s, rfl, other⟩ := follows
    apply skipOneOf_of_none
    intro word listed
    rw [List.mem_singleton.1 listed]
    simp [Text.after?, Ne.symm other]

/-- A list of items that are skipped is read as arguments. -/
theorem afterArguments?_parenthesised {items : List (List Char)}
    (each : ∀ item ∈ items, Skipped item) (rest : List Char) :
    afterArguments? (ColumnType.parenthesised items ++ rest) = some rest := by
  have text : ColumnType.parenthesised items ++ rest =
      '(' :: ([','].intercalate items ++ ')' :: rest) := by
    simp [ColumnType.parenthesised]
  rw [text]
  exact afterList?_items each rest

/-- What stands behind the name of a type: perhaps arguments, and perhaps the sign. -/
def behindName (arguments : List Nat) (unsigned : Bool) : List Char :=
  (if arguments.isEmpty then [] else
    ColumnType.parenthesised (arguments.map Decimal.natChars)) ++
      if unsigned then " UNSIGNED".toList else []

/-- What stands behind the name of a type ends the name, and is read up to its own end. -/
theorem afterArguments?_behindName (arguments : List Nat) (unsigned : Bool) {rest : List Char}
    (follows : FollowsType rest) :
    (∀ c ∈ (behindName arguments unsigned ++ rest).head?, c.isUpper = false) ∧
      (afterArguments? (behindName arguments unsigned ++ rest)).map (skipOneOf [" UNSIGNED"]) =
        some rest := by
  have sign := skipOneOf_sign unsigned follows
  obtain ⟨s, spaced⟩ : ∃ s, (if unsigned then " UNSIGNED".toList else []) ++ rest = ' ' :: s := by
    obtain ⟨c, s, rfl, -⟩ := follows
    cases unsigned <;> exact ⟨_, rfl⟩
  cases arguments with
  | nil =>
    -- There is no list, and the space is no parenthesis.
    have text : behindName [] unsigned ++ rest =
        (if unsigned then " UNSIGNED".toList else []) ++ rest := rfl
    rw [text, spaced]
    rw [spaced] at sign
    exact ⟨by rintro _ ⟨⟩; rfl, congrArg some sign⟩
  | cons n arguments =>
    have text : behindName (n :: arguments) unsigned ++ rest =
        ColumnType.parenthesised ((n :: arguments).map Decimal.natChars) ++
          ((if unsigned then " UNSIGNED".toList else []) ++ rest) := List.append_assoc ..
    have numbers : ∀ item ∈ (n :: arguments).map Decimal.natChars, Skipped item :=
      List.forall_mem_map.2 fun n _ => skipped_natChars n
    rw [text, afterArguments?_parenthesised numbers, Option.map_some, sign]
    exact ⟨by rintro _ ⟨⟩; rfl, rfl⟩

/-- **A type is read as far as it was written.** -/
theorem afterType?_chars {type : ColumnType} {word : Option String} (named : type.NamedBy word)
    {rest : List Char} (follows : FollowsType rest) :
    afterType? word (type.chars ++ rest) = some rest := by
  -- A named type reads its name, an enumeration its word.
  cases type with
  | named name arguments unsigned =>
    obtain ⟨stop, read⟩ := afterArguments?_behindName arguments unsigned follows
    have text : (ColumnType.named name arguments unsigned).chars ++ rest =
        name.toList ++ (behindName arguments unsigned ++ rest) := by
      rw [ColumnType.chars, behindName, List.append_assoc, List.append_assoc, List.append_assoc]
    rw [afterType?, text, afterTypeName?_append named stop, Option.bind_eq_bind, Option.bind_some,
      ← read]
    exact (Option.map_eq_bind ..).symm
  | enumeration values =>
    obtain rfl : word = none := named
    have texts : ∀ item ∈ values.map fun v => stringChars v.toList, Skipped item :=
      List.forall_mem_map.2 fun v _ => skipped_stringChars v.toList
    have name : afterTypeName? none ("ENUM".toList ++
        (ColumnType.parenthesised (values.map fun v => stringChars v.toList) ++ rest)) = some _ :=
      afterTypeName?_append (.inr ⟨rfl, by decide⟩) (by rintro _ ⟨⟩; rfl)
    have sign : skipOneOf [" UNSIGNED"] rest = rest := skipOneOf_sign false follows
    rw [afterType?, ColumnType.chars, List.append_assoc, name, Option.bind_eq_bind,
      Option.bind_some, afterArguments?_parenthesised texts]
    exact congrArg some sign

/-! ## §4 The types of properties -/

/-- A type whose name was declared, or is a default in capital letters. -/
theorem namedBy_of_storageName {type : ColumnType} {p : Property} {default : String}
    (name : type.name? = some (ColumnType.storageName p default))
    (capitals : default.toList.all Char.isUpper = true) :
    type.NamedBy (p.dataType.map Text.upperCase) := by
  cases type with
  | enumeration values => cases name
  | named own arguments unsigned =>
    obtain rfl := Option.some.inj name
    -- The declared word, or the default in capitals.
    cases declared : p.dataType with
    | none => exact .inr ⟨rfl, by simpa [ColumnType.storageName, declared] using capitals⟩
    | some word => exact .inl (by simp [ColumnType.storageName, declared])

/-- **The name of a property's type is its declared word, or there is none.** -/
theorem namedBy_ofProperty (p : Property) :
    (ColumnType.ofProperty p).NamedBy (DeclaredWords.ofProperty p).type := by
  unfold ColumnType.ofProperty DeclaredWords.ofProperty
  -- The types with a storage name, the fixed ones and the enumeration.
  cases p.type with
  | string | text | json | date => exact namedBy_of_storageName (name?_sized _ _) (by decide)
  | number => exact namedBy_of_storageName (name?_numeric _ _) (by decide)
  | boolean | point | array => exact .inr ⟨rfl, by decide⟩
  | enumeration => exact rfl

/-! ## §5 Definitions are read -/

/-- A keyword is read with the word behind it, and what does not begin with it is left as it is. -/
theorem afterOption?_option (keyword : String) {word declared : Option String}
    (known : ∀ w ∈ word, declared = some w) {rest : List Char}
    (other : Text.after? keyword.toList rest = none) :
    afterOption? keyword declared (ColumnDefinition.option keyword word ++ rest) = some rest := by
  -- An absent option is not mistaken for what follows.
  cases word with
  | none =>
    show afterOption? keyword declared rest = some rest
    rw [afterOption?, other]
  | some w =>
    show afterOption? keyword declared (keyword.toList ++ w.toList ++ rest) = some rest
    rw [afterOption?, List.append_assoc, Text.after?_append, known w rfl]
    exact Text.after?_append w.toList rest

/-- What is said of NULL is read. -/
theorem readNullable?_chars (notNull : Bool) (rest : List Char) :
    readNullable? ((if notNull then " NOT NULL" else " NULL").toList ++ rest) =
      some (!notNull, rest) := by
  cases notNull <;> rfl

/-- What stands behind the type of a definition, and then the rest of the text. -/
def ColumnDefinition.behindType (d : ColumnDefinition) (rest : List Char) : List Char :=
  option " CHARACTER SET " d.charset ++ (option " COLLATE " d.collation ++
    ((if d.notNull then " NOT NULL" else " NULL").toList ++ rest))

/-- A definition is its type and what stands behind it. -/
theorem ColumnDefinition.chars_append (d : ColumnDefinition) (rest : List Char) :
    d.chars ++ rest = d.type.chars ++ d.behindType rest := by
  simp only [chars, behindType, List.append_assoc]

/-- No part of a definition behind its type can be taken for the sign. -/
theorem ColumnDefinition.followsType_behindType (d : ColumnDefinition) (rest : List Char) :
    FollowsType (d.behindType rest) := by
  obtain ⟨type, charset, collation, notNull⟩ := d
  -- Whatever option comes first, it begins with a space and a letter.
  cases charset with
  | some w => exact ⟨'C', _, rfl, by decide⟩
  | none =>
    cases collation with
    | some w => exact ⟨'C', _, rfl, by decide⟩
    | none =>
      cases notNull with
      | true => exact ⟨'N', "OT NULL".toList ++ rest, by simp [behindType, option], by decide⟩
      | false => exact ⟨'N', "ULL".toList ++ rest, by simp [behindType, option], by decide⟩

/-- What is said of NULL is found behind the character set and the collation. -/
theorem readOptions?_behindType {d : ColumnDefinition} {words : DeclaredWords}
    (charset : ∀ w ∈ d.charset, words.charset = some w)
    (collation : ∀ w ∈ d.collation, words.collation = some w) (rest : List Char) :
    readOptions? words (d.behindType rest) = some (!d.notNull, rest) := by
  have null := readNullable?_chars d.notNull rest
  -- Each keyword is told from what follows by its first two letters.
  have noCollation : Text.after? " COLLATE ".toList
      ((if d.notNull then " NOT NULL" else " NULL").toList ++ rest) = none := by
    cases d.notNull <;> rfl
  have noCharset : Text.after? " CHARACTER SET ".toList
      (ColumnDefinition.option " COLLATE " d.collation ++
        ((if d.notNull then " NOT NULL" else " NULL").toList ++ rest)) = none := by
    cases d.collation <;> cases d.notNull <;> rfl
  rw [readOptions?, ColumnDefinition.behindType, afterOption?_option _ charset noCharset]
  simp only [Option.bind_eq_bind, Option.bind_some]
  rw [afterOption?_option _ collation noCollation, Option.bind_some, null]

/-- **A definition is read from its text**: the type as it is written, and what is said of NULL. -/
theorem readDefinition?_chars {d : ColumnDefinition} {words : DeclaredWords}
    (named : d.type.NamedBy words.type) (charset : ∀ w ∈ d.charset, words.charset = some w)
    (collation : ∀ w ∈ d.collation, words.collation = some w) (rest : List Char) :
    readDefinition? words (d.chars ++ rest) =
      some ((d.type.text, !d.notNull), skipOneOf [" AUTO_INCREMENT"] rest) := by
  have behind := afterType?_chars named (d.followsType_behindType rest)
  have options := readOptions?_behindType charset collation rest
  -- The type is what has been read before the options.
  have type : (d.type.chars ++ d.behindType rest).take
      ((d.type.chars ++ d.behindType rest).length - (d.behindType rest).length) = d.type.chars := by
    simp
  rw [d.chars_append, readDefinition?, behind]
  simp only [Option.bind_eq_bind, Option.bind_some, options, type]
  rfl

/-- The definition of a property's column is read as its type and its nullability. -/
theorem readDefinition?_ofProperty (p : Property) {rest : List Char}
    (stop : rest.head? ≠ some ' ') :
    readDefinition? (.ofProperty p) ((ColumnDefinition.ofProperty p).chars ++ rest) =
      some (((ColumnType.ofProperty p).text, !p.isNotNull), rest) := by
  -- An option is written only with the declared word.
  have charset : ∀ w ∈ (ColumnDefinition.ofProperty p).charset, p.charset = some w := by
    unfold ColumnDefinition.ofProperty
    split <;> simp
  have collation : ∀ w ∈ (ColumnDefinition.ofProperty p).collation, p.collation = some w := by
    unfold ColumnDefinition.ofProperty
    split <;> simp
  have ended : skipOneOf [" AUTO_INCREMENT"] rest = rest := skipOneOf_of_space (by decide) stop
  rw [readDefinition?_chars (namedBy_ofProperty p) charset collation, ended]
  rfl

/-- The definition of the id's column as one of a column with a type of its own. -/
def IdColumn.asDefinition (id : IdColumn) : ColumnDefinition :=
  match id with
  | .uuid => ⟨.named "CHAR" [36] false, none, none, true⟩
  | .text => ⟨.named "VARCHAR" [100] false, none, none, true⟩
  | .serial => ⟨.named "INT" [11] false, none, none, true⟩

/-- The definition of the id's column is read, and that the server counts is skipped. -/
theorem readDefinition?_id (id : IdColumn) {rest : List Char}
    (stop : skipOneOf [" AUTO_INCREMENT"] rest = rest) :
    readDefinition? .absent (id.definition.toList ++ rest) = some ((id.type, false), rest) := by
  have named : id.asDefinition.type.NamedBy none := by
    cases id <;> exact .inr ⟨rfl, by decide⟩
  have noCharset : ∀ w ∈ id.asDefinition.charset, none = some w := by cases id <;> nofun
  have noCollation : ∀ w ∈ id.asDefinition.collation, none = some w := by cases id <;> nofun
  have read (rest : List Char) : readDefinition? .absent (id.asDefinition.chars ++ rest) =
      some ((id.type, false), skipOneOf [" AUTO_INCREMENT"] rest) := by
    rw [readDefinition?_chars named noCharset noCollation]
    cases id <;> rfl
  cases id with
  | uuid => exact (read rest).trans (by rw [stop])
  | text => exact (read rest).trans (by rw [stop])
  | serial =>
    -- The server counts this one.
    exact read (" AUTO_INCREMENT".toList ++ rest)

end Sql

end TableMapper
