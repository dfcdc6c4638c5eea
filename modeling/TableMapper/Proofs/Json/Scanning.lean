import Mathlib.Data.List.TakeWhile
import TableMapper.Json.Printer
import TableMapper.Json.Reader
import TableMapper.Proofs.Number.Digits

/-!
# Written pieces of documents are cut into tokens

What `JsonSyntax.scan` makes of the strings, words and numbers that documents are written with.
What it makes of one character (`scan_between_cons` to `scan_inHex_cons`) comes first, and all else
follows from that.

- A string is one token, with a unit for each of its characters (`scan_quoteChars`).
- A word or a number is one token if no other character of its kind follows (`scan_word`,
  `scan_number`).
-/

namespace TableMapper

open Numeral (isDigit digitsValue)

namespace JsonSyntax

/-! ## §1 Single characters -/

theorem scan_inWord_nil (done : List Char) :
    scan (.inWord done) [] = (wordToken? done.reverse).map ([·]) := rfl

theorem scan_inNumber_nil (done : List Char) :
    scan (.inNumber done) [] = (number? done.reverse).map ([.number ·]) := rfl

/-- Between tokens, a character begins the next state, and is a token itself or none. -/
theorem scan_between_cons (c : Char) (rest : List Char) :
    scan .between (c :: rest) =
      (begin? c).bind fun next => (scan next.2 rest).map (next.1.toList ++ ·) := by
  show (begin? c).bind (fun next => (scan next.2 rest).bind fun tokens =>
    some ([] ++ next.1.toList ++ tokens)) = _
  simp only [List.nil_append, Option.map_eq_bind]
  rfl

/-- After a token the next one begins as it would after a space. -/
theorem begin_after (token : Token) (c : Char) (rest : List Char) :
    ((begin? c).bind fun next => (scan next.2 rest).bind fun tokens =>
      some ((some token).toList ++ next.1.toList ++ tokens)) =
        (scan .between (c :: rest)).map (token :: ·) := by
  rw [scan_between_cons]
  cases begin? c with
  | none => rfl
  | some next => cases after : scan next.2 rest <;> simp [after]

/-- In a word, a character belongs to it or ends it. -/
theorem scan_inWord_cons (done : List Char) (c : Char) (rest : List Char) :
    scan (.inWord done) (c :: rest) =
      if isWordChar c then scan (.inWord (c :: done)) rest
      else (wordToken? done.reverse).bind fun token =>
        (scan .between (c :: rest)).map (token :: ·) := by
  simp only [← begin_after]
  rfl

/-- In a number, a character belongs to it or ends it. -/
theorem scan_inNumber_cons (done : List Char) (c : Char) (rest : List Char) :
    scan (.inNumber done) (c :: rest) =
      if isNumberChar c then scan (.inNumber (c :: done)) rest
      else (number? done.reverse).bind fun n =>
        (scan .between (c :: rest)).map (.number n :: ·) := by
  simp only [← begin_after]
  rfl

/-- In a string, a character ends it, begins an escape, is refused or stands for itself. -/
theorem scan_inString_cons (done : List StringUnit) (c : Char) (rest : List Char) :
    scan (.inString done) (c :: rest) =
      if c = '"' then (scan .between rest).map (Token.string done.reverse :: ·)
      else if c = '\\' then scan (.inEscape done) rest
      else if c.toNat < 0x20 then none
      else scan (.inString (.char c :: done)) rest := rfl

/-- After the fourth hexadecimal digit the string goes on with the code. -/
theorem scan_inHex_cons (done : List StringUnit) (digits value : Nat) (c : Char)
    (rest : List Char) :
    scan (.inHex done digits value) (c :: rest) = (hexValue? c).bind fun h =>
      if digits = 3 then scan (.inString (.code (value * 16 + h) :: done)) rest
      else scan (.inHex done (digits + 1) (value * 16 + h)) rest := rfl

end JsonSyntax

/-! ## §2 Strings -/

namespace StringUnit

/-- The unit as which a character of a string is read after it has been written. -/
def ofWritten (c : Char) : StringUnit :=
  if c.toNat < 0x20 ∧ c ∉ ['\x08', '\x0c', '\n', '\r', '\t'] then .code c.toNat else .char c

/-- A code below the surrogates stands for its character. -/
theorem decode?_code {n : Nat} (low : n < 0xD800) (rest : List StringUnit) :
    decode? (.code n :: rest) = (decode? rest).map (Char.ofNat n :: ·) := by
  have noPair : ¬ (0xD800 ≤ n ∧ n < 0xDC00) := by omega
  have noHalf : ¬ (0xDC00 ≤ n ∧ n < 0xE000) := by omega
  rcases rest with _ | ⟨_ | _, rest⟩ <;> simp only [decode?, noPair, noHalf, if_false]

/-- The units of a written string stand for its characters. -/
theorem decode?_ofWritten (s : List Char) : decode? (s.map ofWritten) = some s := by
  induction s with
  | nil => rfl
  | cons c s ih =>
    rw [List.map_cons, ofWritten]
    -- A character is written as its code or as itself.
    split
    case isTrue low =>
      rw [decode?_code (by omega), ih, Char.ofNat_toNat]
      rfl
    case isFalse =>
      rw [decode?, ih]
      rfl

/-- A string is spelled by the units that are written for it. -/
theorem text?_ofWritten (s : String) : text? (s.toList.map ofWritten) = some s := by
  rw [text?, decode?_ofWritten, Option.map_some, String.ofList_toList]

end StringUnit

namespace JsonSyntax

/-- Two hexadecimal digits are read as the character that they were written for. -/
theorem scan_inHex {c : Char} (low : c.toNat < 0x20) (done : List StringUnit) (rest : List Char) :
    scan (.inHex done 0 0)
      ('0' :: '0' :: Json.hexDigit (c.toNat / 16) :: Json.hexDigit c.toNat :: rest) =
      scan (.inString (.code c.toNat :: done)) rest := by
  -- The two digits of a control character are read to its code again.
  have digits : ∀ n < 0x20, hexValue? (Json.hexDigit (n / 16)) = some (n / 16) ∧
      hexValue? (Json.hexDigit n) = some (n % 16) := by decide
  obtain ⟨high, last⟩ := digits c.toNat low
  have zero : hexValue? '0' = some 0 := by decide
  have value : c.toNat / 16 * 16 + c.toNat % 16 = c.toNat := Nat.div_add_mod' ..
  simp [scan_inHex_cons, zero, high, last, value]

/-- A written character of a string is read as its unit. -/
theorem scan_escapeChar (c : Char) (done : List StringUnit) (rest : List Char) :
    scan (.inString done) (Json.escapeChar c ++ rest) =
      scan (.inString (.ofWritten c :: done)) rest := by
  unfold Json.escapeChar
  -- Seven characters have letters of their own, the other control characters a code.
  split
  case isTrue h => subst h; rfl
  split
  case isTrue h => subst h; rfl
  split
  case isTrue h => subst h; rfl
  split
  case isTrue h => subst h; rfl
  split
  case isTrue h => subst h; rfl
  split
  case isTrue h => subst h; rfl
  split
  case isTrue h => subst h; rfl
  split
  case isTrue quote backslash _ _ _ _ _ low =>
    have unit : StringUnit.ofWritten c = .code c.toNat := by
      simp [StringUnit.ofWritten, *]
    rw [unit]
    exact scan_inHex low done rest
  case isFalse quote backslash _ _ _ _ _ high =>
    have unit : StringUnit.ofWritten c = .char c := by
      simp [StringUnit.ofWritten, high]
    rw [unit, List.singleton_append, scan_inString_cons, if_neg quote, if_neg backslash,
      if_neg high]

/-- A quoted string is one token. -/
theorem scan_quoteChars (s : String) (rest : List Char) :
    scan .between (Json.quoteChars s ++ rest) =
      (scan .between rest).map (.string (s.toList.map .ofWritten) :: ·) := by
  -- The units are collected in reverse, so this goes by induction for any that came before.
  have contents (t : List Char) (done : List StringUnit) :
      scan (.inString done) (t.flatMap Json.escapeChar ++ ('"' :: rest)) =
        (scan .between rest).map (.string (done.reverse ++ t.map .ofWritten) :: ·) := by
    induction t generalizing done with
    | nil => simp [scan_inString_cons]
    | cons c t ih =>
      rw [List.flatMap_cons, List.append_assoc, scan_escapeChar, ih]
      simp
  have begins (s : List Char) : scan .between ('"' :: s) = scan (.inString []) s := by
    have begin : begin? '"' = some (none, .inString []) := by decide
    rw [scan_between_cons, begin]
    simp
  rw [Json.quoteChars, List.cons_append, List.cons_append, begins, List.append_assoc]
  exact contents s.toList []

/-! ## §3 Words and numbers -/

/-- A word ends before a character of another kind. -/
theorem scan_inWord_of_stop {done : List Char} {token : Token}
    (word : wordToken? done.reverse = some token) {rest : List Char}
    (stop : ∀ c ∈ rest.head?, isWordChar c = false) :
    scan (.inWord done) rest = (scan .between rest).map (token :: ·) := by
  cases rest with
  | nil =>
    rw [scan_inWord_nil, word]
    rfl
  | cons c rest =>
    have other : ¬ isWordChar c = true := Bool.eq_false_iff.1 (stop c rfl)
    rw [scan_inWord_cons, if_neg other, word, Option.bind_some]

/-- A number ends before a character of another kind. -/
theorem scan_inNumber_of_stop {done : List Char} {n : NumberSyntax}
    (number : number? done.reverse = some n) {rest : List Char}
    (stop : ∀ c ∈ rest.head?, isNumberChar c = false) :
    scan (.inNumber done) rest = (scan .between rest).map (.number n :: ·) := by
  cases rest with
  | nil =>
    rw [scan_inNumber_nil, number]
    rfl
  | cons c rest =>
    have other : ¬ isNumberChar c = true := Bool.eq_false_iff.1 (stop c rfl)
    rw [scan_inNumber_cons, if_neg other, number, Option.bind_some]

/-- A state that collects the characters of one kind collects a text of them. -/
theorem scan_append_of_collects {state : List Char → ScanState} {kind : Char → Bool}
    (collects : ∀ done c rest, kind c = true →
      scan (state done) (c :: rest) = scan (state (c :: done)) rest) {s : List Char}
    (chars : ∀ c ∈ s, kind c = true) (done rest : List Char) :
    scan (state done) (s ++ rest) = scan (state (s.reverse ++ done)) rest := by
  -- By induction on the text, for any characters that were collected before.
  induction s generalizing done with
  | nil => rfl
  | cons c s ih =>
    rw [List.cons_append, collects done c (s ++ rest) (chars c (List.mem_cons_self ..)),
      ih fun d h => chars d (List.mem_cons_of_mem _ h), List.reverse_cons, List.append_assoc]
    rfl

/-- Letters are collected. -/
theorem scan_inWord_append {s : List Char} (letters : ∀ c ∈ s, isWordChar c = true)
    (done rest : List Char) :
    scan (.inWord done) (s ++ rest) = scan (.inWord (s.reverse ++ done)) rest := by
  apply scan_append_of_collects _ letters
  intro done c rest letter
  rw [scan_inWord_cons, if_pos letter]

/-- The characters of a number are collected. -/
theorem scan_inNumber_append {s : List Char} (chars : ∀ c ∈ s, isNumberChar c = true)
    (done rest : List Char) :
    scan (.inNumber done) (s ++ rest) = scan (.inNumber (s.reverse ++ done)) rest := by
  apply scan_append_of_collects _ chars
  intro done c rest char
  rw [scan_inNumber_cons, if_pos char]

/-- A longer token begins with its first character. -/
theorem scan_between_of_begin {c : Char} {next : ScanState} (began : begin? c = some (none, next))
    (rest : List Char) : scan .between (c :: rest) = scan next rest := by
  rw [scan_between_cons, began]
  simp

/-- A mark is a token of one character. -/
theorem scan_between_of_mark {c : Char} {token : Token}
    (began : begin? c = some (some token, .between))
    (rest : List Char) : scan .between (c :: rest) = (scan .between rest).map (token :: ·) := by
  rw [scan_between_cons, began]
  rfl

/-- A word is one token if no letter follows. -/
theorem scan_word {c : Char} {s : List Char} {token : Token}
    (word : wordToken? (c :: s) = some token) (letters : ∀ d ∈ s, isWordChar d = true)
    (began : begin? c = some (none, .inWord [c])) {rest : List Char}
    (stop : ∀ c ∈ rest.head?, isWordChar c = false) :
    scan .between (c :: s ++ rest) = (scan .between rest).map (token :: ·) := by
  rw [List.cons_append, scan_between_of_begin began, scan_inWord_append letters]
  refine scan_inWord_of_stop ?_ stop
  rw [List.reverse_append, List.reverse_reverse]
  exact word

end JsonSyntax

/-! ## §4 Numbers as they are written -/

open JsonSyntax (isNumberChar number? exponent?)

/-- Digits belong to numbers. -/
theorem isNumberChar_of_isDigit {c : Char} (digit : isDigit c = true) : isNumberChar c = true := by
  obtain ⟨d, rfl⟩ := Numeral.exists_digitChar_of_isDigit digit
  revert d
  decide

/-- A text of characters of numbers that begins with a digit. -/
def IsUnsigned (s : List Char) : Prop :=
  (∀ c ∈ s, isNumberChar c = true) ∧ ∃ c t, s = c :: t ∧ isDigit c = true

/-- More characters of numbers may follow. -/
theorem IsUnsigned.append {s t : List Char} (h : IsUnsigned s)
    (chars : ∀ c ∈ t, isNumberChar c = true) :
    IsUnsigned (s ++ t) := by
  obtain ⟨first, c, rest, rfl, digit⟩ := h
  refine ⟨fun d h => ?_, c, rest ++ t, rfl, digit⟩
  rcases List.mem_append.1 h with h | h
  · exact first d h
  · exact chars d h

/-- A numeral of digits begins with one. -/
theorem isUnsigned_natChars (n : Nat) : IsUnsigned (Decimal.natChars n) :=
  ⟨fun _ h => isNumberChar_of_isDigit (Decimal.isDigit_of_mem_natChars h),
    Decimal.exists_natChars_eq_cons n⟩

/-- A decimal number without sign begins with a digit, and has at most a point besides. -/
theorem Decimal.isUnsigned_chars {d : Decimal} (positive : d.negative = false) :
    IsUnsigned d.chars := by
  rw [chars, positive, if_neg Bool.false_ne_true, List.nil_append]
  apply (isUnsigned_natChars d.whole).append
  -- Behind the whole part there is nothing, or the point and digits.
  intro c h
  split at h
  · cases h
  · rcases List.mem_cons.1 h with rfl | digit
    · decide
    · obtain ⟨d, -, rfl⟩ := List.mem_map.1 digit
      exact isNumberChar_of_isDigit (Numeral.isDigit_digitChar d)

/-- Absolute values are written without a sign. -/
theorem NumberFormat.isUnsigned_magnitudeChars (f : NumberFormat) (d : ScaledDigits) :
    IsUnsigned (f.magnitudeChars d) := by
  unfold magnitudeChars
  refine iteInduction (motive := IsUnsigned) (fun _ => ?_) fun _ => ?_
  · have positive : (Decimal.ofScaled false d.coefficient d.exponent).negative = false := by
      unfold Decimal.ofScaled
      split <;> rfl
    apply (Decimal.isUnsigned_chars positive).append
    intro c h
    split at h
    · simp only [List.mem_cons, List.not_mem_nil, or_false] at h
      rcases h with rfl | rfl <;> decide
    · cases h
  · -- A digit, perhaps a point with further digits, then the exponent.
    refine (IsUnsigned.append ?_ fun c h => ?_).append (isUnsigned_natChars _).1
    · obtain ⟨all, first, rest, digits, digit⟩ := isUnsigned_natChars d.coefficient
      rw [digits] at all ⊢
      cases rest with
      | nil => exact ⟨all, first, [], rfl, digit⟩
      | cons second rest =>
        refine ⟨fun c h => ?_, first, '.' :: second :: rest, rfl, digit⟩
        rcases List.mem_cons.1 h with rfl | h
        · exact isNumberChar_of_isDigit digit
        · rcases List.mem_cons.1 h with rfl | h
          · decide
          · exact all c (List.mem_cons_of_mem _ h)
    · rcases List.mem_cons.1 h with rfl | sign
      · decide
      · split at sign
        · rw [List.mem_singleton.1 sign]
          decide
        · split at sign
          · rw [List.mem_singleton.1 sign]
            decide
          · cases sign

/-- A digit begins a number. -/
theorem JsonSyntax.begin?_of_isDigit {c : Char} (digit : isDigit c = true) :
    begin? c = some (none, .inNumber [c]) := by
  obtain ⟨d, rfl⟩ := Numeral.exists_digitChar_of_isDigit digit
  revert d
  decide

/-- A number is one token if no character of a number follows. -/
theorem JsonSyntax.scan_number {s rest : List Char} {n : NumberSyntax} (number : number? s = some n)
    (text : ∃ t, IsUnsigned t ∧ (s = t ∨ s = '-' :: t))
    (stop : ∀ c ∈ rest.head?, isNumberChar c = false) :
    scan .between (s ++ rest) = (scan .between rest).map (.number n :: ·) := by
  have begins {c : Char} {u : List Char} (began : begin? c = some (none, .inNumber [c]))
      (chars : ∀ d ∈ u, isNumberChar d = true) (number : number? (c :: u) = some n) :
      scan .between (c :: u ++ rest) = (scan .between rest).map (.number n :: ·) := by
    rw [List.cons_append, scan_between_of_begin began, scan_inNumber_append chars]
    refine scan_inNumber_of_stop ?_ stop
    rw [List.reverse_append, List.reverse_reverse]
    exact number
  -- The first character is a digit, or the sign before one.
  obtain ⟨t, ⟨chars, c, u, rfl, digit⟩, rfl | rfl⟩ := text
  · exact begins (begin?_of_isDigit digit) (fun d h => chars d (List.mem_cons_of_mem _ h)) number
  · exact begins (by decide) chars number

namespace JsonNumber

/-- A negative word is written with its sign before its absolute value. -/
theorem chars_negative {i : Int64} (below : i < 0) :
    (JsonNumber.negative i below).chars = '-' :: Decimal.natChars i.toInt.natAbs := by
  have negative : i.toInt < 0 := Int64.lt_iff_toInt_lt.1 below
  simp [chars, Decimal.ofInt, Decimal.chars, negative]

/-- The text of a number is an absolute value with or without a sign. -/
theorem exists_isUnsigned (n : JsonNumber) :
    ∃ t, IsUnsigned t ∧ (n.chars = t ∨ n.chars = '-' :: t) := by
  cases n with
  | natural n => exact ⟨_, isUnsigned_natChars n.toNat, .inl rfl⟩
  | negative i below => exact ⟨_, isUnsigned_natChars i.toInt.natAbs, .inr (chars_negative below)⟩
  | real x finite =>
    -- A double of a document is finite, so it has digits.
    have number : x.isNaN = false := by
      simp only [Binary64.isFinite, bne_iff_ne] at finite
      simp [Binary64.isNaN, finite]
    refine ⟨_, NumberFormat.json.isUnsigned_magnitudeChars (x.shortest NumberFormat.json.tie), ?_⟩
    rw [chars, NumberFormat.render, number, if_neg Bool.false_ne_true, if_pos finite]
    cases x.isNegative with
    | true => exact .inr (String.toList_ofList ..)
    | false => exact .inl (String.toList_ofList ..)

/-- The number of a text. -/
def read? (s : List Char) : Option JsonNumber := (number? s).bind (·.toNumber?)

/-- Digits are scanned as a number without fraction and exponent. -/
theorem number?_natChars (negative : Bool) (n : Nat) :
    number? ((if negative then ['-'] else []) ++ Decimal.natChars n) =
      some ⟨negative, Decimal.natChars n, [], none⟩ := by
  obtain ⟨c, s, text, digit⟩ := Decimal.exists_natChars_eq_cons n
  have noMinus : c ≠ '-' := by rintro rfl; cases digit
  have digits : ∀ c ∈ Decimal.natChars n, isDigit c = true :=
    fun _ h => Decimal.isDigit_of_mem_natChars h
  have whole : (Decimal.natChars n).takeWhile isDigit = Decimal.natChars n :=
    List.takeWhile_eq_self_iff.2 digits
  have rest : (Decimal.natChars n).dropWhile isDigit = [] := List.dropWhile_eq_nil_iff.2 digits
  -- A first zero is alone, so there is none too many.
  have noZero : ¬ ((Decimal.natChars n).head? = some '0' ∧ 1 < (Decimal.natChars n).length) := by
    rintro ⟨zero, long⟩
    by_cases positive : n = 0
    · subst positive
      exact absurd long (by decide)
    · exact Decimal.head?_natChars_ne positive zero
  cases negative with
  | true => simp [number?, whole, rest, noZero, Decimal.natChars_ne_nil, exponent?]
  | false =>
    have alone : c = '0' → s = [] := by
      rintro rfl
      simpa [text] using noZero
    rw [text] at whole rest ⊢
    simpa [number?, noMinus, whole, rest, exponent?] using alone

/-- A natural word is read back from its numeral. -/
theorem read?_natural (n : UInt64) : read? (JsonNumber.natural n).chars = some (.natural n) := by
  have word : Word.uint64? n.toNat = some n := Word.uint64?_eq_some_iff.2 rfl
  rw [read?, chars, ← List.nil_append (Decimal.natChars _)]
  rw [show number? ([] ++ Decimal.natChars n.toNat) = _
    from number?_natChars false n.toNat, Option.bind_some]
  simp [NumberSyntax.toNumber?, NumberSyntax.toWord?, NumberSyntax.isInteger, word]

/-- A negative word is read back from its numeral. -/
theorem read?_negative {i : Int64} (below : i < 0) :
    read? (JsonNumber.negative i below).chars = some (.negative i below) := by
  have negative : i.toInt < 0 := Int64.lt_iff_toInt_lt.1 below
  have nonzero : i.toInt.natAbs ≠ 0 := by omega
  have value : -((i.toInt.natAbs : Nat) : Int) = i.toInt := by omega
  have word : Word.int64? i.toInt = some i := Word.int64?_eq_some_iff.2 rfl
  rw [read?, chars_negative]
  rw [show number? ('-' :: Decimal.natChars i.toInt.natAbs) = _
    from number?_natChars true _, Option.bind_some]
  -- The numeral has neither a fraction nor an exponent, so it is read as a word.
  have found : NumberSyntax.toWord? ⟨true, Decimal.natChars i.toInt.natAbs, [], none⟩ =
      some (ofInt64 i) := by
    simp only [NumberSyntax.toWord?, NumberSyntax.isInteger, Decimal.digitsValue_natChars, nonzero,
      value, word, List.isEmpty_nil, Option.isNone_none, Bool.and_self, Bool.not_true,
      Bool.false_eq_true, if_true, if_false, Option.map_some]
  rw [NumberSyntax.toNumber?, found, ofInt64, dif_pos below]

end JsonNumber

end TableMapper
