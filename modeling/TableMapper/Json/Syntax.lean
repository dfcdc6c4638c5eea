import TableMapper.Number.Numeral

/-!
# The syntax of JSON texts

`JsonSyntax.read?` checks a text against the grammar and gives its tree as written: numbers keep
their digits, strings their escapes, and objects all their entries, repeated keys included.  Whether
a number is in range, whether escapes name characters, how deep the nesting may be and what a
repeated key means is up to the reader of the tree.

The text is first cut into tokens (`scan`), by a machine that looks at one character at a time; the
tokens are then put together with a stack of the arrays and objects that are still open
(`assemble`).
-/

namespace TableMapper

/-! ## §1 Trees as written -/

/-- A character of a string: written as it is, or by a hexadecimal escape of 16 bits. -/
inductive StringUnit where
  | char (c : Char)
  | code (n : Nat)
  deriving DecidableEq, Repr

/-- A number as written. -/
structure NumberSyntax where
  negative : Bool
  whole : List Char
  fraction : List Char
  exponent : Option Int
  deriving DecidableEq, Repr

/-- A document as written. -/
inductive JsonSyntax where
  | null
  | bool (b : Bool)
  | number (n : NumberSyntax)
  | string (s : List StringUnit)
  | array (items : List JsonSyntax)
  | object (entries : List (List StringUnit × JsonSyntax))
  deriving Repr, Inhabited

namespace JsonSyntax

/-! ## §2 Tokens -/

/-- The tokens of a text. -/
inductive Token where
  | openArray
  | closeArray
  | openObject
  | closeObject
  | comma
  | colon
  | null
  | bool (b : Bool)
  | number (n : NumberSyntax)
  | string (s : List StringUnit)
  deriving DecidableEq, Repr

/-- Where the machine stands: between tokens, inside a word or a number (its characters so far, last
one first), or inside a string (its units so far, last one first), there perhaps after a backslash
or after some hexadecimal digits of an escape. -/
inductive ScanState where
  | between
  | inWord (done : List Char)
  | inNumber (done : List Char)
  | inString (done : List StringUnit)
  | inEscape (done : List StringUnit)
  | inHex (done : List StringUnit) (digits value : Nat)
  deriving DecidableEq, Repr

/-- The four characters that may stand between tokens. -/
def isSpace (c : Char) : Bool := c = ' ' || c = '\t' || c = '\n' || c = '\r'

def isNumberChar (c : Char) : Bool :=
  ('0' ≤ c && c ≤ '9') || c = '-' || c = '+' || c = '.' || c = 'e' || c = 'E'

def isWordChar (c : Char) : Bool := 'a' ≤ c && c ≤ 'z'

def hexValue? (c : Char) : Option Nat :=
  if '0' ≤ c ∧ c ≤ '9' then some (c.toNat - 48)
  else if 'a' ≤ c ∧ c ≤ 'f' then some (c.toNat - 87)
  else if 'A' ≤ c ∧ c ≤ 'F' then some (c.toNat - 55)
  else none

/-- The character that a one-letter escape stands for. -/
def shortEscape? (c : Char) : Option Char :=
  if c = '"' then some '"'
  else if c = '\\' then some '\\'
  else if c = '/' then some '/'
  else if c = 'b' then some '\x08'
  else if c = 'f' then some '\x0c'
  else if c = 'n' then some '\n'
  else if c = 'r' then some '\r'
  else if c = 't' then some '\t'
  else none

def wordToken? (word : List Char) : Option Token :=
  if word = ['n', 'u', 'l', 'l'] then some .null
  else if word = ['t', 'r', 'u', 'e'] then some (.bool true)
  else if word = ['f', 'a', 'l', 's', 'e'] then some (.bool false)
  else none

/-- The exponent at the end of a number: nothing, or `e`, an optional sign and at least one
digit. -/
def exponent? : List Char → Option (Option Int)
  | [] => some none
  | c :: rest =>
    if c = 'e' ∨ c = 'E' then
      let (negative, digits) := match rest with
        | '-' :: digits => (true, digits)
        | '+' :: digits => (false, digits)
        | digits => (false, digits)
      if digits.isEmpty || !digits.all Numeral.isDigit then none
      else
        let n : Int := Numeral.digitsValue 0 digits
        some (some (if negative then -n else n))
    else none

/-- The number of a text: an optional minus sign, digits without leading zeros, an optional point
with at least one digit, and an optional exponent. -/
def number? (s : List Char) : Option NumberSyntax :=
  let (negative, s) := match s with
    | '-' :: rest => (true, rest)
    | s => (false, s)
  let whole := s.takeWhile Numeral.isDigit
  let rest := s.dropWhile Numeral.isDigit
  -- `0` itself may stand before a point, `00` and `01` may not.
  let leadingZero := whole.head? = some '0' ∧ 1 < whole.length
  if whole.isEmpty ∨ leadingZero then none
  else
    match rest with
    -- A point needs digits on both sides.
    | '.' :: rest =>
      let fraction := rest.takeWhile Numeral.isDigit
      if fraction.isEmpty then none
      else (exponent? (rest.dropWhile Numeral.isDigit)).map fun e => ⟨negative, whole, fraction, e⟩
    | rest => (exponent? rest).map fun e => ⟨negative, whole, [], e⟩

/-- What a character between tokens is: a token of its own, the beginning of a longer one, or a
space. -/
def begin? (c : Char) : Option (Option Token × ScanState) :=
  if isSpace c then some (none, .between)
  else if c = '[' then some (some .openArray, .between)
  else if c = ']' then some (some .closeArray, .between)
  else if c = '\x7b' then some (some .openObject, .between)
  else if c = '\x7d' then some (some .closeObject, .between)
  else if c = ',' then some (some .comma, .between)
  else if c = ':' then some (some .colon, .between)
  else if c = '"' then some (none, .inString [])
  else if c = '-' ∨ Numeral.isDigit c then some (none, .inNumber [c])
  else if isWordChar c then some (none, .inWord [c])
  else none

/-- The tokens of a text from a state, or nothing if the text cannot be cut into tokens. -/
def scan (state : ScanState) : List Char → Option (List Token)
  | [] =>
    match state with
    | .between => some []
    | .inWord done => (wordToken? done.reverse).map ([·])
    | .inNumber done => (number? done.reverse).map ([.number ·])
    | _ => none
  | c :: rest =>
    -- A word or a number ends at the first character that cannot go on, which is looked at afresh.
    let fresh (before : Option Token) : Option (List Token) := do
      let (token, next) ← begin? c
      let tokens ← scan next rest
      some (before.toList ++ token.toList ++ tokens)
    match state with
    | .between => fresh none
    | .inWord done =>
      if isWordChar c then scan (.inWord (c :: done)) rest
      else (wordToken? done.reverse).bind fun token => fresh (some token)
    | .inNumber done =>
      if isNumberChar c then scan (.inNumber (c :: done)) rest
      else (number? done.reverse).bind fun n => fresh (some (.number n))
    | .inString done =>
      if c = '"' then (scan .between rest).map (Token.string done.reverse :: ·)
      else if c = '\\' then scan (.inEscape done) rest
      -- Control characters have to be escaped.
      else if c.toNat < 0x20 then none
      else scan (.inString (.char c :: done)) rest
    | .inEscape done =>
      if c = 'u' then scan (.inHex done 0 0) rest
      else (shortEscape? c).bind fun d => scan (.inString (.char d :: done)) rest
    | .inHex done digits value =>
      (hexValue? c).bind fun h =>
        let value := value * 16 + h
        -- The fourth digit ends the escape.
        if digits = 3 then scan (.inString (.code value :: done)) rest
        else scan (.inHex done (digits + 1) value) rest

/-! ## §3 Trees from tokens -/

/-- An array or object that is still open, with what it holds so far, last one first.  An object's
`key` is the one whose value is being read. -/
inductive Frame where
  | array (items : List JsonSyntax)
  | object (entries : List (List StringUnit × JsonSyntax)) (key : List StringUnit)
  deriving Repr

/-- What may come next: a value; the first item or the end of an array; the first key or the end of
an object; another key; the colon after a key; or, after a whole value, a comma or a closing
bracket. -/
inductive Expectation where
  | value
  | firstItem
  | firstKey
  | nextKey
  | colon (key : List StringUnit)
  | next (done : JsonSyntax)
  deriving Repr

/-- The value of a token that is a whole value. -/
def Token.value? : Token → Option JsonSyntax
  | .null => some .null
  | .bool b => some (.bool b)
  | .number n => some (.number n)
  | .string s => some (.string s)
  | _ => none

/-- One token: the open containers and the expectation after it.  The entries of the innermost
object wait in its frame; a key that has been read waits in the expectation. -/
def step (stack : List Frame) (expected : Expectation) (token : Token) :
    Option (List Frame × Expectation) :=
  -- A value may begin in two of the places below.
  let beginValue : Option (List Frame × Expectation) :=
    match token with
    | .openArray => some (.array [] :: stack, .firstItem)
    | .openObject => some (.object [] [] :: stack, .firstKey)
    | token => token.value?.map fun v => (stack, .next v)
  match expected with
  | .value => beginValue
  | .firstItem =>
    match token, stack with
    | .closeArray, .array _ :: stack => some (stack, .next (.array []))
    | _, _ => beginValue
  | .firstKey =>
    match token, stack with
    | .closeObject, .object _ _ :: stack => some (stack, .next (.object []))
    | .string key, stack => some (stack, .colon key)
    | _, _ => none
  | .nextKey =>
    match token with
    | .string key => some (stack, .colon key)
    | _ => none
  | .colon key =>
    match token, stack with
    | .colon, .object entries _ :: stack => some (.object entries key :: stack, .value)
    | _, _ => none
  | .next done =>
    match stack, token with
    | .array items :: stack, .comma => some (.array (done :: items) :: stack, .value)
    | .array items :: stack, .closeArray =>
      some (stack, .next (.array (done :: items).reverse))
    | .object entries key :: stack, .comma =>
      some (.object ((key, done) :: entries) [] :: stack, .nextKey)
    | .object entries key :: stack, .closeObject =>
      some (stack, .next (.object ((key, done) :: entries).reverse))
    | _, _ => none

/-- The tree of a list of tokens. -/
def assemble (stack : List Frame) (expected : Expectation) : List Token → Option JsonSyntax
  | [] =>
    match stack, expected with
    -- One whole value, and nothing left open.
    | [], .next done => some done
    | _, _ => none
  | token :: rest => (step stack expected token).bind fun (stack, expected) =>
      assemble stack expected rest

/-- The tree of a text that is one document with nothing but spaces around it. -/
def read? (s : String) : Option JsonSyntax :=
  (scan .between s.toList).bind (assemble [] .value)

end JsonSyntax

end TableMapper
