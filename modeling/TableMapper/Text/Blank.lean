/-!
# Blank characters, trimming and words

Which characters separate words is the Unicode property `White_Space`: 25 characters,
of which the no-break space and the ideographic space are two.  Everything here works on lists of
characters, so that the results are sublists that can be reasoned about by recursion.

- `isBlank` decides the property;
- `trim` drops blanks at both ends;
- `words` cuts at maximal runs of blanks and drops the blanks.
-/

namespace TableMapper.Text

/-! ## §1 The property -/

/-- The characters with the Unicode property `White_Space`. -/
def isBlank (c : Char) : Bool :=
  let n := c.toNat
  (9 ≤ n && n ≤ 13) || n == 0x20 || n == 0x85 || n == 0xA0 || n == 0x1680 ||
    (0x2000 ≤ n && n ≤ 0x200A) || n == 0x2028 || n == 0x2029 || n == 0x202F ||
    n == 0x205F || n == 0x3000

/-! ## §2 Trimming -/

/-- The text from its first character that is not blank. -/
def trimStart (s : List Char) : List Char :=
  s.dropWhile isBlank

/-- The text without the characters at its end that satisfy `p`. -/
def dropWhileEnd (p : Char → Bool) (s : List Char) : List Char :=
  (s.reverse.dropWhile p).reverse

/-- The text up to its last character that is not blank. -/
def trimEnd (s : List Char) : List Char :=
  dropWhileEnd isBlank s

/-- The text without the blanks at its two ends. -/
def trim (s : List Char) : List Char :=
  trimEnd (trimStart s)

/-! ## §3 Words -/

/-- Scans a text for words: `word` holds the characters of the current word, last one first. -/
def wordsFrom (word : List Char) : List Char → List (List Char)
  | [] => if word.isEmpty then [] else [word.reverse]
  | c :: rest =>
    if isBlank c then
      if word.isEmpty then wordsFrom [] rest else word.reverse :: wordsFrom [] rest
    else
      wordsFrom (c :: word) rest

/-- The maximal runs of characters that are not blank, in order. -/
def words (s : List Char) : List (List Char) :=
  wordsFrom [] s

end TableMapper.Text
