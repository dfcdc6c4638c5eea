/-!
# Searching, cutting and replacing

Elementary operations on lists of characters: cutting at a separator, finding the first place of a
pattern, replacing a pattern from left to right, and comparing without regard to the case of ASCII
letters.
-/

namespace TableMapper.Text

/-! ## §1 Patterns -/

/-- The rest of `s` after `pattern`, if `s` begins with it. -/
def after? : (pattern s : List Char) → Option (List Char)
  | [], s => some s
  | _ :: _, [] => none
  | p :: pattern, c :: s => if p = c then after? pattern s else none

/-- The part of `s` before the first place where `pattern` begins, if there is one. -/
def before? (pattern : List Char) : List Char → Option (List Char)
  | [] => if pattern.isEmpty then some [] else none
  | c :: s =>
    if (after? pattern (c :: s)).isSome then some [] else (before? pattern s).map (c :: ·)

/-- Whether `pattern` occurs in `s`. -/
def contains (pattern s : List Char) : Bool :=
  (before? pattern s).isSome

/-- Replaces every place of the two characters `a b`, from left to right, by `new`. -/
def replacePair (a b : Char) (new : List Char) : List Char → List Char
  | [] => []
  | [c] => [c]
  | c :: d :: s =>
    -- The two characters are used up: the second one starts no further pair.
    if c = a ∧ d = b then new ++ replacePair a b new s else c :: replacePair a b new (d :: s)

/-! ## §2 Cutting at a character -/

/-- The pieces of `s` between the places of `separator`; there is always at least one piece. -/
def splitOn (separator : Char) : List Char → List (List Char)
  | [] => [[]]
  | c :: s =>
    if c = separator then
      [] :: splitOn separator s
    else
      match splitOn separator s with
      -- Not reached, as there is always a piece to join.
      | [] => [[c]]
      | piece :: pieces => (c :: piece) :: pieces

/-! ## §3 Letter case -/

/-- The text with its ASCII letters in lower case. -/
def lower (s : List Char) : List Char :=
  s.map Char.toLower

/-- The text with its ASCII letters in upper case. -/
def upper (s : List Char) : List Char :=
  s.map Char.toUpper

/-- Whether two texts agree up to the case of ASCII letters. -/
def sameLetters (s t : String) : Bool :=
  lower s.toList == lower t.toList

/-- The text with its ASCII letters in lower case. -/
def lowerCase (s : String) : String :=
  String.ofList (lower s.toList)

/-- The text with its ASCII letters in upper case. -/
def upperCase (s : String) : String :=
  String.ofList (upper s.toList)

/-! ## §4 Laws -/

/-- A text begins with the pattern exactly if it is the pattern and the rest. -/
theorem after?_eq_some_iff {pattern s rest : List Char} :
    after? pattern s = some rest ↔ s = pattern ++ rest := by
  induction pattern generalizing s with
  | nil => simp [after?]
  | cons p pattern ih =>
    cases s with
    | nil => simp [after?]
    | cons c s =>
      by_cases h : p = c
      · simp [after?, h, ih]
      · simp [after?, h, Ne.symm h]

end TableMapper.Text
