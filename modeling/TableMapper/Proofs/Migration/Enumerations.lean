import TableMapper.Proofs.Migration.NormalForm
import TableMapper.Proofs.Sql.Token

/-!
# Lists of allowed texts stay apart

Types are compared in their normal form, which leaves letter case out and writes quotes in another
way.  `normalizeType_enumeration_eq_iff` says that nothing else is lost: two lists of allowed texts
have one normal form exactly if they agree text by text up to the case of ASCII letters.

The normal form of a list is read back value by value (`readNormal?`), whatever characters the
values have.
-/

namespace TableMapper.Reconcile

open Sql (stringChar)
open Sql.ColumnType (parenthesised)
open Text (lower sameLetters_iff)

/-! ## §1 Values -/

/-- What a character behind a backslash stands for, in lower case. -/
def lowerUnescaped (c : Char) : Char := if c = 'z' then '\x1a' else Sql.unescaped c

/-- A value in its normal form up to its closing quote, and the rest of the text. -/
def readNormal? : List Char → Option (List Char × List Char)
  | [] => none
  -- The closing quote is doubled behind a backslash, which is the last character of the value.
  | '\\' :: '\'' :: '\'' :: s => some (['\\'], s)
  | '\\' :: c :: s => (readNormal? s).map fun (t, rest) => (lowerUnescaped c :: t, rest)
  | '\\' :: [] => none
  | '\'' :: '\'' :: s => (readNormal? s).map fun (t, rest) => ('\'' :: t, rest)
  | '\'' :: s => some ([], s)
  | c :: s => (readNormal? s).map fun (t, rest) => (c :: t, rest)

/-- A character is read back from its normal form in lower case. -/
theorem readNormal?_normalChar {c : Char} (s : List Char) :
    readNormal? (normalChar c ++ s) = (readNormal? s).map fun (t, rest) =>
      (c.toLower :: t, rest) := by
  have written := written_stringChar c
  unfold normalChar
  generalize stringChar c = text at written ⊢
  -- One case for each way to write a character.
  cases written with
  | plain noQuote noBackslash noDouble =>
    have noQuote' : c.toLower ≠ '\'' := fun same => noQuote (Text.eq_of_toLower_eq rfl same)
    have noBackslash' : c.toLower ≠ '\\' := fun same => noBackslash (Text.eq_of_toLower_eq rfl same)
    simp [noQuote, lower, readNormal?, noQuote', noBackslash']
  | quote => simp [readNormal?]
  | backslash => simp [lower, readNormal?, lowerUnescaped, Sql.unescaped]
  | @escape c e listed =>
    have others : ∀ pair ∈ escapes, pair.1 ≠ '\'' ∧ pair.2.toLower ≠ '\'' ∧ pair.2.toLower ≠ '\\' ∧
        lowerUnescaped pair.2.toLower = pair.1.toLower := by decide
    obtain ⟨noQuote, escapeNoQuote, -, stands⟩ := others _ listed
    simp [noQuote, lower, readNormal?, escapeNoQuote, stands]

/-- **A value is read back from its normal form in lower case.** -/
theorem readNormal?_normalContents (v : List Char) {rest : List Char}
    (stop : rest.head? ≠ some '\'') :
    readNormal? (normalContents v ++ rest) = some (lower v, rest) := by
  induction v with
  | nil =>
    -- A quote behind the closing one would make a quote of both.
    cases rest with
    | nil => rfl
    | cons c rest =>
      have other : c ≠ '\'' := fun same => stop (congrArg some same)
      simp [normalContents, readNormal?, other, lower]
  | cons c v ih =>
    rw [normalContents]
    split
    case isTrue last =>
      obtain ⟨rfl, rfl⟩ := last
      rfl
    case isFalse =>
      rw [List.append_assoc, readNormal?_normalChar, ih]
      rfl

/-! ## §2 Lists of values -/

/-- What follows a value of a list: the other values and the closing parenthesis. -/
def valuesAfter (values : List String) : List Char :=
  (values.flatMap fun v => ',' :: normalValue v.toList) ++ [')']

/-- A list in its normal form begins with its first value. -/
theorem parenthesised_cons (v : String) (values : List String) :
    parenthesised ((v :: values).map fun v => normalValue v.toList) =
      '(' :: '\'' :: (normalContents v.toList ++ valuesAfter values) := by
  -- Every value but the first has a comma before it.
  have commas : [','].intercalate ((v :: values).map fun v => normalValue v.toList) =
      normalValue v.toList ++ values.flatMap fun v => ',' :: normalValue v.toList := by
    induction values generalizing v with
    | nil => simp
    | cons w values ih =>
      simp only [List.map_cons, List.intercalate_cons_cons, List.flatMap_cons] at ih ⊢
      rw [ih]
      simp
  rw [parenthesised, commas]
  simp [normalValue, valuesAfter]

/-- A value is followed by a comma or a parenthesis. -/
theorem head?_valuesAfter_ne (values : List String) : (valuesAfter values).head? ≠ some '\'' := by
  cases values with
  | nil => simp [valuesAfter]
  | cons v values => simp [valuesAfter]

/-- The first of two lists of values is read off both. -/
theorem lower_eq_of_contents {v w : List Char} {vs ws : List String}
    (same : normalContents v ++ valuesAfter vs = normalContents w ++ valuesAfter ws) :
    lower v = lower w ∧ valuesAfter vs = valuesAfter ws := by
  have left := readNormal?_normalContents v (head?_valuesAfter_ne vs)
  have right := readNormal?_normalContents w (head?_valuesAfter_ne ws)
  rw [same, right] at left
  obtain ⟨text, rest⟩ := Prod.mk.inj (Option.some.inj left)
  exact ⟨text.symm, rest.symm⟩

/-- Two lists have the same length and agree text by text, up to the case of ASCII letters. -/
def SameValues (vs ws : List String) : Prop :=
  List.Forall₂ (fun v w => Text.sameLetters v w = true) vs ws

/-- The values behind the first one are the same, one after another. -/
theorem sameValues_of_valuesAfter {vs ws : List String} (same : valuesAfter vs = valuesAfter ws) :
    SameValues vs ws := by
  -- Both lists are read from the front, and end together.
  induction vs generalizing ws with
  | nil =>
    cases ws with
    | nil => exact .nil
    | cons w ws => simp [valuesAfter] at same
  | cons v vs ih =>
    cases ws with
    | nil => simp [valuesAfter] at same
    | cons w ws =>
      have contents : normalContents v.toList ++ valuesAfter vs =
          normalContents w.toList ++ valuesAfter ws := by
        simpa [valuesAfter, normalValue] using same
      obtain ⟨letters, rest⟩ := lower_eq_of_contents contents
      exact .cons (sameLetters_iff.2 letters) (ih rest)

/-- Lists with one normal form have the same values. -/
theorem sameValues_of_parenthesised {vs ws : List String}
    (same : parenthesised (vs.map fun v => normalValue v.toList) =
      parenthesised (ws.map fun v => normalValue v.toList)) : SameValues vs ws := by
  -- An empty list is told apart by its closing bracket.
  cases vs with
  | nil =>
    cases ws with
    | nil => exact .nil
    | cons w ws =>
      rw [parenthesised_cons] at same
      simp [parenthesised] at same
  | cons v vs =>
    cases ws with
    | nil =>
      rw [parenthesised_cons] at same
      simp [parenthesised] at same
    | cons w ws =>
      rw [parenthesised_cons, parenthesised_cons] at same
      obtain ⟨letters, rest⟩ := lower_eq_of_contents (List.cons.inj (List.cons.inj same).2).2
      exact .cons (sameLetters_iff.2 letters) (sameValues_of_valuesAfter rest)

/-! ## §3 Normal forms that are the same -/

/-- The normal form does not depend on letter case. -/
theorem normalChar_toLower (c : Char) : normalChar c.toLower = normalChar c :=
  Text.forall_of_capitals (P :=
    fun c => normalChar c.toLower = normalChar c) (fun c same => by rw [same])
    (by decide) c

/-- The contents of a value do not depend on letter case either. -/
theorem normalContents_lower (v : List Char) : normalContents (lower v) = normalContents v := by
  induction v with
  | nil => rfl
  | cons c v ih =>
    have backslash : c.toLower = '\\' ↔ c = '\\' :=
      ⟨Text.eq_of_toLower_eq rfl, fun same => by rw [same]; rfl⟩
    have empty : lower v = [] ↔ v = [] := List.map_eq_nil_iff
    show normalContents (c.toLower :: lower v) = _
    simp only [normalContents, backslash, empty, normalChar_toLower, ih]

/-- Lists with the same values have one normal form. -/
theorem map_normalValue_of_sameValues {vs ws : List String} (same : SameValues vs ws) :
    vs.map (fun v => normalValue v.toList) = ws.map fun v => normalValue v.toList := by
  induction same with
  | nil => rfl
  | @cons v w vs ws letters _ ih =>
    have value : normalValue v.toList = normalValue w.toList := by
      rw [normalValue, normalValue, ← normalContents_lower, sameLetters_iff.1 letters,
        normalContents_lower]
    rw [List.map_cons, List.map_cons, value, ih]

/-- **Two lists of allowed texts have one normal form exactly if they agree text by text**, whatever
characters the texts have and whatever else the properties say. -/
theorem normalizeType_enumeration_eq_iff (p q : Property) (vs ws : List String) :
    normalizeType (Sql.ColumnType.ofProperty { p with type := .enumeration vs }).text =
        normalizeType (Sql.ColumnType.ofProperty { q with type := .enumeration ws }).text ↔
      SameValues vs ws := by
  show normalizeType (Sql.ColumnType.enumeration vs).text =
      normalizeType (Sql.ColumnType.enumeration ws).text ↔ _
  rw [normalizeType_enumeration, normalizeType_enumeration]
  constructor
  · intro same
    exact sameValues_of_parenthesised (List.append_cancel_left same)
  · intro same
    rw [map_normalValue_of_sameValues same]

end TableMapper.Reconcile
