import Mathlib.Data.List.Basic
import TableMapper.Proofs.Migration.NormalForm
import TableMapper.Proofs.Migration.Shown

/-!
# Types as servers show them

A server does not show the type of a column as it was declared: it shows one of several names for
the same type, integers with or without display width, all in lower case, and the texts of a list
with nothing but their quotes doubled.

`columnDiffers_shown_iff` says which columns a plan recognises after it has made them.  It does not
recognise those declared under another name than the server's (`INTEGER`, `NUMERIC`, `REAL`), and
those with a double quote in one of their texts; it changes them again and again.
-/

namespace TableMapper

open Reconcile
open Sql.ColumnType (parenthesised storageName numeric ofProperty)
open Text (lower lowerCase)
open Sql (stringChar)

namespace Sql.ColumnType

/-! ## §1 What servers show -/

/-- The name under which servers show a type that has several. -/
def shownName (name : String) : String :=
  if name = "integer" then "int"
  else if name = "numeric" then "decimal"
  else if name = "real" then "double"
  else name

/-- A character of a text as servers show it between quotes. -/
def shownChar (c : Char) : List Char := if c = '\'' then ['\'', '\''] else [c]

def shownValue (v : List Char) : List Char := '\'' :: v.flatMap shownChar ++ ['\'']

/-- The text in which a server shows a type, with or without the display width of integers. -/
def shownChars (widths : Bool) : ColumnType → List Char
  | .named name arguments unsigned =>
    let shown := shownName (lowerCase name)
    let hidden := shown ∈ integerNames ∧ widths = false
    shown.toList ++ argumentChars (if hidden then [] else arguments) ++ signChars unsigned
  | .enumeration values => "enum".toList ++ parenthesised (values.map fun v => shownValue v.toList)

def shownText (widths : Bool) (t : ColumnType) : String := String.ofList (t.shownChars widths)

end Sql.ColumnType

open Sql.ColumnType (shownName shownChar shownValue shownText)

namespace Reconcile

/-! ## §2 Numbers -/

/-- A type of numbers is shown as one, and an integer type as an integer type. -/
theorem shownName_mem {name : String} (listed : name ∈ integerNames ++ decimalNames) :
    shownName name ∈ integerNames ++ decimalNames ∧
      (shownName name ∈ integerNames ↔ name ∈ integerNames) := by
  have names : ∀ name ∈ integerNames ++ decimalNames,
      shownName name ∈ integerNames ++ decimalNames ∧
      (shownName name ∈ integerNames ↔ name ∈ integerNames) := by decide
  exact names name listed

/-- A property of numbers has a type of its storage name, and an integer has a display width at
most. -/
theorem exists_numeric_eq (p : Property) (name : String) :
    ∃ arguments, numeric p name = .named name arguments p.unsigned ∧
      (lowerCase name ∈ integerNames → arguments.length ≤ 1) := by
  have apart {family : String} (families : List String) (listed : family ∈ families)
      (others : ∀ family ∈ families, family ∉ integerNames) : family ∉ integerNames :=
        others family listed
  unfold numeric
  dsimp only
  -- Only the last family holds integers, and it has one argument.
  split_ifs with decimal floating
  · have noInteger := apart ["decimal", "numeric"] (by simpa using decimal) (by decide)
    exact ⟨_, rfl, fun integer => absurd integer noInteger⟩
  · have noInteger := apart ["float", "double", "real"] (by simpa using floating) (by decide)
    cases p.precision with
    | none => exact ⟨_, rfl, fun integer => absurd integer noInteger⟩
    | some precision => exact ⟨_, rfl, fun integer => absurd integer noInteger⟩
  · exact ⟨_, rfl, fun _ => Nat.le_refl 1⟩

/-- The normal form of a declared type of numbers. -/
theorem normalizeType_named {name : String} (listed : lowerCase name ∈ integerNames ++ decimalNames)
    {arguments : List Nat} (atMostOne : lowerCase name ∈ integerNames → arguments.length ≤ 1)
    (unsigned : Bool) :
    normalizeType (Sql.ColumnType.named name arguments unsigned).text =
      numberForm (lowerCase name) arguments unsigned := by
  apply normalizeType_number listed atMostOne
  show lower (String.ofList (name.toList ++ argumentChars arguments ++
    if unsigned then " UNSIGNED".toList else [])).toList = _
  rw [String.toList_ofList, Text.lower_append, Text.lower_append, lower_arguments,
    Text.toList_lowerCase]
  -- Both sides are the same text but for the unsigned word.
  cases unsigned <;> rfl

/-- The display width of an integer is left out of the normal form, whether it is shown or not. -/
theorem normalizeType_shown_named {name : String}
    (listed : lowerCase name ∈ integerNames ++ decimalNames) {arguments : List Nat}
    (atMostOne : lowerCase name ∈ integerNames → arguments.length ≤ 1) (unsigned widths : Bool) :
    normalizeType (shownText widths (.named name arguments unsigned)) =
      numberForm (shownName (lowerCase name)) arguments unsigned := by
  obtain ⟨shown, sameKind⟩ := shownName_mem listed
  -- The arguments that are shown, which may lack the width of an integer.
  let kept := if shownName (lowerCase name) ∈ integerNames ∧ widths = false then [] else arguments
  have keptAtMostOne : shownName (lowerCase name) ∈ integerNames → kept.length ≤ 1 := by
    intro integer
    by_cases hidden : widths = false
    · simp [kept, integer, hidden]
    · simpa [kept, hidden] using atMostOne (sameKind.1 integer)
  have form : numberForm (shownName (lowerCase name)) kept unsigned =
      numberForm (shownName (lowerCase name)) arguments unsigned := by
    unfold numberForm
    by_cases integer : shownName (lowerCase name) ∈ integerNames <;> simp [kept, integer]
  rw [← form]
  apply normalizeType_number shown keptAtMostOne
  rw [shownText, String.toList_ofList]
  exact lower_number shown kept unsigned

/-- The names that servers show as other ones. -/
def synonyms : List String := ["integer", "numeric", "real"]

/-- A type has the same normal form under its shown name exactly if this is its own name. -/
theorem numberForm_shownName_iff {name : String} (arguments : List Nat) (unsigned : Bool) :
    numberForm (shownName name) arguments unsigned = numberForm name arguments unsigned ↔
      name ∉ synonyms := by
  by_cases synonym : name ∈ synonyms
  · refine iff_of_false ?_ (not_not.2 synonym)
    simp only [synonyms, List.mem_cons, List.not_mem_nil, or_false] at synonym
    intro same
    -- Each synonym is shown under a name that differs from it.
    rcases synonym with rfl | rfl | rfl
    · have names : "int".toList ++ [] = "integer".toList ++ [] := List.append_cancel_right same
      exact absurd names (by decide)
    · have letters := (List.cons.inj (show 'd' :: _ = 'n' :: _ from same)).1
      exact absurd letters (by decide)
    · have letters := (List.cons.inj (show 'd' :: _ = 'r' :: _ from same)).1
      exact absurd letters (by decide)
  · have names : ∀ name, name ∉ synonyms → shownName name = name := by
      intro name other
      simp only [synonyms, List.mem_cons, List.not_mem_nil, or_false, not_or] at other
      simp [shownName, other]
    exact iff_of_true (by rw [names name synonym]) synonym

/-! ## §3 Lists of texts -/

/-- A character that servers show as it is, quotes aside. -/
def IsShown (c : Char) : Prop := ' ' ≤ c ∧ c ≠ '\\'

/-- The normal form of a character that is shown is that of the shown one, unless it is a double
quote. -/
theorem normalChar_of_isShown {c : Char} (shown : IsShown c) :
    normalChar c = if c = '"' then ['\\', '"'] else lower (shownChar c) := by
  have written := written_stringChar c
  unfold normalChar shownChar
  generalize stringChar c = s at written ⊢
  cases written with
  | plain noQuote noBackslash noDouble => rw [if_neg noQuote, if_neg noDouble, if_neg noQuote]
  | quote => rfl
  | backslash => exact absurd rfl shown.2
  | @escape c e listed =>
    -- The others are control characters.
    have others : ∀ pair ∈ escapes, ' ' ≤ pair.1 → pair = ('"', '"') := by decide
    obtain ⟨rfl, rfl⟩ := Prod.mk.inj (others _ listed shown.1)
    rfl

/-- Without backslashes, a text is normalized character by character. -/
theorem normalContents_of_isShown {v : List Char} (shown : ∀ c ∈ v, IsShown c) :
    normalContents v = v.flatMap normalChar ++ ['\''] := by
  induction v with
  | nil => rfl
  | cons c v ih =>
    have noBackslash : ¬ (c = '\\' ∧ v = []) :=
      fun last => (shown c (List.mem_cons_self ..)).2 last.1
    rw [normalContents, if_neg noBackslash, ih fun d h => shown d (List.mem_cons_of_mem _ h),
      List.flatMap_cons, List.append_assoc]

/-- Without double quotes, its normal form is the shown text in lower case. -/
theorem normalValue_of_isShown {v : List Char} (shown : ∀ c ∈ v, IsShown c) (noDouble : '"' ∉ v) :
    normalValue v = lower (shownValue v) := by
  -- On shown characters doubling a quote and lowering commute.
  have chars : v.flatMap normalChar = lower (v.flatMap shownChar) := by
    rw [lower, List.map_flatMap]
    apply List.flatMap_congr
    intro c h
    have other : c ≠ '"' := fun same => noDouble (same ▸ h)
    rw [normalChar_of_isShown (shown c h), if_neg other]
    rfl
  rw [normalValue, normalContents_of_isShown shown, chars]
  simp [shownValue, lower]

/-- A double quote has a backslash before it, in the normal form too. -/
theorem backslash_mem_normalValue {v : List Char} (shown : ∀ c ∈ v, IsShown c) (double : '"' ∈ v) :
    '\\' ∈ normalValue v := by
  rw [normalValue, normalContents_of_isShown shown]
  apply List.mem_cons_of_mem
  apply List.mem_append_left
  exact List.mem_flatMap.2 ⟨'"', double, by decide⟩

/-- A shown text has no backslash. -/
theorem backslash_not_mem_shownValue {v : List Char} (shown : ∀ c ∈ v, IsShown c) :
    '\\' ∉ lower (shownValue v) := by
  -- In the value as shown, before the letters are lowered.
  have noBackslash : '\\' ∉ shownValue v := by
    intro h
    simp only [shownValue, List.cons_append, List.mem_cons, List.mem_append, List.mem_flatMap] at h
    rcases h with quote | ⟨c, listed, char⟩ | quote | none
    · cases quote
    · unfold shownChar at char
      split at char
      · simp at char
      · exact (shown c listed).2 (List.mem_singleton.1 char).symm
    · cases quote
    · cases none
  intro h
  obtain ⟨c, listed, same⟩ := List.mem_map.1 h
  rw [Text.eq_of_toLower_eq rfl same] at listed
  exact noBackslash listed

/-- A list of texts is in its normal form as it is shown, but for letter case. -/
theorem normalizeType_shown_enumeration {values : List String}
    (shown : ∀ v ∈ values, ∀ c ∈ v.toList, IsShown c) (widths : Bool) :
    normalizeType (shownText widths (.enumeration values)) =
      "enum".toList ++ parenthesised (values.map fun v => lower (shownValue v.toList)) := by
  let text := "enum".toList ++ parenthesised (values.map fun v => shownValue v.toList)
  have small : lower text =
      "enum".toList ++ parenthesised (values.map fun v => lower (shownValue v.toList)) := by
    rw [Text.lower_append, lower_parenthesised, List.map_map]
    rfl
  -- Without a backslash there is no escaped quote to double.
  have noBackslash : '\\' ∉ lower text := by
    rw [small]
    intro h
    rcases List.mem_append.1 h with letter | h
    · exact absurd letter (by decide)
    · obtain ⟨item, listed, h⟩ := (mem_parenthesised_iff (by decide)).1 h
      obtain ⟨v, value, rfl⟩ := List.mem_map.1 listed
      exact backslash_not_mem_shownValue (shown v value) h
  show withoutWidth (quotesDoubled (lower (Text.trim (String.ofList text).toList))) = _
  rw [String.toList_ofList, trim_parenthesised (by decide), quotesDoubled,
    Text.replacePair_of_not_mem noBackslash, small]
  rfl

/-- The declared list has the same normal form exactly if no text has a double quote. -/
theorem normalizeType_shown_enumeration_iff {values : List String}
    (shown : ∀ v ∈ values, ∀ c ∈ v.toList, IsShown c) (widths : Bool) :
    normalizeType (shownText widths (.enumeration values)) =
      normalizeType (Sql.ColumnType.enumeration values).text ↔
      ∀ v ∈ values, '"' ∉ v.toList := by
  rw [normalizeType_shown_enumeration shown, normalizeType_enumeration]
  constructor
  · intro same v listed double
    -- The declared type has a backslash, and the shown one has none.
    have declared : '\\' ∈ parenthesised (values.map fun v => normalValue v.toList) :=
      (mem_parenthesised_iff (by decide)).2
        ⟨_, List.mem_map_of_mem listed, backslash_mem_normalValue (shown v listed) double⟩
    rw [← List.append_cancel_left same] at declared
    obtain ⟨item, member, h⟩ := (mem_parenthesised_iff (by decide)).1 declared
    obtain ⟨w, value, rfl⟩ := List.mem_map.1 member
    exact backslash_not_mem_shownValue (shown w value) h
  · intro noDouble
    have same : values.map (fun v => lower (shownValue v.toList)) = values.map fun v =>
        normalValue v.toList :=
      List.map_congr_left fun v h => (normalValue_of_isShown (shown v h) (noDouble v h)).symm
    rw [same]

end Reconcile

/-! ## §4 Columns that are recognised -/

namespace Property

/-- The properties of which is known how servers show their types: lists of texts without control
characters and backslashes, and numbers but for those of single precision. -/
def HasShownType (p : Property) : Prop :=
  match p.type with
  | .enumeration values => ∀ v ∈ values, ∀ c ∈ v.toList, IsShown c
  | .number => lowerCase (storageName p "INT") ∈ integerNames ++ decimalNames
  | _ => False

/-- The shown type is that of the property again. -/
def IsRecognised (p : Property) : Prop :=
  match p.type with
  | .enumeration values => ∀ v ∈ values, '"' ∉ v.toList
  | .number => lowerCase (storageName p "INT") ∉ synonyms
  | _ => True

/-- A shown type is recognised exactly if the property is. -/
theorem normalizeType_shown_iff {p : Property} (known : p.HasShownType) (widths : Bool) :
    normalizeType (shownText widths (ofProperty p)) = normalizeType (ofProperty p).text ↔
      p.IsRecognised := by
  unfold HasShownType at known
  unfold IsRecognised
  -- The hypothesis leaves only numbers and enumerations.
  cases type : p.type with
  | enumeration values =>
    rw [type] at known
    have declared : ofProperty p = .enumeration values := by rw [ofProperty, type]
    rw [declared]
    exact normalizeType_shown_enumeration_iff known widths
  | number =>
    rw [type] at known
    obtain ⟨arguments, numeric, atMostOne⟩ := exists_numeric_eq p (storageName p "INT")
    have declared : ofProperty p = .named (storageName p "INT") arguments p.unsigned := by
      rw [ofProperty, type]
      exact numeric
    rw [declared, normalizeType_shown_named known atMostOne, normalizeType_named known atMostOne]
    exact numberForm_shownName_iff arguments p.unsigned
  | _ =>
    rw [type] at known
    exact known.elim

/-- The column of a property as a server shows it after it has made it. -/
def shownField (widths : Bool) (p : Property) : LiveField :=
  ⟨p.name, shownText widths (ofProperty p), !p.isNotNull⟩

/-- **A column is recognised as a server shows it** exactly if none of its texts has a double quote,
or if the server calls its type by the declared name.  Then the types have one normal form, and no
plan changes the column. -/
theorem columnDiffers_shown_iff {p : Property} (known : p.HasShownType) (widths : Bool) :
    (normalizeType (p.shownField widths).columnType = normalizeType (ofProperty p).text ↔
      p.IsRecognised) ∧
      (columnDiffers p (p.shownField widths) = false ↔ p.IsRecognised) := by
  have types := normalizeType_shown_iff known widths
  refine ⟨types, ?_⟩
  rw [columnDiffers, shownField, Model.nullabilityDiffers_isNotNull, Bool.false_or,
    bne_eq_false_iff_eq]
  exact types

/-- A list of texts with single quotes, commas and capitals. -/
def moods : Property := .ofType "mood" (.enumeration ["it's", "', '", "Fine", ""])

/-- Single quotes, commas and capitals are recognised. -/
theorem columnDiffers_shown_moods :
    moods.HasShownType ∧ columnDiffers moods (moods.shownField true) = false := by
  have known : moods.HasShownType := by
    simp [HasShownType, moods, ofType, IsShown]
  have recognised : moods.IsRecognised := by
    simp [IsRecognised, moods, ofType]
  exact ⟨known, (columnDiffers_shown_iff known true).2.2 recognised⟩

end Property

namespace Model

/-- A model with a column of the type `INTEGER` and one with a text that has a double quote. -/
def unrecognised : Model :=
  ⟨"t", none, [{ Property.ofType "a" .number with dataType := some "integer" },
    .ofType "size" (.enumeration ["5\""])], [], ⟨none, .server⟩⟩

/-- Its table as a server shows it, with display widths. -/
def unrecognisedTable : LiveTable where
  fields := ⟨idColumn, "int(11)", false⟩ :: unrecognised.properties.map (Property.shownField true)
  indexes := [⟨primaryIndex, idColumn, 1⟩]

/-- Columns are changed although the server shows what was made. -/
theorem plan_unrecognised :
    (∀ p ∈ unrecognised.properties, p.HasShownType) ∧
      unrecognisedTable.fields.map (·.columnType) = ["int(11)", "int(11)", "enum('5\"')"] ∧
      (∀ p ∈ unrecognised.properties,
        normalizeType (p.shownField true).columnType ≠ normalizeType (ofProperty p).text) ∧
      unrecognised.plan (some unrecognisedTable) = .ok (.alter "`t`"
        ["CHANGE COLUMN `a` `a` INTEGER(11) NULL",
          "CHANGE COLUMN `size` `size` ENUM('5\\\"') NULL"]) := by
  refine ⟨?_, by decide, by decide, rfl⟩
  intro p listed
  simp only [unrecognised, List.mem_cons, List.not_mem_nil, or_false] at listed
  -- The number, then the enumeration with a double quote.
  rcases listed with rfl | rfl
  · show lowerCase (storageName _ "INT") ∈ integerNames ++ decimalNames
    decide
  · show ∀ v ∈ ["5\""], ∀ c ∈ v.toList, IsShown c
    simp [IsShown]

end Model

end TableMapper
