import TableMapper.Model.Basic
import TableMapper.Sql.Quoting
import TableMapper.Number.Decimal

/-!
# Column types

The type of the column that a property is stored in, and the definition that follows the column's
name when a table is created or changed.

- `ColumnType.ofProperty` is the type, without character set and nullability, as servers report it;
- `ColumnDefinition.ofProperty` adds these.
-/

namespace TableMapper.Sql

/-! ## §1 Types -/

/-- A column type: a type name with numbers, or a list of allowed texts. -/
inductive ColumnType where
  | named (name : String) (arguments : List Nat) (unsigned : Bool)
  | enumeration (values : List String)
  deriving DecidableEq, Repr

namespace ColumnType

/-- A list in parentheses, without blanks. -/
def parenthesised (items : List (List Char)) : List Char :=
  '(' :: [','].intercalate items ++ [')']

def chars : ColumnType → List Char
  | .named name arguments unsigned =>
    name.toList ++
      (if arguments.isEmpty then [] else parenthesised (arguments.map Decimal.natChars)) ++
      (if unsigned then " UNSIGNED".toList else [])
  | .enumeration values =>
    "ENUM".toList ++ parenthesised (values.map fun v => stringChars v.toList)

def text (t : ColumnType) : String := String.ofList t.chars

/-! ## §2 The type of a property -/

/-- The length of texts that declare none. -/
def defaultLength : Nat := 255

/-- The precision and the scale of exact numbers that declare none. -/
def defaultDecimal : Nat × Nat := (9, 2)

/-- The storage type of a property in upper case, or `default` if it declares none. -/
def storageName (p : Property) (default : String) : String :=
  match p.dataType with
  | none => default
  | some name => Text.upperCase name

/-- The type of texts and dates. -/
def sized (p : Property) (name : String) : ColumnType :=
  let family := Text.lowerCase name
  -- Times have a length only if one is declared, long texts never, and all others always.
  if family = "datetime" ∨ family = "timestamp" ∨ family = "time" then
    .named name (p.length.map UInt32.toNat).toList false
  else if family = "text" ∨ family = "tinytext" ∨ family = "mediumtext" ∨ family = "longtext" then
    .named name [] false
  else
    .named name [((p.limit.or p.length).map UInt32.toNat).getD defaultLength] false

/-- The digits that integers of a family are shown in. -/
def defaultWidth (family : String) (unsigned : Bool) : Nat :=
  if family = "tinyint" then (if unsigned then 3 else 4)
  else if family = "smallint" then (if unsigned then 5 else 6)
  else if family = "mediumint" then (if unsigned then 8 else 9)
  else if family = "bigint" then 20
  else if unsigned then 10
  else 11

/-- The type of numbers. -/
def numeric (p : Property) (name : String) : ColumnType :=
  let family := Text.lowerCase name
  -- Exact numbers always have precision and scale, doubles only if a precision is declared, and
  -- integers have a display width.
  if family = "decimal" ∨ family = "numeric" then
    .named name [(p.precision.map UInt32.toNat).getD defaultDecimal.1,
      (p.scale.map UInt32.toNat).getD defaultDecimal.2] p.unsigned
  else if family = "float" ∨ family = "double" ∨ family = "real" then
    match p.precision with
    | none => .named name [] p.unsigned
    | some precision =>
      .named name (precision.toNat :: (p.scale.map UInt32.toNat).toList) p.unsigned
  else
    let declared := ((p.display.or p.limit).map UInt32.toNat).filter (0 < ·)
    .named name [declared.getD (defaultWidth family p.unsigned)] p.unsigned

/-- The type of the column of a property. -/
def ofProperty (p : Property) : ColumnType :=
  match p.type with
  | .array _ => .named "TEXT" [] false
  | .string => sized p (storageName p "VARCHAR")
  | .text => sized p (storageName p "LONGTEXT")
  | .json => sized p (storageName p "LONGTEXT")
  | .date => sized p (storageName p "DATETIME")
  | .number => numeric p (storageName p "INT")
  | .boolean => .named "TINYINT" [1] false
  | .point => .named "POINT" [] false
  | .enumeration values => .enumeration values

end ColumnType

/-! ## §3 Definitions -/

/-- What follows the name of a column: its type, its character set and collation, and whether it
takes NULL. -/
structure ColumnDefinition where
  type : ColumnType
  charset : Option String
  collation : Option String
  notNull : Bool
  deriving DecidableEq, Repr

namespace ColumnDefinition

def ofProperty (p : Property) : ColumnDefinition where
  type := ColumnType.ofProperty p
  charset := if p.type.acceptsCharset then p.charset else none
  collation := if p.type.acceptsCharset then p.collation else none
  notNull := p.isNotNull

/-- A keyword with a bare word after it, or nothing. -/
def option (keyword : String) (word : Option String) : List Char :=
  match word with
  | none => []
  | some word => keyword.toList ++ word.toList

def chars (d : ColumnDefinition) : List Char :=
  d.type.chars ++ option " CHARACTER SET " d.charset ++ option " COLLATE " d.collation ++
    (if d.notNull then " NOT NULL" else " NULL").toList

def text (d : ColumnDefinition) : String := String.ofList d.chars

end ColumnDefinition

end TableMapper.Sql
