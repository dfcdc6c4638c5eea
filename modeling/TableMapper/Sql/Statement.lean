import TableMapper.Sql.Predicate

/-!
# Statements

The statements that read and write rows, as data with one text each.
-/

namespace TableMapper.Sql

/-! ## §1 Parts -/

/-- The direction of an order term. -/
inductive Direction where
  | ascending
  | descending
  deriving DecidableEq, Repr

def Direction.keyword : Direction → String
  | .ascending => "ASC"
  | .descending => "DESC"

/-- A column to order or group by, perhaps with a direction. -/
structure OrderTerm where
  column : String
  direction : Option Direction
  deriving DecidableEq, Repr

def OrderTerm.chars (term : OrderTerm) : List Char :=
  identifierChars term.column.toList ++
    match term.direction with
    | none => []
    | some direction => ' ' :: direction.keyword.toList

/-- How many rows a query gives, and how many it leaves out before them. -/
structure Window where
  limit : Nat
  skip : Option Nat
  deriving DecidableEq, Repr

def Window.chars (w : Window) : List Char :=
  match w.skip with
  | none => Decimal.natChars w.limit
  -- The rows to leave out come first, as in `LIMIT 20, 10`.
  | some skip => Decimal.natChars skip ++ ", ".toList ++ Decimal.natChars w.limit

/-- A column and the literal it is set to. -/
structure Assignment where
  column : String
  literal : Literal
  deriving DecidableEq, Repr

def Assignment.chars (a : Assignment) : List Char :=
  identifierChars a.column.toList ++ " = ".toList ++ a.literal.chars

/-! ## §2 Statements -/

/-- A query for rows.  Without columns it gives them all. -/
structure Select where
  columns : List String
  table : String
  predicate : Option (List Predicate)
  group : List OrderTerm
  order : List OrderTerm
  window : Option Window
  deriving Repr

/-- A query for the number of rows. -/
structure Count where
  table : String
  predicate : Option (List Predicate)
  deriving Repr

/-- A new row. -/
structure Insert where
  table : String
  assignments : List Assignment
  deriving DecidableEq, Repr

/-- A new row, or new values for the row with its id: `assignments` make the new row, and `updates`
are the columns set to the same literals in an old one.  If there are none, the id is set to
itself. -/
structure Upsert where
  table : String
  assignments : List Assignment
  updates : List Assignment
  /-- The column that is set to itself if nothing is updated. -/
  key : String
  deriving DecidableEq, Repr

/-- New values for the rows that satisfy a condition. -/
structure Update where
  table : String
  assignments : List Assignment
  predicate : List Predicate
  deriving Repr

/-! ## §3 Texts -/

/-- A clause with its keyword, or nothing. -/
def clause (keyword : String) (body : Option (List Char)) : List Char :=
  match body with
  | none => []
  | some chars => keyword.toList ++ chars

/-- The body of a list clause, if the list has members. -/
def listBody {α : Type} (chars : α → List Char) (items : List α) : Option (List Char) :=
  if items.isEmpty then none else some (joined ", " (items.map chars))

def columnChars (name : String) : List Char := identifierChars name.toList

namespace Select

def chars (s : Select) : List Char :=
  "SELECT ".toList ++ (listBody columnChars s.columns).getD ['*'] ++
    " FROM ".toList ++ columnChars s.table ++
    clause " WHERE " (s.predicate.map Predicate.conjunctionChars) ++
    clause " GROUP BY " (listBody OrderTerm.chars s.group) ++
    clause " ORDER BY " (listBody OrderTerm.chars s.order) ++
    clause " LIMIT " (s.window.map Window.chars)

def text (s : Select) : String := String.ofList s.chars

end Select

namespace Count

def chars (c : Count) : List Char :=
  "SELECT count(*) as cnt FROM ".toList ++ columnChars c.table ++
    clause " WHERE " (c.predicate.map Predicate.conjunctionChars)

def text (c : Count) : String := String.ofList c.chars

end Count

namespace Insert

def chars (i : Insert) : List Char :=
  "INSERT INTO ".toList ++ columnChars i.table ++
    match listBody Assignment.chars i.assignments with
    -- A row without assignments takes the default of every column.
    | none => " VALUES ()".toList
    | some body => " SET ".toList ++ body

def text (i : Insert) : String := String.ofList i.chars

end Insert

namespace Upsert

def chars (u : Upsert) : List Char :=
  "INSERT INTO ".toList ++ columnChars u.table ++
    " (".toList ++ joined ", " (u.assignments.map fun a => columnChars a.column) ++
    ") VALUES (".toList ++ joined ", " (u.assignments.map fun a => a.literal.chars) ++
    ") ON DUPLICATE KEY UPDATE ".toList ++
    -- The key set to itself leaves an old row as it is, but makes the statement whole.
    (listBody Assignment.chars u.updates).getD
      (columnChars u.key ++ " = ".toList ++ columnChars u.key)

def text (u : Upsert) : String := String.ofList u.chars

end Upsert

namespace Update

def chars (u : Update) : List Char :=
  "UPDATE ".toList ++ columnChars u.table ++
    " SET ".toList ++ joined ", " (u.assignments.map Assignment.chars) ++
    " WHERE ".toList ++ Predicate.conjunctionChars u.predicate

def text (u : Update) : String := String.ofList u.chars

end Update

end TableMapper.Sql
