import TableMapper.Sql.Literal

/-!
# Predicates

The conditions of statements, as trees.  A conjunction is a list of predicates; only disjunctions
are parenthesised, since `AND` binds tighter than `OR`.
-/

namespace TableMapper.Sql

/-- A comparison between a column and a literal. -/
inductive Comparison where
  | eq
  | ne
  | gt
  | ge
  | lt
  | le
  deriving DecidableEq, Repr

def Comparison.symbol : Comparison → String
  | .eq => "="
  | .ne => "!="
  | .gt => ">"
  | .ge => ">="
  | .lt => "<"
  | .le => "<="

/-- A predicate on rows. -/
inductive Predicate where
  | isNull (column : String)
  | compare (column : String) (comparison : Comparison) (literal : Literal)
  | between (column : String) (low high : Literal)
  /-- Membership in a list that has a member, or its negation. -/
  | member (column : String) (negated : Bool) (literals : List Literal)
  | like (column pattern : String)
  /-- True of every row or of none. -/
  | constant (value : Bool)
  /-- Each disjunct is a conjunction. -/
  | anyOf (disjuncts : List (List Predicate))
  deriving Repr, Inhabited

/-- The texts with `separator` between them. -/
def joined (separator : String) (parts : List (List Char)) : List Char :=
  separator.toList.intercalate parts

namespace Predicate

mutual

def chars : Predicate → List Char
  | .isNull column => identifierChars column.toList ++ " IS NULL".toList
  | .compare column comparison literal =>
    identifierChars column.toList ++ ' ' :: comparison.symbol.toList ++ ' ' :: literal.chars
  | .between column low high =>
    identifierChars column.toList ++ " BETWEEN ".toList ++ low.chars ++ " AND ".toList ++ high.chars
  | .member column negated literals =>
    identifierChars column.toList ++ (if negated then " NOT IN (" else " IN (").toList ++
      joined "," (literals.map Literal.chars) ++ [')']
  | .like column pattern =>
    identifierChars column.toList ++ " LIKE ".toList ++ stringChars pattern.toList
  | .constant value => if value then ['1'] else ['0']
  -- Only here are brackets needed: a disjunction may stand inside a conjunction.
  | .anyOf disjuncts => '(' :: joined " OR " (disjunctChars disjuncts) ++ [')']

def disjunctChars : List (List Predicate) → List (List Char)
  | [] => []
  | conjunction :: rest => joined " AND " (conjunctChars conjunction) :: disjunctChars rest

def conjunctChars : List Predicate → List (List Char)
  | [] => []
  | predicate :: rest => chars predicate :: conjunctChars rest

end

/-- The text of a conjunction. -/
def conjunctionChars (conjunction : List Predicate) : List Char :=
  joined " AND " (conjunctChars conjunction)

def conjunctionText (conjunction : List Predicate) : String :=
  String.ofList (conjunctionChars conjunction)

end Predicate

end TableMapper.Sql
