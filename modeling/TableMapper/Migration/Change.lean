import TableMapper.Sql.TableDefinition

/-!
# Migration plans

A plan is the text of what has to be sent: either the one statement that makes a table, or the
clauses that change it, possibly none.  `TableChange` is the same as data.
-/

namespace TableMapper

/-- Whether a plan makes a table or changes one. -/
inductive PlanKind where
  | create
  | alter
  deriving DecidableEq, Repr

def PlanKind.name : PlanKind → String
  | .create => "create"
  | .alter => "alter"

/-- Statements that bring a table up to date. -/
structure MigrationPlan where
  /-- The quoted name of the table. -/
  table : String
  kind : PlanKind
  statements : List String
  deriving DecidableEq, Repr

namespace MigrationPlan

def create (table statement : String) : MigrationPlan := ⟨table, .create, [statement]⟩

def alter (table : String) (clauses : List String) : MigrationPlan := ⟨table, .alter, clauses⟩

def needsChanges (p : MigrationPlan) : Bool := !p.statements.isEmpty

/-- The plan as one statement to send, if there is anything to do. -/
def sql? (p : MigrationPlan) : Option String :=
  if p.statements.isEmpty then none
  else
    match p.kind with
    | .create => some (String.intercalate ";\n" p.statements)
    | .alter => some ("ALTER TABLE " ++ p.table ++ " " ++ String.intercalate ",\n" p.statements)

end MigrationPlan

/-- A table to make, or the changes of a table. -/
inductive TableChange where
  | create (table : Sql.CreateTable)
  | alter (table : String) (clauses : List Sql.AlterClause)
  deriving DecidableEq, Repr

def TableChange.plan : TableChange → MigrationPlan
  | .create table => .create (Sql.quoteName table.table) table.text
  | .alter table clauses => .alter (Sql.quoteName table) (clauses.map Sql.AlterClause.text)

end TableMapper
