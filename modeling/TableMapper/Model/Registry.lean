import TableMapper.Model.Basic

/-!
# The registry of models

The models that have been defined, in the order of their first definition.  A later definition of a
name takes the place of the earlier one.
-/

namespace TableMapper

/-- The models that have been defined. -/
structure Registry where
  models : List Model
  deriving DecidableEq, Repr

namespace Registry

def empty : Registry := ⟨[]⟩

/-- A model in the place of the one with its name, or at the end. -/
def place (model : Model) : List Model → List Model
  | [] => [model]
  | m :: rest => if m.name = model.name then model :: rest else m :: place model rest

def insert (r : Registry) (model : Model) : Registry := ⟨place model r.models⟩

def get? (r : Registry) (name : String) : Option Model := r.models.find? (·.name == name)

def size (r : Registry) : Nat := r.models.length

end Registry

end TableMapper
