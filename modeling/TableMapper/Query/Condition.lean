import TableMapper.Error
import TableMapper.Text.Search

/-!
# Conditions

A condition tree says which rows are meant: a list of fields with a condition on each, all of which
have to hold.  Under the key `or` stands a list of trees, one of which has to hold.

`ConditionTree.ofJson` reads a tree from a document, in which null and scalars mean equality, arrays
mean membership, and an object with one key is an operator.
-/

namespace TableMapper

/-! ## §1 Trees -/

/-- How a field is compared with a value, equality apart. -/
inductive Relation where
  | gt
  | gte
  | lt
  | lte
  | neq
  deriving DecidableEq, Repr

/-- The condition on a field. -/
inductive Condition where
  /-- Equal to the value; null if it is null, and in the list if it is an array. -/
  | equal (v : Value)
  | range (low high : Value)
  | list (values : List Value) (negated : Bool)
  | compare (relation : Relation) (v : Value)
  | like (pattern : String)
  /-- One of the trees holds; the field does not count. -/
  | or (disjuncts : List (List (String × Condition)))
  deriving Repr, Inhabited

/-- Fields with their conditions, in order. -/
abbrev ConditionTree := List (String × Condition)

/-- The key of a disjunction. -/
def orKey : String := "or"

namespace Condition

/-- The operators that compare with a value of any kind. -/
def relation? (operator : String) : Option Relation :=
  if operator = "gt" then some .gt
  else if operator = "gte" then some .gte
  else if operator = "lt" then some .lt
  else if operator = "lte" then some .lte
  else if operator = "neq" then some .neq
  else none

/-! ## §2 Reading -/

/-- The values of a list operand; a single document counts as a list of itself. -/
def operandValues : Json → List Value
  | .array items => items.map Value.ofJson
  | j => [Value.ofJson j]

/-- The condition of an operator and its operand. -/
def ofOperator (field operator : String) (operand : Json) : Except Error Condition :=
  match relation? operator with
  | some relation => .ok (.compare relation (Value.ofJson operand))
  | none =>
    if operator = "between" then
      match operand with
      | .array [low, high] => .ok (.range (Value.ofJson low) (Value.ofJson high))
      | _ => .error (.invalidFilter (.betweenNotPair field))
    else if operator = "inq" then .ok (.list (operandValues operand) false)
    else if operator = "nin" then .ok (.list (operandValues operand) true)
    else if operator = "like" then
      match operand with
      | .string pattern => .ok (.like pattern)
      | _ => .error (.invalidFilter (.likeNotText field))
    else .error (.invalidFilter (.unknownOperator operator field))

/-- The condition of a document under a field. -/
def ofJson (field : String) : Json → Except Error Condition
  -- An array under a field means membership, as with `inq`.
  | .array items => .ok (.list (items.map Value.ofJson) false)
  -- An empty object has no operator: it stands for null.
  | .object [] => .ok (.equal .null)
  | .object [(operator, operand)] => ofOperator field operator operand
  | .object entries => .error (.invalidFilter (.severalOperators field (entries.map (·.1))))
  | j => .ok (.equal (Value.ofJson j))

end Condition

namespace ConditionTree

mutual

/-- The tree of a document, its entries in their order. -/
def ofJson : Json → Except Error ConditionTree
  | .object entries => ofEntries entries
  | j => .error (.invalidFilter (.whereNotObject j))

/-- The conditions of an object's entries. -/
def ofEntries : List (String × Json) → Except Error ConditionTree
  | [] => .ok []
  | (key, value) :: rest =>
    -- The disjunction is kept under `or`, in whatever letters the document spells it.
    if Text.sameLetters key orKey then
      match value with
      | .array items =>
        match ofDisjuncts items with
        | .error e => .error e
        | .ok disjuncts =>
          match ofEntries rest with
          | .error e => .error e
          | .ok tree => .ok ((orKey, .or disjuncts) :: tree)
      | _ => .error (.invalidFilter .orNotArray)
    else
      match Condition.ofJson key value with
      | .error e => .error e
      | .ok condition =>
        match ofEntries rest with
        | .error e => .error e
        | .ok tree => .ok ((key, condition) :: tree)

def ofDisjuncts : List Json → Except Error (List ConditionTree)
  | [] => .ok []
  | item :: rest =>
    match ofJson item with
    | .error e => .error e
    | .ok tree =>
      match ofDisjuncts rest with
      | .error e => .error e
      | .ok trees => .ok (tree :: trees)

end

end ConditionTree

end TableMapper
