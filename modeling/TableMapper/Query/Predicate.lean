import TableMapper.Column.Encoding
import TableMapper.Query.Condition
import TableMapper.Sql.Predicate

/-!
# The predicates of conditions

What a condition tree says about the rows of a model's table.  Every value is encoded for the column
of its key; the first value that cannot be encoded, from left to right and from the outside in, is
the error of the whole tree, and so is a disjunction without disjuncts or with an empty one.
-/

namespace TableMapper

def Relation.comparison : Relation → Sql.Comparison
  | .gt => .gt
  | .gte => .ge
  | .lt => .lt
  | .lte => .le
  | .neq => .ne

namespace Model

/-! ## §1 Single conditions -/

/-- The literals of values that each must have a single one. -/
def literals (m : Model) (key : String) (values : List Value) : Except Error (List Sql.Literal) :=
  tryMap (m.literal key) values

/-- The literals of the two ends of a range. -/
def ends (m : Model) (key : String) (low high : Value) :
    Except Error (Sql.Literal × Sql.Literal) :=
  match m.literal key low with
  | .error e => .error e
  | .ok low =>
    match m.literal key high with
    | .error e => .error e
    | .ok high => .ok (low, high)

/-- Membership in a list.  Nothing is in the empty list, which no statement can hold. -/
def membership (m : Model) (key : String) (values : List Value) (negated : Bool) :
    Except Error Sql.Predicate :=
  -- `IN ()` is no statement: the test is replaced by its value.
  if values.isEmpty then .ok (.constant negated)
  else
    match m.literals key values with
    | .error e => .error e
    | .ok literals => .ok (.member key negated literals)

/-- Equality with a value: null has a test of its own, and an array means membership. -/
def equality (m : Model) (key : String) (v : Value) : Except Error Sql.Predicate :=
  match v with
  | .null => .ok (.isNull key)
  | .array values => m.membership key values false
  | v =>
    match m.literal key v with
    | .error e => .error e
    | .ok literal => .ok (.compare key .eq literal)

/-! ## §2 Trees -/

mutual

/-- The predicate of a condition. -/
def predicate (m : Model) (key : String) : Condition → Except Error Sql.Predicate
  | .equal v => m.equality key v
  | .range low high =>
    match m.ends key low high with
    | .error e => .error e
    | .ok (low, high) => .ok (.between key low high)
  | .list values negated => m.membership key values negated
  | .compare relation v =>
    match m.literal key v with
    | .error e => .error e
    | .ok literal => .ok (.compare key relation.comparison literal)
  | .like pattern => .ok (.like key pattern)
  | .or trees =>
    if trees.isEmpty then .error (.invalidFilter .emptyOr)
    else
      match disjuncts m trees with
      | .error e => .error e
      | .ok conjunctions => .ok (.anyOf conjunctions)

/-- The conjunctions of a disjunction's trees, none of which may be empty. -/
def disjuncts (m : Model) : List (List (String × Condition)) →
    Except Error (List (List Sql.Predicate))
  | [] => .ok []
  | tree :: rest =>
    -- An empty disjunct would hold of every row.
    if tree.isEmpty then .error (.invalidFilter .emptyDisjunct)
    else
      match predicates m tree with
      | .error e => .error e
      | .ok conjunction =>
        match disjuncts m rest with
        | .error e => .error e
        | .ok conjunctions => .ok (conjunction :: conjunctions)

/-- The predicates of a tree, all of which have to hold. -/
def predicates (m : Model) : List (String × Condition) → Except Error (List Sql.Predicate)
  | [] => .ok []
  | (key, c) :: rest =>
    match predicate m key c with
    | .error e => .error e
    | .ok first =>
      match predicates m rest with
      | .error e => .error e
      | .ok others => .ok (first :: others)

end

/-- The text of a tree's predicates; an empty tree has the empty text. -/
def whereText (m : Model) (tree : ConditionTree) : Except Error String :=
  (m.predicates tree).map Sql.Predicate.conjunctionText

/-! ## §3 Operands -/

/-- The text of a condition's operand alone. -/
def operandText (m : Model) (key : String) (c : Condition) : Except Error String :=
  match c with
  | .equal v => (m.literal key v).map Sql.Literal.text
  | .compare _ v => (m.literal key v).map Sql.Literal.text
  | .range low high => (m.ends key low high).map fun pair => pair.1.text ++ " AND " ++ pair.2.text
  | .list values _ =>
    (m.literals key values).map fun ls => String.intercalate "," (ls.map Sql.Literal.text)
  | .like pattern => .ok (Sql.quoteString pattern)
  | .or _ => .error (.invalidFilter .orAsOperand)

end Model

end TableMapper
