import TableMapper.Proofs.Sql.Token

/-!
# What conditions mean

Conditions of statements have three truth values, since a comparison with null is neither true nor
false.

- `Truth` has the connectives of the server, with `no` deciding a conjunction and `yes` a
  disjunction;
- `Atom` is a test whose outcome in a row the server knows and this library does not;
- `Expr` is a condition built from atoms, whose value follows from theirs.
-/

namespace TableMapper.Sql

/-! ## §1 Truth values -/

/-- The value of a condition in a row. -/
inductive Truth where
  | yes
  | unknown
  | no
  deriving DecidableEq, Repr

namespace Truth

/-- The value of a conjunction. -/
def and : Truth → Truth → Truth
  | no, _ => no
  | _, no => no
  | yes, yes => yes
  | _, _ => unknown

/-- The value of a disjunction. -/
def or : Truth → Truth → Truth
  | yes, _ => yes
  | _, yes => yes
  | no, no => no
  | _, _ => unknown

/-- The value of a negation. -/
def not : Truth → Truth
  | yes => no
  | unknown => unknown
  | no => yes

/-- The value of a decided condition. -/
def ofBool (b : Bool) : Truth := if b then yes else no

/-- The value of the disjunction of a list; the empty one does not hold. -/
def any : List Truth → Truth := List.foldr or no

@[simp]
theorem yes_and (t : Truth) : yes.and t = t := by
  cases t <;> rfl

@[simp]
theorem and_yes (t : Truth) : t.and yes = t := by
  cases t <;> rfl

theorem and_assoc (s t u : Truth) : (s.and t).and u = s.and (t.and u) := by
  cases s <;> cases t <;> cases u <;> rfl

@[simp]
theorem no_or (t : Truth) : no.or t = t := by
  cases t <;> rfl

@[simp]
theorem or_no (t : Truth) : t.or no = t := by
  cases t <;> rfl

theorem or_assoc (s t u : Truth) : (s.or t).or u = s.or (t.or u) := by
  cases s <;> cases t <;> cases u <;> rfl

end Truth

/-! ## §2 Conditions -/

/-- A test of a column in a row. -/
inductive Atom where
  | isNull (column : Path)
  | compare (column : Path) (comparison : Comparison) (literal : Literal)
  | like (column : Path) (pattern : String)
  deriving DecidableEq, Repr

/-- A condition. -/
inductive Expr where
  | atom (a : Atom)
  /-- A number alone, which holds unless it is zero. -/
  | number (d : Decimal)
  | between (column : Path) (low high : Literal)
  | member (column : Path) (negated : Bool) (literals : List Literal)
  | and (first second : Expr)
  | or (first second : Expr)
  deriving DecidableEq, Repr

/-- The value of a membership test. -/
def memberTruth (atoms : Atom → Truth) (column : Path) (literals : List Literal) : Truth :=
  Truth.any (literals.map fun literal => atoms (.compare column .eq literal))

/-- The value of a condition in a row, given the values of the atoms there. -/
def Expr.truth (atoms : Atom → Truth) : Expr → Truth
  | .atom a => atoms a
  | .number d => Truth.ofBool (d.numerator != 0)
  | .between column low high =>
    (atoms (.compare column .ge low)).and (atoms (.compare column .le high))
  | .member column negated literals =>
    if negated then (memberTruth atoms column literals).not else memberTruth atoms column literals
  | .and first second => (first.truth atoms).and (second.truth atoms)
  | .or first second => (first.truth atoms).or (second.truth atoms)

end TableMapper.Sql
