import TableMapper.Proofs.Sql.Truth

/-!
# Reading conditions

The grammar of conditions, read from tokens.  `AND` binds tighter than `OR`, both group to the left,
and parentheses may surround any condition; the `AND` inside `BETWEEN` belongs to it.

- `readTest?` reads a condition without connectives and parentheses;
- `readOperand?` and `readConnective?` take turns over the rest, with the levels of open parentheses
  on a stack.
-/

namespace TableMapper.Sql

/-! ## §1 Tests -/

/-- The literal of a token. -/
def Token.literal? : Token → Option Literal
  | .word "NULL" => some .null
  | .number d => some (.number d)
  | .string s => some (.quoted s)
  | _ => none

/-- The members of a list up to its closing parenthesis, and the rest. -/
def readMembers? : List Token → Option (List Literal × List Token)
  | t :: .mark ',' :: ts =>
    match t.literal?, readMembers? ts with
    | some literal, some (literals, rest) => some (literal :: literals, rest)
    | _, _ => none
  | t :: .mark ')' :: ts => t.literal?.map fun literal => ([literal], ts)
  | _ => none

/-- A condition without connectives and parentheses at the beginning of the tokens, and the rest. -/
def readTest? : List Token → Option (Expr × List Token)
  | .number d :: ts => some (.number d, ts)
  | .name column :: .word "IS" :: .word "NULL" :: ts => some (.atom (.isNull column), ts)
  | .name column :: .comparison comparison :: t :: ts =>
    t.literal?.map fun literal => (.atom (.compare column comparison literal), ts)
  | .name column :: .word "BETWEEN" :: low :: .word "AND" :: high :: ts =>
    match low.literal?, high.literal? with
    | some low, some high => some (.between column low high, ts)
    | _, _ => none
  | .name column :: .word "IN" :: .mark '(' :: ts =>
    (readMembers? ts).map fun (literals, rest) => (.member column false literals, rest)
  | .name column :: .word "NOT" :: .word "IN" :: .mark '(' :: ts =>
    (readMembers? ts).map fun (literals, rest) => (.member column true literals, rest)
  | .name column :: .word "LIKE" :: .string pattern :: ts => some (.atom (.like column pattern), ts)
  | _ => none

theorem length_lt_of_readMembers? {ts rest : List Token} {literals : List Literal}
    (h : readMembers? ts = some (literals, rest)) : rest.length < ts.length := by
  fun_induction readMembers? ts generalizing literals with
  -- A literal and its comma, then the rest of the list.
  | case1 t ts literal more r read first ih =>
    obtain ⟨-, rfl⟩ := Prod.mk.inj (Option.some.inj h)
    have shorter := ih read
    simp only [List.length_cons]
    omega
  | case3 t ts =>
    obtain ⟨literal, -, equal⟩ := Option.map_eq_some_iff.1 h
    obtain ⟨-, rfl⟩ := Prod.mk.inj equal
    simp only [List.length_cons]
    omega
  | case2 => cases h
  | case4 => cases h

theorem length_lt_of_readTest? {ts rest : List Token} {e : Expr}
    (h : readTest? ts = some (e, rest)) : rest.length < ts.length := by
  unfold readTest? at h
  -- Each form takes its own tokens, and a list its members besides.
  split at h
  case h_1 | h_2 =>
    obtain ⟨-, rfl⟩ := Prod.mk.inj (Option.some.inj h)
    simp only [List.length_cons]
    omega
  case h_3 =>
    obtain ⟨literal, -, equal⟩ := Option.map_eq_some_iff.1 h
    obtain ⟨-, rfl⟩ := Prod.mk.inj equal
    simp only [List.length_cons]
    omega
  case h_4 =>
    split at h
    case h_1 =>
      obtain ⟨-, rfl⟩ := Prod.mk.inj (Option.some.inj h)
      simp only [List.length_cons]
      omega
    case h_2 => cases h
  case h_5 | h_6 =>
    obtain ⟨⟨literals, r⟩, read, equal⟩ := Option.map_eq_some_iff.1 h
    obtain ⟨-, rfl⟩ := Prod.mk.inj equal
    have shorter := length_lt_of_readMembers? read
    simp only [List.length_cons]
    omega
  case h_7 =>
    obtain ⟨-, rfl⟩ := Prod.mk.inj (Option.some.inj h)
    simp only [List.length_cons]
    omega
  case h_8 => cases h

/-! ## §2 Connectives -/

/-- What was read inside a pair of parentheses so far. -/
structure Level where
  /-- The disjuncts that are complete. -/
  disjunction : Option Expr
  /-- The conjuncts of the disjunct that is being read. -/
  conjunction : Option Expr

/-- The level at an opening parenthesis. -/
def Level.start : Level := ⟨none, none⟩

/-- The conjunction of what was read before, if anything, and a further conjunct. -/
def andAfter : Option Expr → Expr → Expr
  | none, e => e
  | some first, e => .and first e

/-- The disjunction of what was read before, if anything, and a further disjunct. -/
def orAfter : Option Expr → Expr → Expr
  | none, e => e
  | some first, e => .or first e

mutual

/-- Reads on where an operand must follow, inside the levels `outer`. -/
def readOperand? (outer : List Level) (level : Level) (ts : List Token) :
    Option (Expr × List Token) :=
  match ts with
  | .mark '(' :: ts => readOperand? (level :: outer) .start ts
  | ts =>
    match _ : readTest? ts with
    | none => none
    | some (e, rest) => readConnective? outer level.disjunction (andAfter level.conjunction e) rest
termination_by ts.length
decreasing_by
  · exact Nat.lt_succ_self _
  · exact length_lt_of_readTest? ‹_›

/-- Reads on behind an operand that completes the conjunction so far.  Outside parentheses, the
condition ends with the first token that is no connective. -/
def readConnective? (outer : List Level) (disjunction : Option Expr) (conjunction : Expr)
    (ts : List Token) : Option (Expr × List Token) :=
  match ts, outer with
  | .word "AND" :: ts, outer => readOperand? outer ⟨disjunction, some conjunction⟩ ts
  | .word "OR" :: ts, outer => readOperand? outer ⟨some (orAfter disjunction conjunction), none⟩ ts
  | ts, [] => some (orAfter disjunction conjunction, ts)
  | .mark ')' :: ts, level :: outer =>
    readConnective? outer level.disjunction
      (andAfter level.conjunction (orAfter disjunction conjunction)) ts
  | _, _ => none
termination_by ts.length

end

/-- A condition at the beginning of the tokens, and the rest. -/
def readExpr? (ts : List Token) : Option (Expr × List Token) := readOperand? [] .start ts

/-- The condition that a whole text is. -/
def readCondition? (s : String) : Option Expr :=
  match (tokens s.toList).bind readExpr? with
  | some (e, []) => some e
  | _ => none

end TableMapper.Sql
