import TableMapper.Proofs.Sql.Expression
import TableMapper.Proofs.Sql.Quoting

/-!
# What the texts of predicates denote

The texts of predicates are put together from tokens, lists, conjunctions and parenthesised
disjunctions.  Each way of putting texts together keeps two facts at once:

- `Cuts`: the text is cut into the tokens it was made from;
- `Denotes` and `DenotesAny`: the tokens are read as a condition of the given meaning, whatever was
  read before them and whatever follows.

A conjunction may stand where an operand may; a disjunction only between parentheses or at the
outside.
-/

namespace TableMapper.Sql

/-! ## §1 Texts with separators -/

theorem Cuts.space {s t : List Char} {ts us : List Token} (first : Cuts s ts) (second : Cuts t us) :
    Cuts (s ++ ' ' :: t) (ts ++ us) := by
  intro rest stop
  rw [List.append_assoc, first _ (by simp), List.cons_append, tokens_space, second rest stop,
    before_before]

theorem Cuts.comma {s t : List Char} {ts us : List Token} (first : Cuts s ts) (second : Cuts t us) :
    Cuts (s ++ ',' :: t) (ts ++ .mark ',' :: us) := by
  intro rest stop
  rw [List.append_assoc, first _ (by simp), List.cons_append, tokens_mark (c := ',') rfl,
    second rest stop, before_before, before_before]
  simp

theorem Cuts.parentheses {s : List Char} {ts : List Token} (inner : Cuts s ts) :
    Cuts ('(' :: s ++ [')']) (.mark '(' :: ts ++ [.mark ')']) := by
  intro rest _
  rw [List.append_assoc, List.cons_append, tokens_mark (c := '(') rfl, List.singleton_append,
    inner _ (by simp), tokens_mark (c := ')') rfl]
  simp

/-- Whether the text is a word of letters, as keywords are. -/
def isKeyword (word : String) : Bool := !word.toList.isEmpty && word.toList.all isLetter

/-- A keyword is one token. -/
theorem cuts_keyword (word : String) (keyword : isKeyword word = true) :
    Cuts word.toList [.word word] := by
  rw [isKeyword, Bool.and_eq_true, Bool.not_eq_true', List.isEmpty_eq_false_iff] at keyword
  obtain ⟨nonempty, letters⟩ := keyword
  obtain ⟨c, s, chars⟩ := List.exists_cons_of_ne_nil nonempty
  have cuts := cuts_word (c := c) (s := s) (by simpa [chars] using letters)
  rwa [← chars, String.ofList_toList] at cuts

theorem readComparison?_symbol (c : Comparison) {rest : List Char} (stop : rest.head? ≠ some '=') :
    readComparison? (c.symbol.toList ++ rest) = some (c, rest) := by
  cases c with
  | eq | ne | ge | le => rfl
  -- These two are also the beginnings of longer signs.
  | gt | lt =>
    cases rest with
    | nil => rfl
    | cons d rest =>
      have other : d ≠ '=' := fun same => stop (congrArg some same)
      simp [Comparison.symbol, readComparison?, other]

theorem cuts_comparison (c : Comparison) : Cuts c.symbol.toList [.comparison c] := by
  intro rest stop
  have read := readComparison?_symbol c (stop.head?_ne (c := '=') (by decide))
  -- Every symbol begins with a character that no other token begins with.
  obtain ⟨d, s, chars, noSpace, token⟩ : ∃ d s, c.symbol.toList = d :: s ∧ isSpace d = false ∧
      ∀ s, readToken? (d :: s) = (readComparison? (d :: s)).map fun p =>
        (.comparison p.1, p.2) := by
    cases c <;> exact ⟨_, _, rfl, rfl, fun _ => rfl⟩
  rw [chars, List.cons_append] at read ⊢
  apply tokens_of_readToken? noSpace
  rw [token, read]
  rfl

/-- The token of a literal. -/
def Literal.token : Literal → Token
  | .null => .word "NULL"
  | .number d => .number d
  | .quoted s => .string s

@[simp]
theorem Literal.literal?_token (l : Literal) : l.token.literal? = some l := by
  cases l <;> rfl

/-- The text of a literal is one token. -/
theorem cuts_literal (l : Literal) : Cuts l.chars [l.token] := by
  cases l with
  | null => exact cuts_keyword "NULL" rfl
  | number d => exact cuts_number d
  | quoted s => exact cuts_string s

/-- The tokens of a list's members. -/
def memberTokens (literals : List Literal) : List Token :=
  [.mark ','].intercalate (literals.map fun literal => [literal.token])

@[simp]
theorem memberTokens_singleton (l : Literal) : memberTokens [l] = [l.token] := by
  simp [memberTokens]

theorem memberTokens_cons_cons (l l' : Literal) (literals : List Literal) :
    memberTokens (l :: l' :: literals) = l.token :: .mark ',' :: memberTokens (l' :: literals) := by
  simp [memberTokens, List.intercalate_cons_cons]

/-- The texts of literals with commas between them are their tokens. -/
theorem cuts_members {literals : List Literal} (nonempty : literals ≠ []) :
    Cuts (joined "," (literals.map Literal.chars)) (memberTokens literals) := by
  induction literals with
  | nil => exact absurd rfl nonempty
  | cons l literals ih =>
    -- The last literal has no comma behind it.
    cases literals with
    | nil => simpa using cuts_literal l
    | cons l' literals =>
      have both := (cuts_literal l).comma (ih (List.cons_ne_nil _ _))
      rw [memberTokens_cons_cons]
      simpa using both

/-- The members of a list are read up to the closing bracket. -/
theorem readMembers?_append {literals : List Literal} (nonempty : literals ≠ [])
    (rest : List Token) :
    readMembers? (memberTokens literals ++ .mark ')' :: rest) = some (literals, rest) := by
  induction literals with
  | nil => exact absurd rfl nonempty
  | cons l literals ih =>
    -- As the writer has it, the last one stands apart.
    cases literals with
    | nil => simp [readMembers?]
    | cons l' literals =>
      have others := ih (List.cons_ne_nil _ _)
      rw [memberTokens_cons_cons, List.cons_append, List.cons_append, readMembers?, others]
      simp

/-! ## §2 Meanings -/

/-- What a condition is worth in a row, given the values of the atoms there. -/
abbrev Meaning := (Atom → Truth) → Truth

/-- The conjunction of the operands read before, all of which hold if there are none. -/
def conjunctionTruth (atoms : Atom → Truth) : Option Expr → Truth
  | none => .yes
  | some e => e.truth atoms

/-- The disjunction of the operands read before, none of which holds if there are none. -/
def disjunctionTruth (atoms : Atom → Truth) : Option Expr → Truth
  | none => .no
  | some e => e.truth atoms

/-- Joining to a conjunction adds a factor to its truth. -/
@[simp]
theorem truth_andAfter (atoms : Atom → Truth) (first : Option Expr) (e : Expr) :
    (andAfter first e).truth atoms = (conjunctionTruth atoms first).and (e.truth atoms) := by
  cases first with
  | none => exact (Truth.yes_and _).symm
  | some first => rfl

/-- Joining to a disjunction adds a term to its truth. -/
@[simp]
theorem truth_orAfter (atoms : Atom → Truth) (first : Option Expr) (e : Expr) :
    (orAfter first e).truth atoms = (disjunctionTruth atoms first).or (e.truth atoms) := by
  cases first with
  | none => exact (Truth.no_or _).symm
  | some first => rfl

/-- The text `s` stands for one or more operands whose conjunction means `value`. -/
def Denotes (s : List Char) (value : Meaning) : Prop :=
  ∃ ts, Cuts s ts ∧ ∀ conjunction, ∃ e,
    (∀ outer disjunction rest, readOperand? outer ⟨disjunction, conjunction⟩ (ts ++ rest) =
      readConnective? outer disjunction e rest) ∧
    ∀ atoms, e.truth atoms = (conjunctionTruth atoms conjunction).and (value atoms)

/-- The text `s` stands for one or more conjunctions whose disjunction means `value`. -/
def DenotesAny (s : List Char) (value : Meaning) : Prop :=
  ∃ ts, Cuts s ts ∧ ∀ disjunction, ∃ disjunction' e,
    (∀ outer rest, readOperand? outer ⟨disjunction, none⟩ (ts ++ rest) =
      readConnective? outer disjunction' e rest) ∧
    ∀ atoms, (orAfter disjunction' e).truth atoms =
      (disjunctionTruth atoms disjunction).or (value atoms)

/-! ## §3 Tests -/

/-- A test is an operand. -/
theorem readOperand?_of_readTest? {ts rest : List Token} {e : Expr}
    (read : readTest? ts = some (e, rest)) (outer : List Level) (level : Level) :
    readOperand? outer level ts =
      readConnective? outer level.disjunction (andAfter level.conjunction e) rest := by
  -- An opening parenthesis would be taken first, but begins no test.
  have noParenthesis : ∀ us, ts = .mark '(' :: us → False := by
    rintro us rfl
    have none : readTest? (.mark '(' :: us) = none := rfl
    cases none.symm.trans read
  rw [readOperand?]
  case x => exact noParenthesis
  split
  case h_1 none => cases none.symm.trans read
  case h_2 e' rest' same =>
    obtain ⟨rfl, rfl⟩ := Prod.mk.inj (Option.some.inj (same.symm.trans read))
    rfl

/-- A text that is read as a test has the meaning of the test. -/
theorem denotes_test {s : List Char} {ts : List Token} {e : Expr} (cuts : Cuts s ts)
    (read : ∀ rest, readTest? (ts ++ rest) = some (e, rest)) :
    Denotes s fun atoms => e.truth atoms :=
  ⟨ts, cuts, fun conjunction => ⟨andAfter conjunction e,
    fun outer disjunction rest =>
      readOperand?_of_readTest? (read rest) outer ⟨disjunction, conjunction⟩,
    fun atoms => truth_andAfter atoms conjunction e⟩⟩

theorem denotes_isNull (column : String) :
    Denotes (Predicate.isNull column).chars fun atoms => atoms (.isNull (Path.ofName column)) := by
  have cuts : Cuts (Predicate.isNull column).chars
      [.name (Path.ofName column), .word "IS", .word "NULL"] := by
    have parts := ((cuts_name column).space (cuts_keyword "IS" rfl)).space (cuts_keyword "NULL" rfl)
    show Cuts (identifierChars column.toList ++ " IS NULL".toList) _
    simpa using parts
  exact denotes_test cuts fun rest => rfl

/-- A comparison is read back as itself. -/
theorem denotes_compare (column : String) (comparison : Comparison) (literal : Literal) :
    Denotes (Predicate.compare column comparison literal).chars
      fun atoms => atoms (.compare (Path.ofName column) comparison literal) := by
  -- Three tokens with one space between them.
  have cuts : Cuts (Predicate.compare column comparison literal).chars
      [.name (Path.ofName column), .comparison comparison, literal.token] := by
    have parts :=
      ((cuts_name column).space (cuts_comparison comparison)).space (cuts_literal literal)
    show Cuts (identifierChars column.toList ++ ' ' :: comparison.symbol.toList ++
        ' ' :: literal.chars) _
    simpa using parts
  apply denotes_test (e := .atom (.compare (Path.ofName column) comparison literal)) cuts
  intro rest
  show (literal.token.literal?.map fun l =>
      (Expr.atom (.compare (Path.ofName column) comparison l), rest)) = _
  rw [Literal.literal?_token]
  rfl

/-- A range means both its comparisons. -/
theorem denotes_between (column : String) (low high : Literal) :
    Denotes (Predicate.between column low high).chars
      fun atoms => (atoms (.compare (Path.ofName column) .ge low)).and
        (atoms (.compare (Path.ofName column) .le high)) := by
  have cuts : Cuts (Predicate.between column low high).chars
      [.name (Path.ofName column), .word "BETWEEN", low.token, .word "AND", high.token] := by
    have parts :=
      ((((cuts_name column).space (cuts_keyword "BETWEEN" rfl)).space (cuts_literal low)).space
      (cuts_keyword "AND" rfl)).space (cuts_literal high)
    show Cuts (identifierChars column.toList ++ " BETWEEN ".toList ++ low.chars ++ " AND ".toList ++
        high.chars) _
    simpa using parts
  apply denotes_test (e := .between (Path.ofName column) low high) cuts
  intro rest
  -- The token of a literal of each kind is read at once.
  cases low <;> cases high <;> rfl

theorem denotes_like (column pattern : String) :
    Denotes (Predicate.like column pattern).chars
      fun atoms => atoms (.like (Path.ofName column) pattern) := by
  have cuts : Cuts (Predicate.like column pattern).chars
      [.name (Path.ofName column), .word "LIKE", .string pattern] := by
    have parts := ((cuts_name column).space (cuts_keyword "LIKE" rfl)).space (cuts_string pattern)
    show Cuts (identifierChars column.toList ++ " LIKE ".toList ++ stringChars pattern.toList) _
    simpa using parts
  exact denotes_test cuts fun rest => rfl

theorem denotes_constant (value : Bool) :
    Denotes (Predicate.constant value).chars fun _ => Truth.ofBool value := by
  cases value with
  | true =>
    -- The constants are written as the numbers 1 and 0.
    exact denotes_test (e := .number ⟨false, 1, []⟩) (cuts_number ⟨false, 1, []⟩) fun rest => rfl
  | false =>
    exact denotes_test (e := .number ⟨false, 0, []⟩) (cuts_number ⟨false, 0, []⟩) fun rest => rfl

/-- A membership is read back as itself. -/
theorem denotes_member (column : String) (negated : Bool) {literals : List Literal}
    (nonempty : literals ≠ []) :
    Denotes (Predicate.member column negated literals).chars
      fun atoms => (Expr.member (Path.ofName column) negated literals).truth atoms := by
  have list := (cuts_members nonempty).parentheses
  have members (rest : List Token) :
      ((readMembers? (memberTokens literals ++ [.mark ')'] ++ rest)).map fun read =>
        (Expr.member (Path.ofName column) negated read.1, read.2)) =
          some (.member (Path.ofName column) negated literals, rest) := by
    rw [List.append_assoc, List.singleton_append, readMembers?_append nonempty]
    rfl
  -- A negated list has one keyword more.
  cases negated with
  | true =>
    have cuts :=
      (((cuts_name column).space (cuts_keyword "NOT" rfl)).space (cuts_keyword "IN" rfl)).space list
    apply denotes_test (by simpa [Predicate.chars] using cuts)
    exact members
  | false =>
    have cuts := ((cuts_name column).space (cuts_keyword "IN" rfl)).space list
    apply denotes_test (by simpa [Predicate.chars] using cuts)
    exact members

/-! ## §4 Connectives -/

/-- Texts with `AND` between them mean a conjunction. -/
theorem Denotes.and {s t : List Char} {v w : Meaning} (first : Denotes s v) (second : Denotes t w) :
    Denotes (s ++ " AND ".toList ++ t) fun atoms => (v atoms).and (w atoms) := by
  obtain ⟨ts, cutsFirst, readFirst⟩ := first
  obtain ⟨us, cutsSecond, readSecond⟩ := second
  refine ⟨ts ++ .word "AND" :: us, ?_, fun conjunction => ?_⟩
  · have parts := (cutsFirst.space (cuts_keyword "AND" rfl)).space cutsSecond
    simpa using parts
  · -- The second text goes on with the conjunction that the first one has made.
    obtain ⟨e, stepFirst, truthFirst⟩ := readFirst conjunction
    obtain ⟨e', stepSecond, truthSecond⟩ := readSecond (some e)
    refine ⟨e', fun outer disjunction rest => ?_, fun atoms => ?_⟩
    · rw [List.append_assoc, stepFirst, List.cons_append, readConnective?, stepSecond]
    · rw [truthSecond, conjunctionTruth, truthFirst, Truth.and_assoc]

/-- A conjunction is a disjunction with one disjunct. -/
theorem Denotes.any {s : List Char} {v : Meaning} (inner : Denotes s v) : DenotesAny s v := by
  obtain ⟨ts, cuts, read⟩ := inner
  obtain ⟨e, step, truth⟩ := read none
  refine ⟨ts, cuts, fun disjunction =>
    ⟨disjunction, e, fun outer rest => step outer disjunction rest,
    fun atoms => ?_⟩⟩
  rw [truth_orAfter, truth, conjunctionTruth, Truth.yes_and]

/-- Texts with `OR` between them mean a disjunction. -/
theorem Denotes.or {s t : List Char} {v w : Meaning} (first : Denotes s v)
    (second : DenotesAny t w) :
    DenotesAny (s ++ " OR ".toList ++ t) fun atoms => (v atoms).or (w atoms) := by
  obtain ⟨ts, cutsFirst, readFirst⟩ := first
  obtain ⟨us, cutsSecond, readSecond⟩ := second
  obtain ⟨e, stepFirst, truthFirst⟩ := readFirst none
  refine ⟨ts ++ .word "OR" :: us, ?_, fun disjunction => ?_⟩
  · have parts := (cutsFirst.space (cuts_keyword "OR" rfl)).space cutsSecond
    simpa using parts
  · -- `OR` closes the conjunction `e`, which joins the disjuncts before the second text begins.
    obtain ⟨disjunction', e', stepSecond, truthSecond⟩ := readSecond (some (orAfter disjunction e))
    refine ⟨disjunction', e', fun outer rest => ?_, fun atoms => ?_⟩
    · rw [List.append_assoc, stepFirst, List.cons_append, readConnective?, stepSecond]
    · rw [truthSecond, disjunctionTruth, truth_orAfter, truthFirst, conjunctionTruth, Truth.yes_and,
        Truth.or_assoc]

/-- A disjunction between parentheses is an operand. -/
theorem DenotesAny.parentheses {s : List Char} {v : Meaning} (inner : DenotesAny s v) :
    Denotes ('(' :: s ++ [')']) v := by
  obtain ⟨ts, cuts, read⟩ := inner
  -- Inside the parentheses nothing has been read before.
  obtain ⟨disjunction', e, step, truth⟩ := read none
  refine ⟨.mark '(' :: ts ++ [.mark ')'], cuts.parentheses, fun conjunction =>
    ⟨andAfter conjunction (orAfter disjunction' e), fun outer disjunction rest => ?_,
      fun atoms => ?_⟩⟩
  · rw [List.append_assoc, List.cons_append, readOperand?, Level.start, step, List.singleton_append,
      readConnective?]
  · rw [truth_andAfter, truth, disjunctionTruth, Truth.no_or]

end TableMapper.Sql
