import Mathlib.Data.List.Infix
import TableMapper.Proofs.Sql.Denotation
import TableMapper.Proofs.Text.Cutting
import TableMapper.Sql.Statement

/-!
# Reading statements

The grammar of the statements that read and write rows, from tokens, and the proofs that it gives
back what their texts were written from.

- `readSelect?`, `readCount?`, `readInsert?` and `readUpdate?` read whole texts;
- `readItems?` and `readClause?` are the two shapes that statements are made of: items with commas
  between them, and a clause that may be missing;
- `ReadsAs` says that a text is read as a condition wherever it stands in a statement.

Names come back as they were, with points between the parts of their paths.
-/

namespace TableMapper.Sql

/-! ## §1 Shapes of statements -/

/-- The name whose parts a path has. -/
def Path.name (path : Path) : String := String.ofList (['.'].intercalate (path.map String.toList))

/-- One or more items with commas between them at the beginning of the tokens, and the rest. -/
def readItems? {α : Type} (read : List Token → Option (α × List Token)) (ts : List Token) :
    Option (List α × List Token) :=
  match read ts with
  | some (item, .mark ',' :: rest) =>
    if rest.length < ts.length then
      (readItems? read rest).map fun (items, rest) => (item :: items, rest)
    else none
  | some (item, rest) => some ([item], rest)
  | none => none
termination_by ts.length

/-- What follows the opening words of a clause, and the rest; nothing is read if the tokens do not
begin with them. -/
def readClause? {α : Type} (words : List Token) (read : List Token → Option (α × List Token))
    (ts : List Token) : Option (Option α × List Token) :=
  match words.isPrefixOf? ts with
  | some ts => (read ts).map fun (a, rest) => (some a, rest)
  | none => some (none, ts)

/-! ## §2 Queries -/

/-- A name at the beginning of the tokens, and the rest. -/
def readNameToken? : List Token → Option (String × List Token)
  | .name path :: ts => some (path.name, ts)
  | _ => none

/-- A column to order or group by, perhaps with a direction, and the rest. -/
def readTerm? : List Token → Option (OrderTerm × List Token)
  | .name path :: .word "ASC" :: ts => some (⟨path.name, some .ascending⟩, ts)
  | .name path :: .word "DESC" :: ts => some (⟨path.name, some .descending⟩, ts)
  | .name path :: ts => some (⟨path.name, none⟩, ts)
  | _ => none

/-- The columns of a query, none for all of them, and the rest. -/
def readProjection? : List Token → Option (Option (List String) × List Token)
  | .mark '*' :: ts => some (none, ts)
  | ts => (readItems? readNameToken? ts).map fun (columns, rest) => (some columns, rest)

/-- The natural number of a token. -/
def Token.natural? : Token → Option Nat
  | .number ⟨false, n, []⟩ => some n
  | _ => none

/-- The numbers behind `LIMIT`: how many rows, or how many to leave out and how many. -/
def readWindow? : List Token → Option (Window × List Token)
  | first :: .mark ',' :: second :: ts =>
    match first.natural?, second.natural? with
    | some skip, some limit => some (⟨limit, some skip⟩, ts)
    | _, _ => none
  | first :: ts => first.natural?.map fun limit => (⟨limit, none⟩, ts)
  | [] => none

/-- What a query for rows asks for. -/
structure SelectReading where
  /-- The columns, none for all of them. -/
  columns : Option (List String)
  table : String
  condition : Option Expr
  group : List OrderTerm
  order : List OrderTerm
  /-- The most rows to give. -/
  limit : Option Nat
  /-- The rows to leave out before them. -/
  skip : Option Nat
  deriving DecidableEq, Repr

/-- What a query for the number of rows asks for. -/
structure CountReading where
  table : String
  condition : Option Expr
  deriving DecidableEq, Repr

/-- The clauses behind the table of a query. -/
structure Clauses where
  condition : Option Expr
  group : Option (List OrderTerm)
  order : Option (List OrderTerm)
  window : Option Window

/-- The clauses that the tokens are, in the order in which they have to stand. -/
def readClauses? (ts : List Token) : Option Clauses := do
  let (condition, ts) ← readClause? [.word "WHERE"] readExpr? ts
  let (group, ts) ← readClause? [.word "GROUP", .word "BY"] (readItems? readTerm?) ts
  let (order, ts) ← readClause? [.word "ORDER", .word "BY"] (readItems? readTerm?) ts
  let (window, ts) ← readClause? [.word "LIMIT"] readWindow? ts
  if ts.isEmpty then some ⟨condition, group, order, window⟩ else none

/-- The query for rows that the tokens are. -/
def readSelectTokens? : List Token → Option SelectReading
  | .word "SELECT" :: ts =>
    match readProjection? ts with
    | some (columns, .word "FROM" :: .name table :: ts) =>
      (readClauses? ts).map fun clauses =>
        ⟨columns, table.name, clauses.condition, clauses.group.getD [], clauses.order.getD [],
          clauses.window.map Window.limit, clauses.window.bind Window.skip⟩
    | _ => none
  | _ => none

/-- The query for rows that a whole text is. -/
def readSelect? (s : String) : Option SelectReading := (tokens s.toList).bind readSelectTokens?

/-- The query for the number of rows that the tokens are. -/
def readCountTokens? : List Token → Option CountReading
  | .word "SELECT" :: .word "count" :: .mark '(' :: .mark '*' :: .mark ')' :: .word "as" ::
    .word "cnt" ::
      .word "FROM" :: .name table :: ts =>
    match readClause? [.word "WHERE"] readExpr? ts with
    | some (condition, []) => some ⟨table.name, condition⟩
    | _ => none
  | _ => none

/-- The query for the number of rows that a whole text is. -/
def readCount? (s : String) : Option CountReading := (tokens s.toList).bind readCountTokens?

/-! ## §3 New rows -/

/-- What a column is set to: a literal, or the value of a column. -/
inductive Operand where
  | literal (l : Literal)
  | column (name : String)
  deriving DecidableEq, Repr

/-- A column and what it is set to, and the rest. -/
def readSetting? : List Token → Option ((String × Operand) × List Token)
  | .name path :: .comparison .eq :: .name other :: ts => some ((path.name, .column other.name), ts)
  | .name path :: .comparison .eq :: t :: ts =>
    t.literal?.map fun literal => ((path.name, .literal literal), ts)
  | _ => none

/-- What a statement for a new row says. -/
inductive InsertReading where
  /-- All columns have their defaults. -/
  | defaults (table : String)
  | settings (table : String) (settings : List (String × Operand))
  /-- Columns and values of the new row, and the settings of an old one with its key. -/
  | upsert (table : String) (columns : List String) (values : List Literal)
      (settings : List (String × Operand))
  deriving DecidableEq, Repr

/-- The statement for a new row that the tokens are. -/
def readInsertTokens? : List Token → Option InsertReading
  | [.word "INSERT", .word "INTO", .name table, .word "VALUES", .mark '(', .mark ')'] =>
    some (.defaults table.name)
  | .word "INSERT" :: .word "INTO" :: .name table :: .word "SET" :: ts =>
    match readItems? readSetting? ts with
    | some (settings, []) => some (.settings table.name settings)
    | _ => none
  | .word "INSERT" :: .word "INTO" :: .name table :: .mark '(' :: ts =>
    match readItems? readNameToken? ts with
    | some (columns, .mark ')' :: .word "VALUES" :: .mark '(' :: ts) =>
      match readMembers? ts with
      | some (values, .word "ON" :: .word "DUPLICATE" :: .word "KEY" :: .word "UPDATE" :: ts) =>
        match readItems? readSetting? ts with
        | some (settings, []) => some (.upsert table.name columns values settings)
        | _ => none
      | _ => none
    | _ => none
  | _ => none

/-- The statement for a new row that a whole text is. -/
def readInsert? (s : String) : Option InsertReading := (tokens s.toList).bind readInsertTokens?

/-! ## §4 Changes of rows -/

/-- What a statement that changes rows says.  Without a condition it changes all of them. -/
structure UpdateReading where
  table : String
  settings : List (String × Operand)
  condition : Option Expr
  deriving DecidableEq, Repr

/-- The statement that changes rows that the tokens are. -/
def readUpdateTokens? : List Token → Option UpdateReading
  | .word "UPDATE" :: .name table :: .word "SET" :: ts =>
    match readItems? readSetting? ts with
    | some (settings, ts) =>
      match readClause? [.word "WHERE"] readExpr? ts with
      | some (condition, []) => some ⟨table.name, settings, condition⟩
      | _ => none
    | none => none
  | _ => none

/-- The statement that changes rows that a whole text is. -/
def readUpdate? (s : String) : Option UpdateReading := (tokens s.toList).bind readUpdateTokens?

/-! ## §5 Items and clauses -/

@[simp]
theorem Path.name_ofName (name : String) : (Path.ofName name).name = name := by
  simp [Path.name, Path.ofName, Function.comp_def, Text.intercalate_splitOn]

/-- The tokens of items with commas between them. -/
def itemTokens (items : List (List Token)) : List Token := [.mark ','].intercalate items

@[simp]
theorem itemTokens_singleton (ts : List Token) : itemTokens [ts] = ts := by
  simp [itemTokens]

@[simp]
theorem itemTokens_cons_cons (ts ts' : List Token) (items : List (List Token)) :
    itemTokens (ts :: ts' :: items) = ts ++ .mark ',' :: itemTokens (ts' :: items) := by
  simp [itemTokens, List.intercalate_cons_cons]

theorem Cuts.item {s t : List Char} {ts us : List Token} (first : Cuts s ts) (second : Cuts t us) :
    Cuts (s ++ ", ".toList ++ t) (ts ++ .mark ',' :: us) := by
  have spaced : Cuts (' ' :: t) us := by
    intro rest stop
    rw [List.cons_append, tokens_space, second rest stop]
  simpa using first.comma spaced

section Items

variable {α : Type} {chars : α → List Char} {toks : α → List Token} {items : List α}

/-- Items with commas between them are cut into their tokens. -/
theorem cuts_items (nonempty : items ≠ []) (each : ∀ a, Cuts (chars a) (toks a)) :
    Cuts (joined ", " (items.map chars)) (itemTokens (items.map toks)) := by
  induction items with
  | nil => exact absurd rfl nonempty
  | cons a items ih =>
    cases items with
    | nil => simpa using each a
    | cons a' items =>
      have both := (each a).item (ih (List.cons_ne_nil _ _))
      simpa using both

theorem readItems?_of_comma {read : List Token → Option (α × List Token)} {ts rest : List Token}
    {a : α} (first : read ts = some (a, .mark ',' :: rest)) (shorter : rest.length < ts.length) :
    readItems? read ts = (readItems? read rest).map fun (items, rest) => (a :: items, rest) := by
  rw [readItems?, first]
  simp [shorter]

theorem readItems?_of_last {read : List Token → Option (α × List Token)} {ts rest : List Token}
    {a : α} (last : read ts = some (a, rest)) (stop : rest.head? ≠ some (.mark ',')) :
    readItems? read ts = some ([a], rest) := by
  rw [readItems?, last]
  -- Nothing but a comma would make the reader go on.
  cases rest with
  | nil => rfl
  | cons t rest =>
    have other : t ≠ .mark ',' := fun same => stop (congrArg some same)
    split
    case h_1 same =>
      cases same
      exact absurd rfl other
    case h_2 same => cases same; rfl
    case h_3 none => cases none

/-- Items are read back one by one if each is, before a comma as well as before the rest. -/
theorem readItems?_append {β : Type} {read : List Token → Option (β × List Token)} (value : α → β)
    (rest : List Token) (nonempty : items ≠ []) (stop : rest.head? ≠ some (.mark ','))
    (inner : ∀ a more, read (toks a ++ .mark ',' :: more) = some (value a, .mark ',' :: more))
    (last : ∀ a, read (toks a ++ rest) = some (value a, rest)) :
    readItems? read (itemTokens (items.map toks) ++ rest) = some (items.map value, rest) := by
  induction items with
  | nil => exact absurd rfl nonempty
  | cons a items ih =>
    -- The last item stops the reader, the others have a comma.
    cases items with
    | nil => simpa using readItems?_of_last (last a) stop
    | cons a' items =>
      have others := ih (List.cons_ne_nil _ _)
      rw [List.map_cons, List.map_cons, itemTokens_cons_cons, List.append_assoc, List.cons_append,
        readItems?_of_comma (inner a _) (by simp; omega), ← List.map_cons, others]
      rfl

end Items

/-- The tokens of a clause that may be missing. -/
def clauseTokens (words : List Token) (body : Option (List Token)) : List Token :=
  (body.map (words ++ ·)).getD []

/-- The keyword begins a clause with the given words. -/
def Opens (keyword : String) (words : List Token) : Prop :=
  ∃ s, keyword.toList = ' ' :: s ∧ ∀ t us, Cuts t us → Cuts (s ++ t) (words ++ us)

/-- A clause adds its tokens, if it is there. -/
theorem Cuts.clause {s : List Char} {ts : List Token} {keyword : String} {words : List Token}
    {body : Option (List Char)} {bodyTokens : Option (List Token)} (first : Cuts s ts)
    (opens : Opens keyword words) (cuts : Option.Rel Cuts body bodyTokens) :
    Cuts (s ++ Sql.clause keyword body) (ts ++ clauseTokens words bodyTokens) := by
  cases cuts with
  | none => simpa [Sql.clause, clauseTokens] using first
  | some cuts =>
    obtain ⟨k, spelled, opened⟩ := opens
    have both := first.space (opened _ _ cuts)
    simpa [Sql.clause, clauseTokens, spelled] using both

/-- Whether the tokens are at an end or begin with one of the keywords. -/
def BeginsWith (keywords : List String) (ts : List Token) : Prop :=
  ∀ t ∈ ts.head?, ∃ k ∈ keywords, t = .word k

@[simp]
theorem beginsWith_nil (keywords : List String) : BeginsWith keywords [] := by
  simp [BeginsWith]

/-- A clause begins with its own keyword, or what follows it does with one of theirs. -/
theorem BeginsWith.clause {keywords : List String} {rest : List Token}
    (later : BeginsWith keywords rest) (keyword : String) (words : List Token)
    (body : Option (List Token)) :
    BeginsWith (keyword :: keywords) (clauseTokens (.word keyword :: words) body ++ rest) := by
  intro t first
  -- A clause left out lets the next one begin.
  cases body with
  | none =>
    obtain ⟨k, listed, same⟩ := later t (by simpa [clauseTokens] using first)
    exact ⟨k, List.mem_cons_of_mem _ listed, same⟩
  | some body =>
    exact ⟨keyword, List.mem_cons_self .., by simpa [clauseTokens, eq_comm] using first⟩

/-- What begins with a keyword does not begin with another token. -/
theorem BeginsWith.head?_ne {keywords : List String} {rest : List Token}
    (begins : BeginsWith keywords rest)
    {t : Token} (other : ∀ k ∈ keywords, t ≠ .word k) : rest.head? ≠ some t := by
  intro first
  obtain ⟨k, listed, same⟩ := begins t first
  exact other k listed same

theorem isPrefixOf?_eq_none {t : Token} {ts rest : List Token} (other : rest.head? ≠ some t) :
    (t :: ts).isPrefixOf? rest = none := by
  cases rest with
  | nil => rfl
  | cons u rest =>
    have differs : t ≠ u := fun same => other (congrArg some same.symm)
    simp [List.isPrefixOf?, differs]

/-- A clause is read back if it is there, and passed over if it is not. -/
theorem readClause?_append {α : Type} (t : Token) (words : List Token)
    {read : List Token → Option (α × List Token)} {body : Option (List Token)} {value : Option α}
    {rest : List Token} (other : rest.head? ≠ some t)
    (reads : Option.Rel (fun ts a => read (ts ++ rest) = some (a, rest)) body value) :
    readClause? (t :: words) read (clauseTokens (t :: words) body ++ rest) =
      some (value, rest) := by
  -- A clause left out is not mistaken for the next one.
  cases reads with
  | none => simp [readClause?, clauseTokens, isPrefixOf?_eq_none other]
  | @some ts a reads =>
    have opened : (t :: words).isPrefixOf? (t :: words ++ (ts ++ rest)) = some (ts ++ rest) :=
      List.isPrefixOf?_eq_some_iff_append_eq.2 rfl
    have clause : clauseTokens (t :: words) (some ts) ++ rest = t :: words ++ (ts ++ rest) := by
      simp [clauseTokens]
    rw [readClause?, clause, opened]
    simp [reads]

/-! ## §6 Conditions inside statements -/

/-- The text `s` is read as the condition `e` wherever no connective follows it. -/
def ReadsAs (s : List Char) (e : Expr) : Prop :=
  ∃ ts, Cuts s ts ∧ ∀ rest, rest.head? ≠ some (.word "AND") → rest.head? ≠ some (.word "OR") →
    readExpr? (ts ++ rest) = some (e, rest)

theorem readConnective?_of_stop {e : Expr} {rest : List Token}
    (noAnd : rest.head? ≠ some (.word "AND"))
    (noOr : rest.head? ≠ some (.word "OR")) : readConnective? [] none e rest = some (e, rest) := by
  rw [readConnective?]
  · rfl
  · intro ts same
    simp [same] at noAnd
  · intro ts same
    simp [same] at noOr

/-- A text with a meaning is read as an expression. -/
theorem Denotes.exists_readsAs {s : List Char} {v : Meaning} (denotes : Denotes s v) :
    ∃ e, ReadsAs s e := by
  obtain ⟨ts, cuts, read⟩ := denotes
  obtain ⟨e, step, -⟩ := read none
  refine ⟨e, ts, cuts, fun rest noAnd noOr => ?_⟩
  rw [readExpr?, Level.start, step, readConnective?_of_stop noAnd noOr]

/-- A condition inside a statement is the one that its text alone is read as. -/
theorem ReadsAs.readCondition? {s : List Char} {e : Expr} (reads : ReadsAs s e) :
    readCondition? (String.ofList s) = some e := by
  obtain ⟨ts, cuts, read⟩ := reads
  have whole : tokens s = some ts := by
    simpa using cuts [] delimited_nil
  have alone : readExpr? ts = some (e, []) := by
    simpa using read [] (by simp) (by simp)
  simp [Sql.readCondition?, whole, alone]

end TableMapper.Sql
