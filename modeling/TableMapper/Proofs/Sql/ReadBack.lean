import TableMapper.Proofs.Sql.StatementReader

/-!
# Written statements are read back

The texts of queries and of statements that write rows are read back as the data that they were
written from.  For each part of a statement there are its tokens, a law that its text is cut into
them, and a law that its reader gives the part back from them and leaves the rest; the statements
only put their parts together.
-/

namespace TableMapper.Sql

/-! ## §1 Names and order terms -/

/-- The token of a name. -/
def nameTokens (name : String) : List Token := [.name (Path.ofName name)]

theorem readNameToken?_append (name : String) (rest : List Token) :
    readNameToken? (nameTokens name ++ rest) = some (name, rest) := by
  simp [nameTokens, readNameToken?]

theorem readItems?_names {names : List String} {rest : List Token} (nonempty : names ≠ [])
    (stop : rest.head? ≠ some (.mark ',')) :
    readItems? readNameToken? (itemTokens (names.map nameTokens) ++ rest) = some (names, rest) := by
  have all := readItems?_append id rest nonempty stop
    (fun name more => readNameToken?_append name (.mark ',' :: more))
    (fun name => readNameToken?_append name rest)
  rwa [List.map_id] at all

def OrderTerm.tokens (term : OrderTerm) : List Token :=
  .name (Path.ofName term.column) ::
    match term.direction with
    | none => []
    | some direction => [.word direction.keyword]

/-- The text of an order term is its tokens. -/
theorem cuts_orderTerm (term : OrderTerm) : Cuts term.chars term.tokens := by
  obtain ⟨column, _ | _ | _⟩ := term
  · simpa [OrderTerm.chars, OrderTerm.tokens] using cuts_name column
  · simpa [OrderTerm.chars, OrderTerm.tokens, Direction.keyword] using
      (cuts_name column).space (cuts_keyword "ASC" rfl)
  · simpa [OrderTerm.chars, OrderTerm.tokens, Direction.keyword] using
      (cuts_name column).space (cuts_keyword "DESC" rfl)

/-- A term ends where no direction follows its column. -/
theorem readTerm?_append (term : OrderTerm) {rest : List Token}
    (noAsc : rest.head? ≠ some (.word "ASC")) (noDesc : rest.head? ≠ some (.word "DESC")) :
    readTerm? (term.tokens ++ rest) = some (term, rest) := by
  -- Without a direction the next word must not look like one.
  obtain ⟨column, _ | _ | _⟩ := term
  · rw [OrderTerm.tokens, List.cons_append, List.nil_append, readTerm?]
    · simp
    · intro ts same
      simp [same] at noAsc
    · intro ts same
      simp [same] at noDesc
  · simp [OrderTerm.tokens, Direction.keyword, readTerm?]
  · simp [OrderTerm.tokens, Direction.keyword, readTerm?]

/-! ## §2 Lists that may be empty -/

section Lists

variable {α : Type} {chars : α → List Char} {toks : α → List Token} {items : List α}

/-- The tokens of a list, if it has members. -/
def listTokens (toks : α → List Token) (items : List α) : Option (List Token) :=
  if items.isEmpty then none else some (itemTokens (items.map toks))

/-- The list, if it has members. -/
def someItems (items : List α) : Option (List α) := if items.isEmpty then none else some items

@[simp]
theorem getD_someItems (items : List α) : (someItems items).getD [] = items := by
  cases items <;> rfl

/-- The text of a list clause is the tokens of its items, if it has any. -/
theorem cuts_listBody (each : ∀ a, Cuts (chars a) (toks a)) (items : List α) :
    Option.Rel Cuts (listBody chars items) (listTokens toks items) := by
  cases items with
  | nil => exact .none
  | cons a items => exact .some (cuts_items (List.cons_ne_nil _ _) each)

/-- A list clause is read back item by item. -/
theorem reads_listTokens {read : List Token → Option (α × List Token)} {rest : List Token}
    (stop : rest.head? ≠ some (.mark ','))
    (inner : ∀ a more, read (toks a ++ .mark ',' :: more) = some (a, .mark ',' :: more))
    (last : ∀ a, read (toks a ++ rest) = some (a, rest)) (items : List α) :
    Option.Rel (fun ts read' => readItems? read (ts ++ rest) = some (read', rest))
      (listTokens toks items) (someItems items) := by
  -- An empty list is not written at all.
  cases items with
  | nil => exact .none
  | cons a items =>
    have all := readItems?_append id rest (List.cons_ne_nil a items) stop inner last
    rw [List.map_id] at all
    exact .some all

end Lists

/-! ## §3 Queries -/

theorem opens_where : Opens " WHERE " [.word "WHERE"] := by
  refine ⟨"WHERE ".toList, rfl, fun t us cuts => ?_⟩
  simpa using (cuts_keyword "WHERE" rfl).space cuts

theorem opens_groupBy : Opens " GROUP BY " [.word "GROUP", .word "BY"] := by
  refine ⟨"GROUP BY ".toList, rfl, fun t us cuts => ?_⟩
  simpa using ((cuts_keyword "GROUP" rfl).space (cuts_keyword "BY" rfl)).space cuts

theorem opens_orderBy : Opens " ORDER BY " [.word "ORDER", .word "BY"] := by
  refine ⟨"ORDER BY ".toList, rfl, fun t us cuts => ?_⟩
  simpa using ((cuts_keyword "ORDER" rfl).space (cuts_keyword "BY" rfl)).space cuts

theorem opens_limit : Opens " LIMIT " [.word "LIMIT"] := by
  refine ⟨"LIMIT ".toList, rfl, fun t us cuts => ?_⟩
  simpa using (cuts_keyword "LIMIT" rfl).space cuts

/-- The token of a natural number. -/
def naturalToken (n : Nat) : Token := .number ⟨false, n, []⟩

@[simp]
theorem natural?_naturalToken (n : Nat) : (naturalToken n).natural? = some n := rfl

theorem cuts_natural (n : Nat) : Cuts (Decimal.natChars n) [naturalToken n] := by
  simpa [Decimal.chars, naturalToken] using cuts_number ⟨false, n, []⟩

def Window.tokens (w : Window) : List Token :=
  match w.skip with
  | none => [naturalToken w.limit]
  | some skip => [naturalToken skip, .mark ',', naturalToken w.limit]

theorem cuts_window (w : Window) : Cuts w.chars w.tokens := by
  obtain ⟨limit, _ | skip⟩ := w
  · exact cuts_natural limit
  · simpa [Window.chars, Window.tokens] using (cuts_natural skip).item (cuts_natural limit)

theorem readWindow?_tokens (w : Window) : readWindow? (w.tokens ++ []) = some (w, []) := by
  obtain ⟨limit, _ | skip⟩ := w <;> simp [Window.tokens, readWindow?]

/-- The columns of a query as they are written: an asterisk if there are none. -/
def projectionTokens (columns : List String) : List Token :=
  (listTokens nameTokens columns).getD [.mark '*']

theorem cuts_asterisk : Cuts ['*'] [.mark '*'] := by
  intro rest _
  exact tokens_mark rfl rest

theorem cuts_projection (columns : List String) :
    Cuts ((listBody columnChars columns).getD ['*']) (projectionTokens columns) := by
  cases columns with
  | nil => exact cuts_asterisk
  | cons column columns => exact cuts_items (List.cons_ne_nil _ _) cuts_name

theorem readProjection?_append (columns : List String) (rest : List Token)
    (stop : rest.head? ≠ some (.mark ',')) :
    readProjection? (projectionTokens columns ++ rest) = some (someItems columns, rest) := by
  cases columns with
  | nil => simp [projectionTokens, listTokens, someItems, readProjection?]
  | cons column columns =>
    have names := readItems?_names (List.cons_ne_nil column columns) stop
    have tokens : projectionTokens (column :: columns) =
        itemTokens ((column :: columns).map nameTokens) := rfl
    -- The first token is a name, and no asterisk.
    have noAsterisk : ∀ ts, itemTokens ((column :: columns).map nameTokens) ++ rest =
        .mark '*' :: ts → False := by
      intro ts same
      cases columns <;> simp [nameTokens] at same
    rw [tokens, readProjection?, names]
    · rfl
    · exact noAsterisk

/-- The tokens of the clauses of a query, given those of its condition. -/
def Select.clauseTokens (s : Select) (condition : Option (List Token)) : List Token :=
  Sql.clauseTokens [.word "WHERE"] condition ++
    (Sql.clauseTokens [.word "GROUP", .word "BY"] (listTokens OrderTerm.tokens s.group) ++
      (Sql.clauseTokens [.word "ORDER", .word "BY"] (listTokens OrderTerm.tokens s.order) ++
        (Sql.clauseTokens [.word "LIMIT"] (s.window.map Window.tokens) ++ [])))

/-- The tokens of a query for rows, given those of its condition. -/
def Select.tokens (s : Select) (condition : Option (List Token)) : List Token :=
  .word "SELECT" :: (projectionTokens s.columns ++
    .word "FROM" :: .name (Path.ofName s.table) :: s.clauseTokens condition)

/-- The text of a query is its tokens. -/
theorem cuts_select (s : Select) {condition : Option (List Token)}
    (cuts : Option.Rel Cuts (s.predicate.map Predicate.conjunctionChars) condition) :
    Cuts s.chars (s.tokens condition) := by
  -- Up to the table, then clause by clause in the order they are written.
  have head : Cuts ("SELECT ".toList ++ (listBody columnChars s.columns).getD ['*'] ++
      " FROM ".toList ++ columnChars s.table)
      (.word "SELECT" :: projectionTokens s.columns ++
        [.word "FROM", .name (Path.ofName s.table)]) := by
    have parts := (((cuts_keyword "SELECT" rfl).space (cuts_projection s.columns)).space
      (cuts_keyword "FROM" rfl)).space (cuts_name s.table)
    simpa [columnChars] using parts
  have window : Option.Rel Cuts (s.window.map Window.chars) (s.window.map Window.tokens) := by
    cases s.window with
    | none => exact .none
    | some w => exact .some (cuts_window w)
  have clauses := (((head.clause opens_where cuts).clause opens_groupBy
    (cuts_listBody cuts_orderTerm s.group)).clause opens_orderBy
    (cuts_listBody cuts_orderTerm s.order)).clause opens_limit window
  unfold Select.tokens Select.clauseTokens Select.chars
  simpa only [List.append_assoc, List.cons_append, List.nil_append, List.append_nil] using clauses

/-- The terms of a clause are read back before whatever other clauses follow. -/
theorem reads_orderTerms (terms : List OrderTerm) {keywords : List String} {rest : List Token}
    (begins : BeginsWith keywords rest) (noAsc : "ASC" ∉ keywords) (noDesc : "DESC" ∉ keywords) :
    Option.Rel (fun ts read => readItems? readTerm? (ts ++ rest) = some (read, rest))
      (listTokens OrderTerm.tokens terms) (someItems terms) := by
  -- A term ends at a comma or at the keyword of the next clause.
  apply reads_listTokens
  · exact begins.head?_ne (by simp)
  · intro term more
    exact readTerm?_append term (by simp) (by simp)
  · intro term
    apply readTerm?_append term
    · exact begins.head?_ne fun k listed same => noAsc (Token.word.inj same ▸ listed)
    · exact begins.head?_ne fun k listed same => noDesc (Token.word.inj same ▸ listed)

/-- The tokens of a condition, and how they are read inside a statement. -/
theorem exists_tokens_of_readsAs {body : Option (List Char)} {condition : Option Expr}
    (reads : Option.Rel ReadsAs body condition) :
    ∃ ts : Option (List Token), Option.Rel Cuts body ts ∧
      ∀ rest, rest.head? ≠ some (.word "AND") → rest.head? ≠ some (.word "OR") →
        Option.Rel (fun ts e => readExpr? (ts ++ rest) = some (e, rest)) ts condition := by
  cases reads with
  | none => exact ⟨none, .none, fun _ _ _ => .none⟩
  | some reads =>
    obtain ⟨ts, cuts, read⟩ := reads
    exact ⟨some ts, .some cuts, fun rest noAnd noOr => .some (read rest noAnd noOr)⟩

/-- The clauses behind the table are read back in their order. -/
theorem readClauses?_clauseTokens (s : Select) {ts : Option (List Token)} {condition : Option Expr}
    (reads : ∀ rest, rest.head? ≠ some (.word "AND") → rest.head? ≠ some (.word "OR") →
      Option.Rel (fun ts e => readExpr? (ts ++ rest) = some (e, rest)) ts condition) :
    readClauses? (s.clauseTokens ts) =
      some ⟨condition, someItems s.group, someItems s.order, s.window⟩ := by
  -- Each clause is followed by the later ones only, from the last one to the first.
  have atLimit := (beginsWith_nil []).clause "LIMIT" [] (s.window.map Window.tokens)
  have atOrder := atLimit.clause "ORDER" [.word "BY"] (listTokens OrderTerm.tokens s.order)
  have atGroup := atOrder.clause "GROUP" [.word "BY"] (listTokens OrderTerm.tokens s.group)
  have window : Option.Rel (fun ts w => readWindow? (ts ++ []) = some (w, []))
      (s.window.map Window.tokens) s.window := by
    cases s.window with
    | none => exact .none
    | some w => exact .some (readWindow?_tokens w)
  have where' := readClause?_append (.word "WHERE") []
    (atGroup.head?_ne (by simp)) (reads _ (atGroup.head?_ne (by simp)) (atGroup.head?_ne (by simp)))
  have group := readClause?_append (.word "GROUP") [.word "BY"]
    (atOrder.head?_ne (by simp)) (reads_orderTerms s.group atOrder (by simp) (by simp))
  have order := readClause?_append (.word "ORDER") [.word "BY"]
    (atLimit.head?_ne (by simp)) (reads_orderTerms s.order atLimit (by simp) (by simp))
  have limit := readClause?_append (.word "LIMIT") [] (by simp) window
  rw [Select.clauseTokens, readClauses?, where']
  simp only [Option.bind_eq_bind, Option.bind_some]
  rw [group]
  simp only [Option.bind_some]
  rw [order]
  simp only [Option.bind_some]
  rw [limit]
  rfl

/-- **A query for rows is read back**: its columns, its table, its condition, its terms and its
window. -/
theorem readSelect?_text (s : Select) {condition : Option Expr}
    (reads : Option.Rel ReadsAs (s.predicate.map Predicate.conjunctionChars) condition) :
    readSelect? s.text = some ⟨someItems s.columns, s.table, condition, s.group, s.order,
      s.window.map Window.limit, s.window.bind Window.skip⟩ := by
  obtain ⟨ts, cuts, readCondition⟩ := exists_tokens_of_readsAs reads
  -- The text is the tokens, and the tokens are read back.
  have whole : Sql.tokens s.chars = some (s.tokens ts) := by
    simpa using cuts_select s cuts [] delimited_nil
  have columns := readProjection?_append s.columns
    (.word "FROM" :: .name (Path.ofName s.table) :: s.clauseTokens ts) (by simp)
  rw [readSelect?, Select.text, String.toList_ofList, whole, Option.bind_some, Select.tokens,
    readSelectTokens?, columns]
  simp [readClauses?_clauseTokens s readCondition]

/-- A word may also end at an opening parenthesis. -/
theorem cuts_countOfAll :
    Cuts "count(*)".toList [.word "count", .mark '(', .mark '*', .mark ')'] := by
  intro rest _
  have word : tokens ("count(*)".toList ++ rest) =
      before [.word "count"] (tokens ('(' :: '*' :: ')' :: rest)) :=
    tokens_of_readToken? rfl rfl
  rw [word, tokens_mark (c := '(') rfl, tokens_mark (c := '*') rfl, tokens_mark (c := ')') rfl]
  simp

/-- The tokens of a query for the number of rows, given those of its condition. -/
def Count.tokens (c : Count) (condition : Option (List Token)) : List Token :=
  [.word "SELECT", .word "count", .mark '(', .mark '*', .mark ')', .word "as", .word "cnt",
    .word "FROM", .name (Path.ofName c.table)] ++ (clauseTokens [.word "WHERE"] condition ++ [])

theorem cuts_count (c : Count) {condition : Option (List Token)}
    (cuts : Option.Rel Cuts (c.predicate.map Predicate.conjunctionChars) condition) :
    Cuts c.chars (c.tokens condition) := by
  -- Up to the table; only the condition may follow.
  have head : Cuts ("SELECT count(*) as cnt FROM ".toList ++ columnChars c.table)
      [.word "SELECT", .word "count", .mark '(', .mark '*', .mark ')', .word "as", .word "cnt",
        .word "FROM", .name (Path.ofName c.table)] := by
    have parts :=
      (((((cuts_keyword "SELECT" rfl).space cuts_countOfAll).space (cuts_keyword "as" rfl)).space
      (cuts_keyword "cnt" rfl)).space (cuts_keyword "FROM" rfl)).space (cuts_name c.table)
    simpa [columnChars] using parts
  unfold Count.tokens Count.chars
  simpa only [List.append_nil] using head.clause opens_where cuts

/-- **A query for the number of rows is read back.** -/
theorem readCount?_text (c : Count) {condition : Option Expr}
    (reads : Option.Rel ReadsAs (c.predicate.map Predicate.conjunctionChars) condition) :
    readCount? c.text = some ⟨c.table, condition⟩ := by
  obtain ⟨ts, cuts, readCondition⟩ := exists_tokens_of_readsAs reads
  have whole : tokens c.chars = some (c.tokens ts) := by
    simpa using cuts_count c cuts [] delimited_nil
  have clause := readClause?_append (.word "WHERE") [] (by simp)
    (readCondition [] (by simp) (by simp))
  rw [readCount?, Count.text, String.toList_ofList, whole, Option.bind_some, Count.tokens]
  simp only [List.cons_append, List.nil_append, readCountTokens?, clause, Path.name_ofName]

/-! ## §4 New rows -/

def Assignment.tokens (a : Assignment) : List Token :=
  [.name (Path.ofName a.column), .comparison .eq, a.literal.token]

/-- What an assignment says: a column and its literal. -/
def Assignment.setting (a : Assignment) : String × Operand := (a.column, .literal a.literal)

theorem cuts_assignment (a : Assignment) : Cuts a.chars a.tokens := by
  have parts := ((cuts_name a.column).space (cuts_comparison .eq)).space (cuts_literal a.literal)
  simpa [Assignment.chars, Assignment.tokens, Comparison.symbol] using parts

theorem readSetting?_append (a : Assignment) (rest : List Token) :
    readSetting? (a.tokens ++ rest) = some (a.setting, rest) := by
  -- The literal is no name, so no column's value is meant.
  have noName : ∀ path, a.literal.token ≠ .name path := by
    intro path
    cases a.literal <;> simp [Literal.token]
  rw [Assignment.tokens, List.cons_append, List.cons_append, List.cons_append, readSetting?]
  · simp [Assignment.setting]
  · exact noName

theorem readItems?_settings_append {assignments : List Assignment} (nonempty : assignments ≠ [])
    (rest : List Token) (stop : rest.head? ≠ some (.mark ',')) :
    readItems? readSetting? (itemTokens (assignments.map Assignment.tokens) ++ rest) =
      some (assignments.map Assignment.setting, rest) :=
  readItems?_append Assignment.setting rest nonempty stop
    (fun a more => readSetting?_append a (.mark ',' :: more)) (fun a => readSetting?_append a rest)

theorem readItems?_settings {assignments : List Assignment} (nonempty : assignments ≠ []) :
    readItems? readSetting? (itemTokens (assignments.map Assignment.tokens)) =
      some (assignments.map Assignment.setting, []) := by
  have all := readItems?_settings_append nonempty [] (by simp)
  rwa [List.append_nil] at all

/-- The tokens of a statement for a new row. -/
def Insert.tokens (i : Insert) : List Token :=
  [.word "INSERT", .word "INTO", .name (Path.ofName i.table)] ++
    match listTokens Assignment.tokens i.assignments with
    | none => [.word "VALUES", .mark '(', .mark ')']
    | some settings => .word "SET" :: settings

theorem cuts_noValues : Cuts "()".toList [.mark '(', .mark ')'] := by
  intro rest _
  show tokens ('(' :: ')' :: rest) = _
  rw [tokens_mark (c := '(') rfl, tokens_mark (c := ')') rfl]
  simp

theorem cuts_insertHead (table : String) : Cuts ("INSERT INTO ".toList ++ columnChars table)
    [.word "INSERT", .word "INTO", .name (Path.ofName table)] := by
  have parts :=
    ((cuts_keyword "INSERT" rfl).space (cuts_keyword "INTO" rfl)).space (cuts_name table)
  simpa [columnChars] using parts

/-- The text of an insert is its tokens. -/
theorem cuts_insert (i : Insert) : Cuts i.chars i.tokens := by
  obtain ⟨table, assignments⟩ := i
  have head := cuts_insertHead table
  -- Without assignments the statement takes all the defaults.
  cases assignments with
  | nil =>
    have parts := (head.space (cuts_keyword "VALUES" rfl)).space cuts_noValues
    unfold Insert.chars Insert.tokens
    simpa [listBody, listTokens] using parts
  | cons a assignments =>
    have parts := (head.space (cuts_keyword "SET" rfl)).space
      (cuts_items (List.cons_ne_nil a assignments) cuts_assignment)
    unfold Insert.chars Insert.tokens
    simpa [listBody, listTokens] using parts

/-- **A statement for a new row is read back**: its table and its assignments in order. -/
theorem readInsert?_insertText (i : Insert) :
    readInsert? i.text = some (if i.assignments = [] then .defaults i.table
      else .settings i.table (i.assignments.map Assignment.setting)) := by
  have whole : Sql.tokens i.chars = some i.tokens := by
    simpa using cuts_insert i [] delimited_nil
  rw [readInsert?, Insert.text, String.toList_ofList, whole, Option.bind_some]
  obtain ⟨table, assignments⟩ := i
  -- The two forms of the statement.
  cases assignments with
  | nil => simp [Insert.tokens, listTokens, readInsertTokens?]
  | cons a assignments =>
    have settings := readItems?_settings (List.cons_ne_nil a assignments)
    simp only [Insert.tokens, listTokens, List.isEmpty_cons, Bool.false_eq_true, if_false,
      List.cons_append, List.nil_append, readInsertTokens?, settings]
    simp

/-! ## §5 New rows or changes of old ones -/

/-- What an old row is changed to: the updates, or nothing, said by setting the key to itself. -/
def Upsert.settings (u : Upsert) : List (String × Operand) :=
  if u.updates = [] then [(u.key, .column u.key)] else u.updates.map Assignment.setting

/-- The tokens of the changes of an old row. -/
def Upsert.settingTokens (u : Upsert) : List Token :=
  (listTokens Assignment.tokens u.updates).getD
    [.name (Path.ofName u.key), .comparison .eq, .name (Path.ofName u.key)]

theorem cuts_settings (u : Upsert) :
    Cuts ((listBody Assignment.chars u.updates).getD
      (columnChars u.key ++ " = ".toList ++ columnChars u.key))
      u.settingTokens := by
  unfold Upsert.settingTokens
  -- With nothing to update the key is set to itself.
  cases u.updates with
  | nil =>
    have parts := ((cuts_name u.key).space (cuts_comparison .eq)).space (cuts_name u.key)
    simpa [listBody, listTokens, columnChars, Comparison.symbol] using parts
  | cons a updates =>
    exact cuts_items (List.cons_ne_nil a updates) cuts_assignment

/-- What an old row is set to is read back. -/
theorem readItems?_settingTokens (u : Upsert) :
    readItems? readSetting? u.settingTokens = some (u.settings, []) := by
  unfold Upsert.settingTokens Upsert.settings
  -- The key set to itself is read as one setting.
  cases u.updates with
  | nil =>
    apply readItems?_of_last
    · simp [listTokens, readSetting?]
    · simp
  | cons a updates =>
    have settings := readItems?_settings (List.cons_ne_nil a updates)
    simpa [listTokens] using settings

/-- The tokens of a statement for a new row that may be there already. -/
def Upsert.tokens (u : Upsert) : List Token :=
  [.word "INSERT", .word "INTO", .name (Path.ofName u.table), .mark '('] ++
    (itemTokens ((u.assignments.map Assignment.column).map nameTokens) ++
      .mark ')' :: .word "VALUES" :: .mark '(' ::
        (memberTokens (u.assignments.map Assignment.literal) ++
          .mark ')' :: .word "ON" :: .word "DUPLICATE" :: .word "KEY" :: .word "UPDATE" ::
            u.settingTokens))

/-- The text of an upsert is its tokens. -/
theorem cuts_upsert (u : Upsert) (nonempty : u.assignments ≠ []) : Cuts u.chars u.tokens := by
  -- The columns and the values stand in two lists of the same order.
  have names : Cuts (joined ", " ((u.assignments.map Assignment.column).map columnChars))
      (itemTokens ((u.assignments.map Assignment.column).map nameTokens)) :=
    cuts_items (by simpa using nonempty) cuts_name
  have values : Cuts (joined ", " ((u.assignments.map Assignment.literal).map Literal.chars))
      (itemTokens ((u.assignments.map Assignment.literal).map fun l => [l.token])) :=
    cuts_items (by simpa using nonempty) cuts_literal
  have parts := (((((((((cuts_insertHead u.table).space names.parentheses).space
    (cuts_keyword "VALUES" rfl)).space values.parentheses).space (cuts_keyword "ON" rfl)).space
    (cuts_keyword "DUPLICATE" rfl)).space (cuts_keyword "KEY" rfl)).space
      (cuts_keyword "UPDATE" rfl)).space
    (cuts_settings u))
  unfold Upsert.chars Upsert.tokens
  simpa [memberTokens, itemTokens, Function.comp_def] using parts

/-- **A statement for a row that may be there already is read back**: its columns and its values in
the same order, and the changes of an old row. -/
theorem readInsert?_upsertText (u : Upsert) (nonempty : u.assignments ≠ []) :
    readInsert? u.text = some (.upsert u.table (u.assignments.map Assignment.column)
      (u.assignments.map Assignment.literal) u.settings) := by
  have whole : Sql.tokens u.chars = some u.tokens := by
    simpa using cuts_upsert u nonempty [] delimited_nil
  -- Each list is read up to its closing bracket.
  have columns (rest : List Token) :
      readItems? readNameToken?
          (itemTokens ((u.assignments.map Assignment.column).map nameTokens) ++ .mark ')' :: rest) =
        some (u.assignments.map Assignment.column, .mark ')' :: rest) :=
    readItems?_names (by simpa using nonempty) (by simp)
  have values (rest : List Token) :
      readMembers? (memberTokens (u.assignments.map Assignment.literal) ++ .mark ')' :: rest) =
        some (u.assignments.map Assignment.literal, rest) :=
    readMembers?_append (by simpa using nonempty) rest
  rw [readInsert?, Upsert.text, String.toList_ofList, whole, Option.bind_some, Upsert.tokens]
  simp only [List.cons_append, List.nil_append, readInsertTokens?, columns, values,
    readItems?_settingTokens, Path.name_ofName]

/-! ## §6 Changes of rows -/

/-- The tokens of a statement that changes rows, given those of its condition. -/
def Update.tokens (u : Update) (condition : List Token) : List Token :=
  [.word "UPDATE", .name (Path.ofName u.table), .word "SET"] ++
    (itemTokens (u.assignments.map Assignment.tokens) ++
      (clauseTokens [.word "WHERE"] (some condition) ++ []))

/-- The text of an update is its tokens. -/
theorem cuts_update (u : Update) (nonempty : u.assignments ≠ []) {condition : List Token}
    (cuts : Cuts (Predicate.conjunctionChars u.predicate) condition) :
    Cuts u.chars (u.tokens condition) := by
  have head :=
    (((cuts_keyword "UPDATE" rfl).space (cuts_name u.table)).space (cuts_keyword "SET" rfl)).space
    (cuts_items nonempty cuts_assignment)
  have whole := head.clause opens_where (.some cuts)
  unfold Update.chars Update.tokens
  simpa [Sql.clause, columnChars] using whole

/-- **A statement that changes rows is read back**: its table, its assignments in order and its
condition.  The condition begins where the last assignment ends. -/
theorem readUpdate?_text (u : Update) (nonempty : u.assignments ≠ []) {e : Expr}
    (reads : ReadsAs (Predicate.conjunctionChars u.predicate) e) :
    readUpdate? u.text = some ⟨u.table, u.assignments.map Assignment.setting, some e⟩ := by
  obtain ⟨ts, cuts, read⟩ := reads
  have whole : Sql.tokens u.chars = some (u.tokens ts) := by
    simpa using cuts_update u nonempty cuts [] delimited_nil
  -- The settings end at the condition's keyword.
  have settings :=
    readItems?_settings_append nonempty (clauseTokens [.word "WHERE"] (some ts) ++ [])
    (by simp [clauseTokens])
  have condition := read [] (by simp) (by simp)
  have clause := readClause?_append (.word "WHERE") [] (by simp) (.some condition)
  rw [readUpdate?, Update.text, String.toList_ofList, whole, Option.bind_some, Update.tokens]
  simp only [List.cons_append, List.nil_append, readUpdateTokens?, settings, clause,
    Path.name_ofName]

end TableMapper.Sql
