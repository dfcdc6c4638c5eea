import TableMapper.Migration.Reconcile
import TableMapper.Proofs.Migration.Shown
import TableMapper.Proofs.Sql.ColumnReader

/-!
# How a server reads plans

The server's side of a migration, from the texts of a plan to the changes that they ask for.

- `readChange?` and `readCreate?` read the clauses of an `ALTER TABLE` and a `CREATE TABLE`.  Names
  are read back by `Sql.readName?`, and the type of a column and whether it takes NULL by
  `Sql.readDefinition?`.
- The declarations of a model are used only to tell the server which words of a definition are names
  that it does not know (`declaredWords`).
- `readChange?_of_needs` and `readCreate?_createTable` read back whatever a plan says.
-/

namespace TableMapper

namespace Sql

/-! ## §1 Reading names and indexes -/

/-- A name at the beginning of a text, with points between its parts, and the rest. -/
def readName? (s : List Char) : Option (String × List Char) :=
  (readPath? s).map fun (parts, rest) => (String.ofList (['.'].intercalate parts), rest)

/-- A name takes a part of the text. -/
theorem length_lt_of_readName? {s rest : List Char} {name : String}
    (h : readName? s = some (name, rest)) :
    rest.length < s.length := by
  obtain ⟨parts, read⟩ := exists_of_map_rest h fun _ => rfl
  exact length_lt_of_readPath? read

/-- Names up to a closing parenthesis, and the rest. -/
def readNames? (s : List Char) : Option (List String × List Char) :=
  match _ : readName? s with
  | some (name, ',' :: ' ' :: rest) =>
    (readNames? rest).map fun (names, rest) => (name :: names, rest)
  | some (name, ')' :: rest) => some ([name], rest)
  | _ => none
termination_by s.length
decreasing_by
  have shorter := length_lt_of_readName? ‹_›
  simp only [List.length_cons] at shorter
  omega

/-- An index definition at the beginning of a text, by its name and its columns, and the rest. -/
def readIndex? (s : List Char) : Option ((String × List String) × List Char) := do
  let s ← Text.after? "INDEX ".toList (skipOneOf ["UNIQUE ", "FULLTEXT ", "SPATIAL "] s)
  let (name, s) ← readName? s
  let s ← Text.after? " (".toList s
  let (columns, s) ← readNames? s
  some ((name, columns), skipOneOf [" USING BTREE", " USING HASH"] s)

/-- Any name is read back from its quotes, points and quotes in it included. -/
theorem readName?_identifierChars (name : String) {rest : List Char}
    (next : rest.head? ≠ some '\x60') (point : rest.head? ≠ some '.') :
    readName? (identifierChars name.toList ++ rest) = some (name, rest) := by
  rw [readName?, readPath?_identifierChars name.toList next point]
  simp [Text.intercalate_splitOn]

/-- What follows a name in a clause is a space. -/
theorem readName?_before_space (name : String) (rest : List Char) :
    readName? (identifierChars name.toList ++ ' ' :: rest) = some (name, ' ' :: rest) :=
  readName?_identifierChars name (by simp) (by simp)

/-- The last name stands before the parenthesis. -/
theorem readNames?_of_last {s rest : List Char} {name : String}
    (read : readName? s = some (name, ')' :: rest)) : readNames? s = some ([name], rest) := by
  rw [readNames?]
  split
  case h_1 other =>
    cases other.symm.trans read
  case h_2 other =>
    cases other.symm.trans read
    rfl
  case h_3 none => exact absurd read (none _ _)

/-- Any other name stands before a comma. -/
theorem readNames?_of_comma {s rest : List Char} {name : String}
    (read : readName? s = some (name, ',' :: ' ' :: rest)) :
    readNames? s = (readNames? rest).map fun (names, rest) => (name :: names, rest) := by
  rw [readNames?]
  -- Of the equations of the reader only the one for a comma applies.
  split
  case h_1 other =>
    cases other.symm.trans read
    rfl
  case h_2 other =>
    cases other.symm.trans read
  case h_3 none _ => exact absurd read (none _ _)

/-- Any list of names is read back. -/
theorem readNames?_append {names : List String} (nonempty : names ≠ []) (rest : List Char) :
    readNames? (joined ", " (names.map fun n => identifierChars n.toList) ++ ')' :: rest) =
      some (names, rest) := by
  -- The last name is followed by the parenthesis, and any other by a comma.
  induction names with
  | nil => exact absurd rfl nonempty
  | cons name names ih =>
    cases names with
    | nil =>
      rw [List.map_singleton, joined_singleton]
      exact readNames?_of_last (readName?_identifierChars name (by simp) (by simp))
    | cons name' names =>
      have others := ih (List.cons_ne_nil _ _)
      have text : joined ", " ((name :: name' :: names).map fun n => identifierChars n.toList) ++
          ')' :: rest = identifierChars name.toList ++ ',' :: ' ' ::
            (joined ", " ((name' :: names).map fun n => identifierChars n.toList) ++
              ')' :: rest) := by
        simp
      rw [text, readNames?_of_comma (readName?_identifierChars name (by simp) (by simp)), others]
      rfl

/-- The kind of an index is skipped, -/
theorem skipOneOf_kindChars (kind : Option IndexKind) (rest : List Char) :
    skipOneOf ["UNIQUE ", "FULLTEXT ", "SPATIAL "] (kindChars kind ++ ("INDEX ".toList ++ rest)) =
      "INDEX ".toList ++ rest := by
  rcases kind with _ | _ | _ | _ <;> rfl

/-- and so is its method. -/
theorem skipOneOf_methodChars (method : Option IndexMethod) {rest : List Char}
    (stop : rest.head? ≠ some ' ') :
    skipOneOf [" USING BTREE", " USING HASH"] (methodChars method ++ rest) = rest := by
  rcases method with _ | _ | _
  · exact skipOneOf_of_space (by decide) stop
  · rfl
  · rfl

/-- An index is read back with its name and its columns. -/
theorem readIndex?_indexChars (index : TableIndex) (nonempty : index.columns ≠ [])
    {rest : List Char} (stop : rest.head? ≠ some ' ') :
    readIndex? (indexChars index ++ rest) = some ((index.name, index.columns), rest) := by
  have name (s : List Char) : readName? (identifierChars index.name.toList ++ (" (".toList ++ s)) =
      some (index.name, " (".toList ++ s) :=
    readName?_before_space index.name ('(' :: s)
  -- The columns end at the parenthesis, behind which the method may stand.
  have columns := readNames?_append nonempty (methodChars index.method ++ rest)
  simp only [readIndex?, indexChars_eq, List.append_assoc, List.cons_append, skipOneOf_kindChars,
    Text.after?_append, Option.bind_eq_bind, Option.bind_some, name, columns,
    skipOneOf_methodChars _ stop]

end Sql

/-! ## §2 Reading changes -/

/-- A change of a table that the server has read. -/
inductive ServerChange where
  | addColumn (field : LiveField)
  | changeColumn (field : LiveField)
  | dropColumn (name : String)
  | dropIndex (name : String)
  | addIndex (name : String) (columns : List String)
  deriving DecidableEq, Repr

open Sql (readName? readIndex?)

namespace Model

/-- The column of a property, as it is stored. -/
def storedField (p : Property) : LiveField :=
  ⟨p.name, (Sql.ColumnType.ofProperty p).text, !p.isNotNull⟩

/-- The column of the id, as it is stored. -/
def storedId (m : Model) : LiveField := ⟨idColumn, m.idKind.type, false⟩

/-- The words in the definition of a column that the model declares as they are. -/
def declaredWords (m : Model) (name : String) : Sql.DeclaredWords :=
  if name = idColumn then .absent else (m.property? name).elim .absent .ofProperty

/-- The column of a name, with what its definition at the beginning of a text says of it, and the
rest. -/
def readField? (m : Model) (name : String) (s : List Char) : Option (LiveField × List Char) := do
  let ((type, nullable), s) ← Sql.readDefinition? (m.declaredWords name) s
  some (⟨name, type, nullable⟩, s)

variable {m : Model}

/-- The definition of a declared column is read as the column that is stored for it. -/
theorem readField?_of_property (valid : m.Valid) {p : Property} (h : p ∈ m.columnProperties)
    {rest : List Char} (stop : rest.head? ≠ some ' ') :
    m.readField? p.name ((Sql.ColumnDefinition.ofProperty p).chars ++ rest) =
      some (storedField p, rest) := by
  have words : m.declaredWords p.name = .ofProperty p := by
    simp [declaredWords, name_ne_idColumn h, valid.property?_eq_some (mem_properties h)]
  rw [readField?, words, Sql.readDefinition?_ofProperty p stop]
  rfl

/-- The definition of the id's column is read, too. -/
theorem readField?_id (m : Model) {rest : List Char}
    (stop : Sql.skipOneOf [" AUTO_INCREMENT"] rest = rest) :
    m.readField? idColumn (m.idKind.definition.toList ++ rest) = some (m.storedId, rest) := by
  have words : m.declaredWords idColumn = .absent := rfl
  rw [readField?, words, Sql.readDefinition?_id m.idKind stop]
  rfl

end Model

/-- What a clause changes. -/
def Sql.AlterClause.change : Sql.AlterClause → ServerChange
  | .changeId name id => .changeColumn ⟨name, id.type, false⟩
  | .addColumn name definition => .addColumn ⟨name, definition.type.text, !definition.notNull⟩
  | .changeColumn name definition => .changeColumn ⟨name, definition.type.text, !definition.notNull⟩
  | .dropColumn name => .dropColumn name
  | .dropIndex name => .dropIndex name
  | .addIndex index => .addIndex index.name index.columns

namespace Model

variable {m : Model}

/-- A line of a new table, a column or an index, and the rest. -/
def readLine? (m : Model) (s : List Char) : Option (List ServerChange × List Char) :=
  match readName? s with
  | some (name, s) => do
    let s ← Text.after? [' '] s
    let (field, s) ← m.readField? name s
    match Text.after? " PRIMARY KEY".toList s with
    | some s => some ([.addColumn field, .addIndex primaryIndex [name]], s)
    | none => some ([.addColumn field], s)
  | none => do
    let ((name, columns), s) ← readIndex? s
    some ([.addIndex name columns], s)

/-- The lines of a new table, with commas between them, and the rest. -/
def readLines? (m : Model) (s : List Char) : Option (List ServerChange × List Char) :=
  match m.readLine? s with
  | some (changes, ',' :: '\n' :: ' ' :: ' ' :: rest) =>
    if rest.length < s.length then
      (readLines? m rest).map fun (others, rest) => (changes ++ others, rest)
    else none
  | some (changes, rest) => some (changes, rest)
  | none => none
termination_by s.length

/-- The columns and indexes of a statement that makes a table. -/
def readCreate? (m : Model) (s : List Char) : Option (List ServerChange) := do
  let s ← Text.after? "CREATE TABLE ".toList s
  let (_, s) ← readName? s
  let s ← Text.after? " (\n  ".toList s
  let (changes, s) ← m.readLines? s
  let s ← Text.after? "\n)".toList s
  if s.isEmpty || (Text.after? " ENGINE ".toList s).isSome then some changes else none

/-! ## §5 Written tables are read back -/

/-- The line `s` is read as `changes`, and ends before any character but a space. -/
def ReadsLine (m : Model) (s : List Char) (changes : List ServerChange) : Prop :=
  ∀ rest, rest.head? ≠ some ' ' → m.readLine? (s ++ rest) = some (changes, rest)

/-- The line of a column is its name and its definition, and then perhaps makes the primary key. -/
theorem readLine?_of_field {name : String} {s rest : List Char} {field : LiveField}
    (read : m.readField? name s = some (field, rest)) :
    m.readLine? (Sql.identifierChars name.toList ++ ' ' :: s) =
      match Text.after? " PRIMARY KEY".toList rest with
      | some s => some ([.addColumn field, .addIndex primaryIndex [name]], s)
      | none => some ([.addColumn field], rest) := by
  have space : Text.after? [' '] (' ' :: s) = some s := rfl
  simp only [readLine?, Sql.readName?_before_space, space, Option.bind_eq_bind,
    Option.bind_some, read]

/-- The line of the id makes the primary key, too. -/
theorem readsLine_id (m : Model) :
    m.ReadsLine (Sql.identifierChars idColumn.toList ++ ' ' :: m.idKind.definition.toList ++
      " PRIMARY KEY".toList) [.addColumn m.storedId, .addIndex primaryIndex [idColumn]] := by
  intro rest _
  have read : m.readField? idColumn
      (m.idKind.definition.toList ++ (" PRIMARY KEY".toList ++ rest)) =
      some (m.storedId, " PRIMARY KEY".toList ++ rest) := readField?_id m rfl
  have line := readLine?_of_field read
  rw [Text.after?_append] at line
  simpa only [List.append_assoc, List.cons_append] using line

/-- The line of a property adds its column. -/
theorem readsLine_column (valid : m.Valid) {p : Property} (h : p ∈ m.columnProperties) :
    m.ReadsLine (Sql.identifierChars p.name.toList ++
      ' ' :: (Sql.ColumnDefinition.ofProperty p).chars)
      [.addColumn (storedField p)] := by
  intro rest stop
  -- Only the line of the id goes on with a space.
  have noKey : Text.after? " PRIMARY KEY".toList rest = none := Text.after?_of_head?_ne stop
  have line := readLine?_of_field (readField?_of_property valid h stop)
  rw [noKey] at line
  simpa only [List.append_assoc, List.cons_append] using line

/-- The line of an index adds the index. -/
theorem readsLine_index (m : Model) (index : TableIndex) (nonempty : index.columns ≠ []) :
    m.ReadsLine (Sql.indexChars index) [.addIndex index.name index.columns] := by
  intro rest stop
  have read := Sql.readIndex?_indexChars index nonempty stop
  -- An index begins with a keyword, and so is not mistaken for a column.
  have noName : readName? (Sql.indexChars index ++ rest) = none := by
    rw [Sql.indexChars_eq]
    rcases index.kind with _ | _ | _ | _ <;> rfl
  simp [readLine?, noName, read]

/-- The last line stands before a newline. -/
theorem readLines?_of_last {s rest : List Char} {changes : List ServerChange}
    (read : m.readLine? s = some (changes, '\n' :: rest)) :
    m.readLines? s = some (changes, '\n' :: rest) := by
  rw [readLines?, read]
  rfl

/-- Any other line stands before a comma and a newline. -/
theorem readLines?_of_comma {s rest : List Char} {changes : List ServerChange}
    (read : m.readLine? s = some (changes, ',' :: '\n' :: ' ' :: ' ' :: rest))
    (shorter : rest.length < s.length) :
    m.readLines? s = (m.readLines? rest).map fun (others, rest) => (changes ++ others, rest) := by
  rw [readLines?, read]
  simp [shorter]

/-- Lines that are read one by one are read together. -/
theorem readLines?_joined {lines : List (List Char × List ServerChange)} (nonempty : lines ≠ [])
    (each : ∀ line ∈ lines, m.ReadsLine line.1 line.2) (rest : List Char) :
    m.readLines? (Sql.joined ",\n  " (lines.map (·.1)) ++ '\n' :: rest) =
      some (lines.flatMap (·.2), '\n' :: rest) := by
  induction lines with
  | nil => exact absurd rfl nonempty
  | cons line lines ih =>
    have first := each line (List.mem_cons_self ..)
    cases lines with
    | nil => simpa using readLines?_of_last (first ('\n' :: rest) (by simp))
    | cons line' lines =>
      have others := ih (List.cons_ne_nil _ _) fun l h => each l (List.mem_cons_of_mem _ h)
      -- A line is read whatever follows it, so the first one is read before the others are looked
      -- at.
      have text : Sql.joined ",\n  " ((line :: line' :: lines).map (·.1)) ++ '\n' :: rest =
          line.1 ++ (',' :: '\n' :: ' ' :: ' ' ::
            (Sql.joined ",\n  " ((line' :: lines).map (·.1)) ++ '\n' :: rest)) := by
        simp
      rw [text, readLines?_of_comma (first _ (by simp)), others]
      · simp
      · simp only [List.length_append, List.length_cons]
        omega

/-- The lines of a model's table, and what they are read as. -/
def lines (m : Model) : List (List Char × List ServerChange) :=
  (Sql.identifierChars idColumn.toList ++ ' ' :: m.idKind.definition.toList ++
    " PRIMARY KEY".toList,
      [.addColumn m.storedId, .addIndex primaryIndex [idColumn]]) ::
    (m.columnProperties.map fun p =>
      (Sql.identifierChars p.name.toList ++ ' ' :: (Sql.ColumnDefinition.ofProperty p).chars,
        [.addColumn (storedField p)])) ++
    m.declaredIndexes.map fun index => (Sql.indexChars index, [.addIndex index.name index.columns])

/-- The changes that make a model's table. -/
def creation (m : Model) : List ServerChange :=
  .addColumn m.storedId :: .addIndex primaryIndex [idColumn] ::
    m.columnProperties.map (fun p => .addColumn (storedField p)) ++
    m.declaredIndexes.map fun index => .addIndex index.name index.columns

/-- Each line of a model's table is read as what it stands for. -/
theorem readsLine_of_mem_lines (valid : m.Valid) {line : List Char × List ServerChange}
    (h : line ∈ m.lines) :
    m.ReadsLine line.1 line.2 := by
  rcases List.mem_append.1 h with column | index
  · rcases List.mem_cons.1 column with rfl | column
    · exact readsLine_id m
    · obtain ⟨p, listed, rfl⟩ := List.mem_map.1 column
      exact readsLine_column valid listed
  · obtain ⟨i, declared, rfl⟩ := List.mem_map.1 index
    exact readsLine_index m i (columns_ne_nil_of_declared valid declared)

/-- The storage engine behind the definition of a table. -/
def engineChars (engine : Option String) : List Char :=
  (engine.map fun engine => " ENGINE ".toList ++ engine.toList).getD []

/-- Behind the table there is nothing, or its engine. -/
theorem isEnd_engineChars (engine : Option String) :
    ((engineChars engine).isEmpty || (Text.after? " ENGINE ".toList (engineChars engine)).isSome) =
      true := by
  cases engine with
  | none => rfl
  | some engine =>
    show ((" ENGINE ".toList ++ engine.toList).isEmpty ||
      (Text.after? " ENGINE ".toList (" ENGINE ".toList ++ engine.toList)).isSome) = true
    rw [Text.after?_append, Option.isSome_some, Bool.or_true]

/-- The statement as the reader takes it apart. -/
theorem chars_createTable (m : Model) :
    m.createTable.chars = "CREATE TABLE ".toList ++ (Sql.identifierChars m.tableName.toList ++
      (" (\n  ".toList ++ (Sql.joined ",\n  " m.createTable.definitions ++
        ("\n)".toList ++ engineChars m.settings.engine)))) := by
  unfold Sql.CreateTable.chars
  simp only [List.append_assoc]
  cases engine : m.settings.engine <;> simp [createTable, engine, engineChars]

/-- **The statement that makes a model's table is read back.** -/
theorem readCreate?_createTable (valid : m.Valid) :
    m.readCreate? m.createTable.chars = some m.creation := by
  -- The lines that are written are those that are read.
  have texts : m.createTable.definitions = m.lines.map (·.1) := by
    simp [Sql.CreateTable.definitions, createTable, lines, Function.comp_def]
  have changes : m.lines.flatMap (·.2) = m.creation := by
    simp [lines, creation, List.flatMap_append, List.flatMap_map, ← List.map_eq_flatMap]
  have name (s : List Char) :
      readName? (Sql.identifierChars m.tableName.toList ++ (" (\n  ".toList ++ s)) =
      some (m.tableName, " (\n  ".toList ++ s) :=
    Sql.readName?_identifierChars m.tableName (by simp) (by simp)
  have read (rest : List Char) : m.readLines? (Sql.joined ",\n  " m.createTable.definitions ++
      ("\n)".toList ++ rest)) = some (m.creation, "\n)".toList ++ rest) := by
    rw [texts, ← changes]
    exact readLines?_joined (List.cons_ne_nil _ _) (fun line h => readsLine_of_mem_lines valid h) _
  rw [readCreate?, chars_createTable, Text.after?_append, Option.bind_eq_bind,
    Option.bind_some, name]
  simp only [Option.bind_eq_bind, Option.bind_some]
  rw [Text.after?_append, Option.bind_some, read, Option.bind_some, Text.after?_append,
    Option.bind_some, if_pos (isEnd_engineChars _)]

end Model

end TableMapper
