import TableMapper.Proofs.Sql.Pieces
import TableMapper.Sql.TableDefinition

/-!
# What definitions of tables are made of

The pieces of column types and definitions, of indexes, of new tables and of changes.  For each
there are its pieces, the law that its text is spelled by them, and which of its texts have to be
bare words: the names of types that the writer does not know, character sets, collations and
engines.
-/

namespace TableMapper

/-- Whether the storage type of properties of a type can be declared. -/
def PropertyType.hasStorageType : PropertyType → Bool
  | .string => true
  | .text => true
  | .json => true
  | .date => true
  | .number => true
  | _ => false

namespace Sql

open Piece (words commas)

variable {ps : List Piece}

/-! ## §1 Column types and definitions -/

/-- The storage types that the writer knows; all others are written as they are. -/
def storageTypes : List String :=
  ["CHAR", "VARCHAR", "TINYTEXT", "TEXT", "MEDIUMTEXT", "LONGTEXT", "DATETIME", "TIMESTAMP", "TIME",
    "TINYINT", "SMALLINT", "MEDIUMINT", "INT", "BIGINT", "DECIMAL", "NUMERIC", "FLOAT",
    "DOUBLE", "REAL", "POINT"]

def typePiece (name : String) : Piece :=
  if name ∈ storageTypes then .own (.word name) else .bare name

/-- The storage types the program knows are bare words. -/
theorem isBareWord_of_mem_storageTypes {name : String} (known : name ∈ storageTypes) :
    IsBareWord name := by
  have all : ∀ name ∈ storageTypes, IsBareWord name := by decide
  exact all name known

theorem spells_typePiece (name : String) : Spells name.toList [typePiece name] := by
  unfold typePiece
  split
  case isTrue known => exact spells_word name (isBareWord_of_mem_storageTypes known)
  case isFalse => exact spells_bare name

/-- The known types are bare words, so the name of a type has to be one anyway. -/
@[simp]
theorem fits_typePiece (name : String) : (typePiece name).Fits ↔ IsBareWord name := by
  unfold typePiece
  split
  case isTrue known => exact iff_of_true trivial (isBareWord_of_mem_storageTypes known)
  case isFalse => exact Iff.rfl

/-- The name of a type, if it is not a list of allowed texts. -/
def ColumnType.name? : ColumnType → Option String
  | .named name _ _ => some name
  | .enumeration _ => none

/-- The type of texts and dates has the name that it is made from. -/
theorem name?_sized (p : Property) (name : String) :
    (ColumnType.sized p name).name? = some name := by
  simp only [ColumnType.sized]
  split_ifs <;> rfl

/-- The type of numbers has the name that it is made from. -/
theorem name?_numeric (p : Property) (name : String) :
    (ColumnType.numeric p name).name? = some name := by
  simp only [ColumnType.numeric]
  split_ifs
  · rfl
  · cases p.precision <;> rfl
  · rfl

def ColumnType.pieces : ColumnType → List Piece
  | .named name arguments unsigned =>
    typePiece name ::
      ((if arguments.isEmpty then [] else
        Piece.parenthesised (arguments.map fun n => [.number n])) ++
        (if unsigned then words ["UNSIGNED"] else []))
  | .enumeration values => words ["ENUM"] ++ Piece.parenthesised (values.map fun v => [.text v])

theorem spells_arguments (arguments : List Nat) :
    Spells (ColumnType.parenthesised (arguments.map Decimal.natChars))
      (Piece.parenthesised (arguments.map fun n => [.number n])) :=
  spells_parenthesised List.all_nil (forall₂_spells spells_number arguments)

theorem spells_values (values : List String) :
    Spells (ColumnType.parenthesised (values.map fun v => stringChars v.toList))
      (Piece.parenthesised (values.map fun v => [.text v])) :=
  spells_parenthesised List.all_nil (forall₂_spells spells_text values)

theorem ends_parenthesised (items : List (List Char)) : Ends (ColumnType.parenthesised items) := by
  simp [ColumnType.parenthesised]

/-- The text of a column type spells its pieces. -/
theorem spells_columnType (type : ColumnType) : Spells type.chars type.pieces := by
  cases type with
  | named name arguments unsigned =>
    have list := spells_nil.ite (c := arguments.isEmpty) (spells_arguments arguments)
    have word : Spells " UNSIGNED".toList (words ["UNSIGNED"]) := (spells_words ["UNSIGNED"]).space
    have optionalWord := word.ite (c := unsigned) spells_nil
    -- Neither optional part can run into the word before it.
    have ends : Ends (if unsigned then " UNSIGNED".toList else []) := by cases unsigned <;> simp
    have parts := (spells_typePiece name).append (list.append optionalWord ends)
      ((ends_nil.ite (ends_parenthesised _)).append ends)
    simpa only [ColumnType.chars, ColumnType.pieces, List.append_assoc, List.singleton_append]
      using parts
  | enumeration values =>
    exact (spells_words ["ENUM"]).append (spells_values values) (ends_parenthesised _)

/-- They fit if the name that the type may have is a bare word. -/
@[simp]
theorem allFit_columnType (type : ColumnType) :
    Piece.AllFit type.pieces ↔ ∀ name ∈ type.name?, IsBareWord name := by
  -- The name is the one piece that is not fixed.
  cases type with
  | named name arguments unsigned =>
    have list : Piece.AllFit (if arguments.isEmpty then [] else
        Piece.parenthesised (arguments.map fun n => [.number n])) := by
      split <;> simp [Piece.number]
    have word : Piece.AllFit (if unsigned then words ["UNSIGNED"] else []) := by
      split <;> simp
    rw [ColumnType.pieces, Piece.allFit_cons, Piece.allFit_append, fits_typePiece]
    simp only [list, word, ColumnType.name?, and_true, Option.mem_some_iff, forall_eq']
  | enumeration values => simp [ColumnType.pieces, ColumnType.name?]

/-- The pieces of keywords and a word behind them, if there is one. -/
def optionPieces (keywords : List String) (word : Option String) : List Piece :=
  match word with
  | none => []
  | some word => words keywords ++ [.bare word]

@[simp]
theorem allFit_optionPieces (keywords : List String) (word : Option String) :
    Piece.AllFit (optionPieces keywords word) ↔ ∀ w ∈ word, IsBareWord w := by
  cases word <;> simp [optionPieces]

section Options

variable (keyword : String) (keywords : List String)

theorem spells_option (all : ∀ w ∈ keywords, IsBareWord w)
    (text : keyword.toList = ' ' :: joined " " (keywords.map String.toList) ++ [' '])
    (word : Option String) :
    Spells (ColumnDefinition.option keyword word) (optionPieces keywords word) := by
  cases word with
  | none => exact spells_nil
  | some word =>
    have both := ((spells_words keywords all).append (spells_bare word).space (by simp)).space
    simpa [ColumnDefinition.option, optionPieces, text] using both

theorem ends_option
    (text : keyword.toList = ' ' :: joined " " (keywords.map String.toList) ++ [' '])
    (word : Option String) : Ends (ColumnDefinition.option keyword word) := by
  cases word <;> simp [ColumnDefinition.option, text]

end Options

def ColumnDefinition.pieces (d : ColumnDefinition) : List Piece :=
  d.type.pieces ++ optionPieces ["CHARACTER", "SET"] d.charset ++
    optionPieces ["COLLATE"] d.collation ++
    words (if d.notNull then ["NOT", "NULL"] else ["NULL"])

/-- They fit if type, character set and collation are bare words. -/
@[simp]
theorem allFit_columnDefinition (d : ColumnDefinition) :
    Piece.AllFit d.pieces ↔ (∀ name ∈ d.type.name?, IsBareWord name) ∧
      (∀ w ∈ d.charset, IsBareWord w) ∧ ∀ w ∈ d.collation, IsBareWord w := by
  simp [ColumnDefinition.pieces]

/-- The text of a column definition spells its pieces. -/
theorem spells_columnDefinition (d : ColumnDefinition) : Spells d.chars d.pieces := by
  have charset := spells_option " CHARACTER SET " ["CHARACTER", "SET"] (by decide) rfl d.charset
  have charsetEnds := ends_option " CHARACTER SET " ["CHARACTER", "SET"] rfl d.charset
  have collation := spells_option " COLLATE " ["COLLATE"] (by decide) rfl d.collation
  have collationEnds := ends_option " COLLATE " ["COLLATE"] rfl d.collation
  -- NULL or NOT NULL always stands last.
  have null : Spells (if d.notNull then " NOT NULL" else " NULL").toList
      (words (if d.notNull then ["NOT", "NULL"] else ["NULL"])) := by
    cases d.notNull with
    | true => exact (spells_words ["NOT", "NULL"]).space
    | false => exact (spells_words ["NULL"]).space
  have nullEnds : Ends (if d.notNull then " NOT NULL" else " NULL").toList := by
    cases d.notNull <;> simp
  exact (((spells_columnType d.type).append charset charsetEnds).append collation
    collationEnds).append
    null nullEnds

def IdColumn.columnType : IdColumn → ColumnType
  | .uuid => .named "CHAR" [36] false
  | .text => .named "VARCHAR" [100] false
  | .serial => .named "INT" [11] false

/-- The words behind the type of an id column. -/
def IdColumn.facets : IdColumn → List String
  | .serial => ["NOT", "NULL", "AUTO_INCREMENT"]
  | _ => ["NOT", "NULL"]

def IdColumn.pieces (id : IdColumn) : List Piece := id.columnType.pieces ++ words id.facets

@[simp]
theorem allFit_idColumn (id : IdColumn) : Piece.AllFit id.pieces := by
  have known : ∀ name ∈ id.columnType.name?, IsBareWord name := by
    cases id <;> simp [IdColumn.columnType, ColumnType.name?] <;> decide
  simpa [IdColumn.pieces] using known

theorem spells_idColumn (id : IdColumn) : Spells id.definition.toList id.pieces := by
  have text : id.definition.toList =
      id.columnType.chars ++ ' ' :: joined " " (id.facets.map String.toList) := by
    cases id <;> rfl
  have facets : ∀ w ∈ id.facets, IsBareWord w := by cases id <;> decide
  rw [text]
  exact (spells_columnType _).append (spells_words _ facets).space (by simp)

/-! ## §2 Indexes, tables and changes -/

/-- The keyword of an index kind before its definition. -/
def kindChars (kind : Option IndexKind) : List Char :=
  (kind.map fun k => k.keyword.toList ++ [' ']).getD []

/-- The keyword of an index method behind its definition. -/
def methodChars (method : Option IndexMethod) : List Char :=
  (method.map fun k => " USING ".toList ++ k.keyword.toList).getD []

theorem indexChars_eq (index : TableIndex) :
    indexChars index = kindChars index.kind ++
      ("INDEX ".toList ++ (identifierChars index.name.toList ++
      (" (".toList ++ (joined ", " (index.columns.map fun c => identifierChars c.toList) ++
        ')' :: methodChars index.method)))) := by
  obtain ⟨name, columns, kind, method⟩ := index
  cases kind <;> cases method <;> simp [indexChars, kindChars, methodChars]

/-- The keyword of an index kind and the one of every index. -/
def kindWords (kind : Option IndexKind) : List String :=
  (kind.map IndexKind.keyword).toList ++ ["INDEX"]

/-- The keywords of an index method. -/
def methodWords (method : Option IndexMethod) : List String :=
  (method.map fun k => ["USING", k.keyword]).getD []

theorem spells_kind (kind : Option IndexKind) :
    Spells (kindChars kind ++ "INDEX".toList) (words (kindWords kind)) := by
  rcases kind with _ | _ | _ | _
  · exact spells_words ["INDEX"]
  · exact spells_words ["UNIQUE", "INDEX"]
  · exact spells_words ["FULLTEXT", "INDEX"]
  · exact spells_words ["SPATIAL", "INDEX"]

theorem spells_method (method : Option IndexMethod) :
    Spells (methodChars method) (words (methodWords method)) ∧ Ends (methodChars method) := by
  rcases method with _ | _ | _
  · exact ⟨spells_nil, ends_nil⟩
  · exact ⟨(spells_words ["USING", "BTREE"]).space, by simp [methodChars]⟩
  · exact ⟨(spells_words ["USING", "HASH"]).space, by simp [methodChars]⟩

/-- Names in parentheses. -/
theorem spells_names (names : List String) :
    Spells ('(' :: joined ", " (names.map fun n => identifierChars n.toList) ++ [')'])
      (Piece.parenthesised (names.map fun n => [.name n])) := by
  have space : [' '].all isGap = true := rfl
  exact spells_parenthesised space (forall₂_spells spells_name names)

def indexPieces (index : TableIndex) : List Piece :=
  words (kindWords index.kind) ++ .name index.name ::
    (Piece.parenthesised (index.columns.map fun c => [.name c]) ++ words (methodWords index.method))

@[simp]
theorem allFit_index (index : TableIndex) : Piece.AllFit (indexPieces index) := by
  simp [indexPieces]

/-- The text of an index spells its pieces. -/
theorem spells_index (index : TableIndex) : Spells (indexChars index) (indexPieces index) := by
  obtain ⟨method, ends⟩ := spells_method index.method
  have columns := ((spells_names index.columns).append method ends).space
  have named := ((spells_name index.name).append columns (by simp)).space
  have all := (spells_kind index.kind).append named (by simp)
  rw [indexChars_eq]
  simpa [indexPieces] using all

/-- A column's name and what follows it. -/
theorem spells_column (name : String) {definition : List Char} (spells : Spells definition ps) :
    Spells (identifierChars name.toList ++ ' ' :: definition) (.name name :: ps) :=
  (spells_name name).append spells.space (by simp)

namespace CreateTable

/-- The pieces of the definitions of a new table. -/
def definitionPieces (t : CreateTable) : List (List Piece) :=
  (.name t.idName :: (t.id.pieces ++ words ["PRIMARY", "KEY"])) ::
    (t.columns.map fun c => .name c.1 :: c.2.pieces) ++ t.indexes.map indexPieces

def pieces (t : CreateTable) : List Piece :=
  words ["CREATE", "TABLE"] ++ .name t.table ::
    (Piece.parenthesised t.definitionPieces ++ optionPieces ["ENGINE"] t.engine)

@[simp]
theorem allFit (t : CreateTable) :
    Piece.AllFit t.pieces ↔
      (∀ c ∈ t.columns, Piece.AllFit c.2.pieces) ∧ ∀ w ∈ t.engine, IsBareWord w := by
  have columns : (∀ ps ∈ t.columns.map fun c => Piece.name c.1 :: c.2.pieces, Piece.AllFit ps) ↔
      ∀ c ∈ t.columns, Piece.AllFit c.2.pieces := by
    simp only [List.forall_mem_map, Piece.allFit_cons, Piece.fits_name, true_and]
  -- Names are quoted, so the indexes always fit.
  have indexes : ∀ ps ∈ t.indexes.map indexPieces, Piece.AllFit ps :=
    List.forall_mem_map.2 fun index _ => allFit_index index
  simp only [pieces, definitionPieces, Piece.allFit_append, Piece.allFit_cons, Piece.allFit_words,
    Piece.fits_name, Piece.allFit_parenthesised, allFit_optionPieces, allFit_idColumn,
    List.cons_append, List.forall_mem_cons, List.forall_mem_append, columns, true_and, and_true]
  exact and_congr_left fun _ => and_iff_left indexes

theorem spells_definitions (t : CreateTable) :
    List.Forall₂ Spells t.definitions t.definitionPieces := by
  -- The id column comes first and has a key of its own.
  have id :
      Spells (identifierChars t.idName.toList ++
        ' ' :: (t.id.definition.toList ++ " PRIMARY KEY".toList))
      (.name t.idName :: (t.id.pieces ++ words ["PRIMARY", "KEY"])) :=
    spells_column t.idName
      ((spells_idColumn t.id).append (spells_words ["PRIMARY", "KEY"]).space (by simp))
  have columns := forall₂_spells (fun c : String × ColumnDefinition =>
    spells_column c.1 (spells_columnDefinition c.2)) t.columns
  have indexes := forall₂_spells spells_index t.indexes
  have all := List.Forall₂.cons id (List.rel_append columns indexes)
  simpa [definitions, definitionPieces] using all

/-- The text of a new table spells its pieces. -/
theorem spells (t : CreateTable) : Spells t.chars t.pieces := by
  have engine := spells_option " ENGINE " ["ENGINE"] (by decide) rfl t.engine
  have engineEnds := ends_option " ENGINE " ["ENGINE"] rfl t.engine
  have indent : ['\n', ' ', ' '].all isGap = true := rfl
  have newline : isGap '\n' = true := rfl
  -- From the end to the beginning, since each part may be put only before what ends it.  The
  -- definitions stand on lines of their own.
  have closing := ((spells_nil.sign (c := ')') (by decide)).append engine engineEnds).gap newline
  have list := (spells_intercalate indent t.spells_definitions).append closing (by simp)
  have opened := ((list.gaps indent).sign (c := '(') (by decide)).space
  have named := (spells_name t.table).append opened (by simp)
  have all := named.keywords "CREATE TABLE " ["CREATE", "TABLE"] (by decide) rfl
  show Spells ("CREATE TABLE ".toList ++ identifierChars t.table.toList ++
      [' ', '(', '\n', ' ', ' '] ++
      [',', '\n', ' ', ' '].intercalate t.definitions ++ ['\n', ')'] ++
        ColumnDefinition.option " ENGINE " t.engine)
    (words ["CREATE", "TABLE"] ++ .name t.table ::
      (Piece.sign '(' :: commas t.definitionPieces ++ [Piece.sign ')'] ++
        optionPieces ["ENGINE"] t.engine))
  simpa only [List.append_assoc, List.cons_append, List.nil_append] using all

end CreateTable

namespace AlterClause

def pieces : AlterClause → List Piece
  | .changeId name id => words ["CHANGE", "COLUMN"] ++ .name name :: .name name :: id.pieces
  | .addColumn name definition => words ["ADD", "COLUMN"] ++ .name name :: definition.pieces
  | .changeColumn name definition =>
    words ["CHANGE", "COLUMN"] ++ .name name :: .name name :: definition.pieces
  | .dropColumn name => words ["DROP", "COLUMN"] ++ [.name name]
  | .dropIndex name => words ["DROP", "INDEX"] ++ [.name name]
  | .addIndex index => words ["ADD"] ++ indexPieces index

/-- The definition of the column that a clause adds or changes. -/
def definition? : AlterClause → Option ColumnDefinition
  | .addColumn _ definition => some definition
  | .changeColumn _ definition => some definition
  | _ => none

@[simp]
theorem allFit (c : AlterClause) :
    Piece.AllFit c.pieces ↔ ∀ d ∈ c.definition?, Piece.AllFit d.pieces := by
  cases c <;> simp [pieces, definition?]

/-- The text of a change spells its pieces. -/
theorem spells (c : AlterClause) : Spells c.chars c.pieces := by
  -- Each clause is its keywords and then what they are about.
  cases c with
  | changeId name id =>
    have column := spells_column name (spells_column name (spells_idColumn id))
    have all := column.keywords "CHANGE COLUMN " ["CHANGE", "COLUMN"] (by decide) rfl
    show Spells ("CHANGE COLUMN ".toList ++ identifierChars name.toList ++
      ' ' :: identifierChars name.toList ++ ' ' :: id.definition.toList)
      (words ["CHANGE", "COLUMN"] ++ .name name :: .name name :: id.pieces)
    simpa only [List.append_assoc, List.cons_append] using all
  | addColumn name definition =>
    have column := spells_column name (spells_columnDefinition definition)
    have all := column.keywords "ADD COLUMN " ["ADD", "COLUMN"] (by decide) rfl
    show Spells ("ADD COLUMN ".toList ++ identifierChars name.toList ++ ' ' :: definition.chars)
      (words ["ADD", "COLUMN"] ++ .name name :: definition.pieces)
    simpa only [List.append_assoc] using all
  | changeColumn name definition =>
    have column := spells_column name (spells_column name (spells_columnDefinition definition))
    have all := column.keywords "CHANGE COLUMN " ["CHANGE", "COLUMN"] (by decide) rfl
    show Spells ("CHANGE COLUMN ".toList ++ identifierChars name.toList ++
      ' ' :: identifierChars name.toList ++ ' ' :: definition.chars)
      (words ["CHANGE", "COLUMN"] ++ .name name :: .name name :: definition.pieces)
    simpa only [List.append_assoc, List.cons_append] using all
  | dropColumn name =>
    exact (spells_name name).keywords "DROP COLUMN " ["DROP", "COLUMN"] (by decide) rfl
  | dropIndex name =>
    exact (spells_name name).keywords "DROP INDEX " ["DROP", "INDEX"] (by decide) rfl
  | addIndex index => exact (spells_index index).keywords "ADD " ["ADD"] (by decide) rfl

end AlterClause

end Sql

end TableMapper
