import TableMapper.Proofs.Migration.UpToDate
import TableMapper.Proofs.Sql.TablePieces
import TableMapper.Proofs.Text.Letters

/-!
# What a plan depends on

The pieces of a plan, and what is left of them without the texts that were supplied.

- `Model.shape` is a model without its texts: only storage types that the writer knows keep their
  names.
- `Model.drift` says what of a table has to change, by position and number only.
- `forms_eq` says that, texts apart, a plan depends on these two alone: it is the plan of
  `Shape.change`, all of whose texts are empty.
-/

namespace TableMapper

open Sql (Piece)

/-! ## §1 Plans in pieces -/

namespace TableChange

/-- The pieces of a plan's texts: of its statements, and of the whole that is sent. -/
def pieces : TableChange → List (List Piece)
  | .create table => [table.pieces, table.pieces]
  | .alter table clauses =>
    clauses.map Sql.AlterClause.pieces ++
      if clauses.isEmpty then []
      else [Piece.words ["ALTER", "TABLE"] ++ .name table ::
        Piece.commas (clauses.map Sql.AlterClause.pieces)]

/-- The pieces without what was supplied. -/
def forms (c : TableChange) : List (List Piece) := c.pieces.map (·.map Piece.form)

end TableChange

/-! ## §2 Models without texts -/

/-- A type without its allowed texts. -/
def PropertyType.erased : PropertyType → PropertyType
  | .enumeration values => .enumeration (values.map fun _ => "")
  | .array inner => .array inner.erased
  | type => type

/-- A storage type that the writer knows, or nothing. -/
def Sql.erasedStorage (name : String) : String :=
  if Text.upperCase name ∈ storageTypes then Text.upperCase name else ""

/-- A property without its texts. -/
def Property.erased (p : Property) : Property :=
  { p with
    name := ""
    type := p.type.erased
    dataType := p.dataType.map Sql.erasedStorage
    charset := p.charset.map fun _ => ""
    collation := p.collation.map fun _ => "" }

/-- An index without its texts. -/
def TableIndex.erased (index : TableIndex) : TableIndex :=
  { index with name := "", columns := index.columns.map fun _ => "" }

/-- A model without its texts. -/
structure Shape where
  id : Sql.IdColumn
  /-- The properties other than `id`. -/
  columns : List Property
  /-- All declared indexes. -/
  indexes : List TableIndex
  hasEngine : Bool

def Model.shape (m : Model) : Shape where
  id := m.idKind
  columns := m.columnProperties.map Property.erased
  indexes := m.declaredIndexes.map TableIndex.erased
  hasEngine := m.settings.engine.isSome

/-! ## §3 What has to change -/

/-- What is wrong with the column of a property. -/
inductive ColumnDrift where
  | missing
  | differs
  | agrees
  deriving DecidableEq, Repr

/-- What has to change in a table. -/
structure Drift where
  /-- Whether the id column has another type. -/
  id : Bool
  /-- What is wrong with each column of the model. -/
  columns : List ColumnDrift
  /-- How many columns the model does not have. -/
  otherColumns : Nat
  /-- How many indexes are not as declared. -/
  otherIndexes : Nat
  /-- Whether each declared index is missing. -/
  missingIndexes : List Bool
  deriving DecidableEq, Repr

/-- What is wrong with the column of a property in a live table. -/
def Property.drift (p : Property) (live : LiveTable) : ColumnDrift :=
  match live.field? p.name with
  | none => .missing
  | some field => if Reconcile.columnDiffers p field then .differs else .agrees

/-- What has to change in a live table that has columns. -/
def Model.driftIn (m : Model) (live : LiveTable) : Drift where
  id := (live.field? idColumn).any fun field =>
    Reconcile.normalizeType field.columnType != Reconcile.normalizeType m.idKind.type
  columns := m.columnProperties.map (·.drift live)
  otherColumns := (live.fields.filter fun f => !m.knows f.name).length
  otherIndexes := ((live.indexColumns.filter fun index => !Reconcile.isKeyIndex index.1).filter
    fun index => !Reconcile.isDeclared m.declaredIndexes index).length
  missingIndexes := m.declaredIndexes.map fun index => !(m.keptIndexes live).contains index.name

/-- What has to change in a live table, unless it has to be made. -/
def Model.drift (m : Model) (live : Option LiveTable) : Option Drift :=
  match live with
  | none => none
  | some live => if live.isEmpty then none else some (m.driftIn live)

/-- The clauses for a property without texts. -/
def ColumnDrift.clauses (d : ColumnDrift) (p : Property) : List Sql.AlterClause :=
  match d with
  | .missing => [.addColumn "" (.ofProperty p)]
  | .differs => [.changeColumn "" (.ofProperty p)]
  | .agrees => []

namespace Shape

/-- The table of a shape, with all texts empty. -/
def table (s : Shape) : Sql.CreateTable where
  table := ""
  idName := ""
  id := s.id
  columns := s.columns.map fun p => ("", .ofProperty p)
  indexes := s.indexes
  engine := if s.hasEngine then some "" else none

/-- The clauses that models of a shape need for a drift, with all texts empty. -/
def clauses (s : Shape) (d : Drift) : List Sql.AlterClause :=
  (if d.id then [.changeId "" s.id] else []) ++
    (List.zipWith ColumnDrift.clauses d.columns s.columns).flatten ++
      List.replicate d.otherColumns (.dropColumn "") ++
        (List.replicate d.otherIndexes (.dropIndex "") ++
          (List.zipWith (fun missing index => if missing then [.addIndex index] else [])
            d.missingIndexes s.indexes).flatten)

/-- The change that models of a shape need for a drift, with all texts empty. -/
def change (s : Shape) : Option Drift → TableChange
  | none => .create s.table
  | some d => .alter "" (s.clauses d)

end Shape

/-! ## §4 Pieces without texts -/

namespace Sql

namespace Piece

@[simp]
theorem map_form_words (ws : List String) : (words ws).map form = words ws := by
  simp [words, form]

@[simp]
theorem map_form_commas (items : List (List Piece)) :
    (commas items).map form = commas (items.map (·.map form)) := by
  induction items with
  | nil => rfl
  | cons ps items ih =>
    cases items with
    | nil => simp
    | cons ps' items => simpa [sign, form] using ih

@[simp]
theorem map_form_parenthesised (items : List (List Piece)) :
    (parenthesised items).map form = parenthesised (items.map (·.map form)) := by
  simp [parenthesised, sign, form]

end Piece

open Piece (form)

/-- The pieces of a type with a name do not depend on the name otherwise than by its own piece. -/
theorem map_form_named {name other : String} (same : (typePiece name).form = (typePiece other).form)
    (arguments : List Nat) (unsigned : Bool) :
    (ColumnType.named name arguments unsigned).pieces.map form =
      (ColumnType.named other arguments unsigned).pieces.map form := by
  simp only [ColumnType.pieces, List.map_cons, List.map_append, same]

/-- Known storage types are in upper case. -/
theorem upperCase_of_mem_storageTypes {name : String} (known : name ∈ storageTypes) :
    Text.upperCase name = name := by
  have all : ∀ name ∈ storageTypes, Text.upperCase name = name := by decide
  exact all name known

section Unknown

variable {name : String} (unknown : Text.upperCase name ∉ storageTypes)
include unknown

/-- An unknown name of a type is written as it is. -/
theorem typePiece_of_unknown : typePiece name = .bare name := by
  apply if_neg
  intro known
  exact unknown ((upperCase_of_mem_storageTypes known).symm ▸ known)

/-- An unknown type is of no known family. -/
theorem lowerCase_ne_of_unknown {family : String} (known : Text.upperCase family ∈ storageTypes)
    (lower : Text.lowerCase family = family) : Text.lowerCase name ≠ family := by
  intro same
  exact unknown (Text.upperCase_eq_of_lowerCase_eq (same.trans lower.symm) ▸ known)

/-- A type of texts of an unknown name has a length. -/
theorem sized_of_unknown (p : Property) :
    ColumnType.sized p name =
      .named name [((p.limit.or p.length).map UInt32.toNat).getD ColumnType.defaultLength]
        false := by
  have other : ∀ family, Text.upperCase family ∈ storageTypes → Text.lowerCase family = family →
      Text.lowerCase name ≠ family := fun _ => lowerCase_ne_of_unknown unknown
  simp (disch := decide) [ColumnType.sized, other]

/-- A type of numbers of an unknown name has a display width. -/
theorem numeric_of_unknown (p : Property) :
    ColumnType.numeric p name =
      .named name [(((p.display.or p.limit).map UInt32.toNat).filter (0 < ·)).getD
        (if p.unsigned then 10 else 11)] p.unsigned := by
  have other : ∀ family, Text.upperCase family ∈ storageTypes → Text.lowerCase family = family →
      Text.lowerCase name ≠ family := fun _ => lowerCase_ne_of_unknown unknown
  simp (disch := decide) [ColumnType.numeric, ColumnType.defaultWidth, other]

end Unknown

/-- Without texts, the storage type is the same, or an unknown one becomes empty. -/
theorem storageName_erased (p : Property) (default : String) :
    ColumnType.storageName p.erased default = ColumnType.storageName p default ∨
      (Text.upperCase (ColumnType.storageName p default) ∉ storageTypes ∧
        ColumnType.storageName p.erased default = "") := by
  cases declared : p.dataType with
  | none => simp [ColumnType.storageName, Property.erased, declared]
  | some name =>
    by_cases known : Text.upperCase name ∈ storageTypes
    · simp [ColumnType.storageName, Property.erased, declared, erasedStorage, known]
    · -- An unknown name becomes empty, and no writer of types knows the empty name either.
      refine .inr ⟨by simpa [ColumnType.storageName, declared] using known, ?_⟩
      simp only [ColumnType.storageName, Property.erased, declared, erasedStorage, known, if_false,
        Option.map_some]
      rfl

section Erased

variable {typeOf : Property → String → ColumnType} {p : Property} {default : String}

/-- A type that is made from the storage type, like those of texts and numbers.  With an unknown
storage type it has the arguments of any other unknown one. -/
theorem map_form_storage (arguments : List Nat) (unsigned : Bool)
    (erased : typeOf p.erased = typeOf p) (unknown : ∀ name, Text.upperCase name ∉ storageTypes →
      typeOf p name = .named name arguments unsigned) :
    (typeOf p.erased (ColumnType.storageName p.erased default)).pieces.map form =
      (typeOf p (ColumnType.storageName p default)).pieces.map form := by
  rw [erased]
  -- What is written as it is has no influence on the numbers behind it, since it is of no known
  -- family.
  rcases storageName_erased p default with same | ⟨other, empty⟩
  · rw [same]
  · have emptyUnknown : Text.upperCase "" ∉ storageTypes := by decide
    rw [empty, unknown _ other, unknown _ emptyUnknown]
    apply map_form_named
    rw [typePiece_of_unknown other, typePiece_of_unknown emptyUnknown]
    rfl

end Erased

/-- Types of texts. -/
theorem map_form_sized (p : Property) (default : String) :
    (ColumnType.sized p.erased (ColumnType.storageName p.erased default)).pieces.map form =
      (ColumnType.sized p (ColumnType.storageName p default)).pieces.map form :=
  map_form_storage _ _ rfl fun _ unknown => sized_of_unknown unknown p

/-- Types of numbers. -/
theorem map_form_numeric (p : Property) (default : String) :
    (ColumnType.numeric p.erased (ColumnType.storageName p.erased default)).pieces.map form =
      (ColumnType.numeric p (ColumnType.storageName p default)).pieces.map form :=
  map_form_storage _ _ rfl fun _ unknown => numeric_of_unknown unknown p

/-- Texts apart, the type of a column is that of the property without texts. -/
theorem map_form_columnType (p : Property) :
    (ColumnType.ofProperty p.erased).pieces.map form =
      (ColumnType.ofProperty p).pieces.map form := by
  -- Erasing keeps the type's constructor, which alone decides the pieces.
  cases type : p.type with
  | string | text | json | date =>
    have erased : p.erased.type = p.type := by simp [Property.erased, type, PropertyType.erased]
    simp only [ColumnType.ofProperty, erased, type]
    exact map_form_sized p _
  | number =>
    have erased : p.erased.type = p.type := by simp [Property.erased, type, PropertyType.erased]
    simp only [ColumnType.ofProperty, erased, type]
    exact map_form_numeric p _
  | boolean | point | array inner =>
    simp [ColumnType.ofProperty, Property.erased, type, PropertyType.erased]
  | enumeration values =>
    simp [ColumnType.ofProperty, Property.erased, type, PropertyType.erased,
      ColumnType.pieces, form, Function.comp_def]

/-- An option has its keywords, if it is there. -/
theorem map_form_option (keywords : List String) (word : Option String) :
    (optionPieces keywords (word.map fun _ => "")).map form =
      (optionPieces keywords word).map form := by
  cases word <;> simp [optionPieces, form]

@[simp]
theorem acceptsCharset_erased (type : PropertyType) :
    type.erased.acceptsCharset = type.acceptsCharset := by
  cases type <;> rfl

/-- Texts apart, the definition of a column is that of the property without texts. -/
theorem map_form_columnDefinition (p : Property) :
    (ColumnDefinition.ofProperty p.erased).pieces.map form =
      (ColumnDefinition.ofProperty p).pieces.map form := by
  -- Erasing empties an option's text and keeps that it is there.
  have charset : (ColumnDefinition.ofProperty p.erased).charset =
      (ColumnDefinition.ofProperty p).charset.map fun _ => "" := by
    simp only [ColumnDefinition.ofProperty, Property.erased, acceptsCharset_erased]
    split <;> rfl
  have collation : (ColumnDefinition.ofProperty p.erased).collation =
      (ColumnDefinition.ofProperty p).collation.map fun _ => "" := by
    simp only [ColumnDefinition.ofProperty, Property.erased, acceptsCharset_erased]
    split <;> rfl
  have type := map_form_columnType p
  simp only [ColumnDefinition.pieces, List.map_append, charset, collation, map_form_option]
  exact congrArg (· ++ _ ++ _ ++ _) type

theorem map_form_idColumn (id : IdColumn) : id.pieces.map form = id.pieces := by
  cases id <;> rfl

/-- Texts apart, an index is that of the same kind and method and with as many columns. -/
theorem map_form_index (index : TableIndex) :
    (indexPieces index.erased).map form = (indexPieces index).map form := by
  simp [indexPieces, TableIndex.erased, form, Function.comp_def]

/-- The pieces of a new table, texts apart. -/
theorem map_form_createTable (t : CreateTable) :
    t.pieces.map form = Piece.words ["CREATE", "TABLE"] ++ .name "" ::
      (Piece.parenthesised ((.name "" :: (t.id.pieces ++ Piece.words ["PRIMARY", "KEY"])) ::
        (t.columns.map fun c => .name "" :: c.2.pieces.map form) ++
          t.indexes.map fun index => (indexPieces index).map form) ++
        (optionPieces ["ENGINE"] t.engine).map form) := by
  simp [CreateTable.pieces, CreateTable.definitionPieces, map_form_idColumn, form,
    Function.comp_def]

/-- The clauses of a change, texts apart. -/
def clauseForms (clauses : List AlterClause) : List (List Piece) :=
  clauses.map fun clause => clause.pieces.map form

@[simp]
theorem clauseForms_nil : clauseForms [] = [] := rfl

@[simp]
theorem clauseForms_append (clauses others : List AlterClause) :
    clauseForms (clauses ++ others) = clauseForms clauses ++ clauseForms others := List.map_append

end Sql

open Sql (clauseForms)

/-! ## §5 Plans without texts -/

/-- The forms of a change are those of its clauses, one by one and together. -/
theorem TableChange.forms_alter (table : String) (clauses : List Sql.AlterClause) :
    (TableChange.alter table clauses).forms =
      clauseForms clauses ++ if (clauseForms clauses).isEmpty then []
        else
          [Piece.words ["ALTER", "TABLE"] ++ .name "" :: Piece.commas (clauseForms clauses)] := by
  cases clauses with
  | nil => rfl
  | cons clause clauses => simp [forms, pieces, clauseForms, Piece.form, Function.comp_def]

namespace Model

variable {m : Model} {live : LiveTable}

/-- Texts apart, the clauses for a property depend on what is wrong with its column. -/
theorem clauseForms_column (p : Property) (live : LiveTable) :
    clauseForms (Reconcile.columnClauses live p) =
      clauseForms ((p.drift live).clauses p.erased) := by
  have definition := Sql.map_form_columnDefinition p
  unfold Reconcile.columnClauses Property.drift
  -- Missing, drifted or as declared.
  cases live.field? p.name with
  | none => simp [clauseForms, ColumnDrift.clauses, Sql.AlterClause.pieces, definition, Piece.form]
  | some field =>
    by_cases differs : Reconcile.columnDiffers p field = true <;>
      simp [differs, clauseForms, ColumnDrift.clauses, Sql.AlterClause.pieces,
        definition, Piece.form]

/-- So it is with those for all properties. -/
theorem clauseForms_columns (m : Model) (live : LiveTable) :
    clauseForms (m.columnProperties.flatMap (Reconcile.columnClauses live)) =
      clauseForms
        (List.zipWith ColumnDrift.clauses (m.driftIn live).columns m.shape.columns).flatten := by
  -- The drift and the shape list the same properties, so the lists are gone through together.
  unfold driftIn shape
  induction m.columnProperties with
  | nil => rfl
  | cons p properties ih =>
    simp only [List.flatMap_cons, List.map_cons, List.zipWith_cons_cons, List.flatten_cons,
      Sql.clauseForms_append, clauseForms_column, ih]

/-- The clauses that drop columns depend on how many there are. -/
theorem clauseForms_dropped (m : Model) (live : LiveTable) :
    clauseForms (m.droppedColumns live) =
      clauseForms (List.replicate (m.driftIn live).otherColumns (.dropColumn "")) := by
  simp [droppedColumns, driftIn, clauseForms, Function.comp_def, Sql.AlterClause.pieces, Piece.form]

/-- The clause for the id column depends on whether its type differs. -/
theorem clauseForms_id (m : Model) (live : LiveTable) :
    clauseForms (m.idClauses live) =
      clauseForms (if (m.driftIn live).id then [.changeId "" m.shape.id] else []) := by
  unfold idClauses driftIn shape
  cases live.field? idColumn with
  | none => rfl
  | some field =>
    by_cases differs : Reconcile.normalizeType field.columnType =
      Reconcile.normalizeType m.idKind.type <;>
      simp [differs, clauseForms, Sql.AlterClause.pieces, Piece.form]

/-- Indexes that are added, each if it is missing. -/
theorem clauseForms_added (missing : TableIndex → Bool) (indexes : List TableIndex) :
    clauseForms ((indexes.filter missing).map .addIndex) =
      clauseForms (List.zipWith (fun missing index => if missing then [.addIndex index] else [])
        (indexes.map missing) (indexes.map TableIndex.erased)).flatten := by
  induction indexes with
  | nil => rfl
  | cons index indexes ih =>
    cases absent : missing index with
    | true => simpa [absent, clauseForms, Sql.AlterClause.pieces, Sql.map_form_index] using ih
    | false => simpa [absent] using ih

/-- The clauses for indexes depend on how many are dropped and on which are missing. -/
theorem clauseForms_indexes (m : Model) (live : LiveTable) :
    clauseForms (m.indexClauses live) =
      clauseForms (List.replicate (m.driftIn live).otherIndexes (.dropIndex "")) ++
        clauseForms (List.zipWith (fun missing index => if missing then [.addIndex index] else [])
          (m.driftIn live).missingIndexes m.shape.indexes).flatten := by
  have added :=
    clauseForms_added (fun index => !(m.keptIndexes live).contains index.name) m.declaredIndexes
  rw [driftIn, shape, ← added]
  simp [indexClauses, keptIndexes, clauseForms, Function.comp_def,
    Sql.AlterClause.pieces, Piece.form]

/-- Texts apart, the clauses are those that the shape needs for the drift. -/
theorem clauseForms_alterClauses (m : Model) (live : LiveTable) :
    clauseForms (m.alterClauses live) = clauseForms (m.shape.clauses (m.driftIn live)) := by
  simp only [alterClauses, Shape.clauses, Sql.clauseForms_append, clauseForms_id,
    clauseForms_columns, clauseForms_dropped, clauseForms_indexes]

/-- Texts apart, the new table of a model is that of its shape. -/
theorem map_form_table (m : Model) :
    m.shape.table.pieces.map Piece.form = m.createTable.pieces.map Piece.form := by
  -- The columns, the indexes and the engine, each in its own form.
  have columns : (m.shape.table.columns.map fun c => Piece.name "" :: c.2.pieces.map Piece.form) =
      m.createTable.columns.map fun c => Piece.name "" :: c.2.pieces.map Piece.form := by
    simp [Shape.table, shape, createTable, Sql.map_form_columnDefinition]
  have indexes : (m.shape.table.indexes.map fun index => (Sql.indexPieces index).map Piece.form) =
      m.createTable.indexes.map fun index => (Sql.indexPieces index).map Piece.form := by
    simp [Shape.table, shape, createTable, Sql.map_form_index]
  have engine : (Sql.optionPieces ["ENGINE"] m.shape.table.engine).map Piece.form =
      (Sql.optionPieces ["ENGINE"] m.createTable.engine).map Piece.form := by
    unfold Shape.table shape createTable
    cases m.settings.engine <;> rfl
  rw [Sql.map_form_createTable, Sql.map_form_createTable, columns, indexes, engine]
  rfl

/-- A plan makes the table, or changes one that has columns. -/
theorem reconcile_cases {live : Option LiveTable} {change : TableChange}
    (planned : m.reconcile live = .ok change) :
    (m.drift live = none ∧ change = .create m.createTable) ∨
      ∃ table, m.drift live = some (m.driftIn table) ∧
        change = .alter m.tableName (m.alterClauses table) := by
  -- One case for each way to fail or to plan.
  unfold reconcile at planned
  split at planned
  case h_1 => cases planned
  split at planned
  case h_1 => exact .inl ⟨rfl, (Except.ok.inj planned).symm⟩
  case h_2 table =>
    split at planned
    case h_1 => cases planned
    split at planned
    case isTrue empty => exact .inl ⟨if_pos empty, (Except.ok.inj planned).symm⟩
    case isFalse nonempty => exact .inr ⟨table, if_neg nonempty, (Except.ok.inj planned).symm⟩

/-- **Texts apart, a plan depends on the shape of the model and on what has to change alone.** -/
theorem forms_eq {live : Option LiveTable} {change : TableChange}
    (planned : m.reconcile live = .ok change) :
    change.forms = (m.shape.change (m.drift live)).forms := by
  rcases reconcile_cases planned with ⟨drift, rfl⟩ | ⟨table, drift, rfl⟩
  · rw [drift, Shape.change]
    simp only [TableChange.forms, TableChange.pieces, List.map_cons, List.map_nil, map_form_table]
  · rw [drift, Shape.change, TableChange.forms_alter, TableChange.forms_alter,
      clauseForms_alterClauses]

end Model

end TableMapper
