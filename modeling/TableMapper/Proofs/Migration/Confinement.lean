import TableMapper.Proofs.Migration.Shape

/-!
# Plans keep to their pieces

Whether the server's scanner finds in the texts of a plan what the plan was made of, and nothing
else.

- `TableChange.Confined`: each text of a plan is cut into one lexeme for each of its pieces.
- `Model.unquoted`: the texts of a model that are written as they are: the engine and, for each
  column, its storage type, character set and collation.
- `Model.reconcile_confined_iff`: all plans for a model are confined exactly if these texts are bare
  words.  Nothing checks that they are.
-/

namespace TableMapper

open Sql (Piece IsBareWord lexemes Spells)

/-! ## §1 Confined plans -/

/-- The texts of a plan: its statements, and the whole that is sent. -/
def MigrationPlan.texts (p : MigrationPlan) : List String := p.statements ++ p.sql?.toList

namespace TableChange

/-- Whether the scanner cuts each text of a plan into one lexeme for each of its pieces. -/
def Confined (c : TableChange) : Prop :=
  List.Forall₂ (fun text ps => lexemes text.toList = some (ps.map Piece.lexeme))
    c.plan.texts c.pieces

/-- Each clause is spelled by its pieces. -/
theorem spells_clauses (clauses : List Sql.AlterClause) :
    List.Forall₂ Spells (clauses.map Sql.AlterClause.chars) (clauses.map Sql.AlterClause.pieces) :=
  Sql.forall₂_spells Sql.AlterClause.spells clauses

/-- The whole of an `ALTER TABLE`. -/
theorem spells_alter (table : String) (clauses : List Sql.AlterClause) :
    Spells ("ALTER TABLE " ++ Sql.quoteName table ++ " " ++
        String.intercalate ",\n" (clauses.map Sql.AlterClause.text)).toList
      (Piece.words ["ALTER", "TABLE"] ++
        .name table :: Piece.commas (clauses.map Sql.AlterClause.pieces)) := by
  have newline : ['\n'].all Sql.isGap = true := rfl
  have list := Sql.spells_intercalate newline (spells_clauses clauses)
  have named :=
    (Sql.spells_column table list).keywords "ALTER TABLE " ["ALTER", "TABLE"] (by decide) rfl
  -- The text as it is sent is the text of the pieces.
  have text : ("ALTER TABLE " ++ Sql.quoteName table ++ " " ++
      String.intercalate ",\n" (clauses.map Sql.AlterClause.text)).toList =
        "ALTER TABLE ".toList ++ (Sql.identifierChars table.toList ++
          ' ' :: [',', '\n'].intercalate (clauses.map Sql.AlterClause.chars)) := by
    simp [Sql.quoteName, String.toList_intercalate, Sql.AlterClause.text, Function.comp_def]
  rw [text]
  exact named

/-- Each text of a plan is spelled by the pieces it was made of. -/
theorem spells_texts (c : TableChange) :
    List.Forall₂ (fun text ps => Spells text.toList ps) c.plan.texts c.pieces := by
  cases c with
  | create table =>
    have spells : Spells table.text.toList table.pieces := by
      rw [Sql.CreateTable.text, String.toList_ofList]
      exact table.spells
    -- A plan for a new table has its one statement twice, by itself and as the whole text.
    have whole : (plan (.create table)).texts = [table.text, table.text] := by
      simp [MigrationPlan.texts, plan, MigrationPlan.create, MigrationPlan.sql?]
    rw [whole]
    exact .cons spells (.cons spells .nil)
  | alter table clauses =>
    cases clauses with
    | nil => exact .nil
    | cons clause clauses =>
      have each (c : Sql.AlterClause) : Spells c.text.toList c.pieces := by
        rw [Sql.AlterClause.text, String.toList_ofList]
        exact c.spells
      have statements : List.Forall₂ (fun text ps => Spells text.toList ps)
          ((clause :: clauses).map Sql.AlterClause.text)
            ((clause :: clauses).map Sql.AlterClause.pieces) := by
        simpa only [List.forall₂_map_left_iff, List.forall₂_map_right_iff, List.forall₂_same] using
          fun c _ => each c
      exact List.rel_append statements (.cons (spells_alter table (clause :: clauses)) .nil)

/-- A plan is confined exactly if the texts that are written as they are are bare words. -/
theorem confined_iff (c : TableChange) : c.Confined ↔ ∀ ps ∈ c.pieces, Piece.AllFit ps := by
  unfold Confined
  have spells := c.spells_texts
  -- Text by text, since each is scanned by itself.
  generalize c.plan.texts = texts, c.pieces = pieces at spells
  induction spells with
  | nil => simp
  | cons first others ih =>
    rw [List.forall₂_cons, List.forall_mem_cons]
    exact and_congr first.lexemes_iff ih

/-- A plan for a new table fits if its one statement does. -/
theorem allFit_create {table : Sql.CreateTable} :
    (∀ ps ∈ (create table).pieces, Piece.AllFit ps) ↔ Piece.AllFit table.pieces := by
  simp [pieces]

/-- A plan that changes a table fits if each of its clauses does. -/
theorem allFit_alter {table : String} {clauses : List Sql.AlterClause} :
    (∀ ps ∈ (alter table clauses).pieces, Piece.AllFit ps) ↔
      ∀ c ∈ clauses, Piece.AllFit c.pieces := by
  have each : (∀ ps ∈ clauses.map Sql.AlterClause.pieces, Piece.AllFit ps) ↔
      ∀ c ∈ clauses, Piece.AllFit c.pieces := List.forall_mem_map
  rw [pieces, List.forall_mem_append, each]
  -- The whole that is sent has the clauses' pieces and none of its own that may not fit.
  apply and_iff_left_of_imp
  intro fits
  split
  case isTrue => simp
  case isFalse =>
    intro ps listed
    rw [List.mem_singleton.1 listed, Piece.allFit_append, Piece.allFit_cons, Piece.allFit_commas]
    exact ⟨Piece.allFit_words _, trivial, each.2 fits⟩

end TableChange

/-! ## §2 What is written as it is -/

/-- The texts of a property that its column's definition has as they are, the storage type in upper
case. -/
def Property.unquoted (p : Property) : List String :=
  (if p.type.hasStorageType then (p.dataType.map Text.upperCase).toList else []) ++
    if p.type.acceptsCharset then p.charset.toList ++ p.collation.toList else []

/-- The texts of a model that plans have as they are. -/
def Model.unquoted (m : Model) : List String :=
  m.settings.engine.toList ++ m.columnProperties.flatMap Property.unquoted

namespace Sql

/-- The default storage types are bare words. -/
theorem isBareWord_storageName {default : String} (bare : IsBareWord default) (p : Property) :
    IsBareWord (ColumnType.storageName p default) ↔
      ∀ w ∈ (p.dataType.map Text.upperCase).toList, IsBareWord w := by
  cases declared : p.dataType <;> simp [ColumnType.storageName, declared, bare]

/-- Of a column type, only a declared storage type can be no bare word. -/
theorem isBareWord_columnType (p : Property) :
    (∀ name ∈ (ColumnType.ofProperty p).name?, IsBareWord name) ↔
      ∀ w ∈ if p.type.hasStorageType then (p.dataType.map Text.upperCase).toList else
        [], IsBareWord w := by
  have fixed : IsBareWord "TEXT" ∧ IsBareWord "TINYINT" ∧ IsBareWord "POINT" := by decide
  have defaults :
      IsBareWord "VARCHAR" ∧ IsBareWord "LONGTEXT" ∧ IsBareWord "DATETIME" ∧ IsBareWord "INT" := by
    decide
  -- Only the types that read `dataType` have a name of the user's.
  cases type : p.type with
  | string | text | json | date =>
    simp [ColumnType.ofProperty, type, PropertyType.hasStorageType, name?_sized,
      isBareWord_storageName, defaults]
  | number =>
    simp [ColumnType.ofProperty, type, PropertyType.hasStorageType, name?_numeric,
      isBareWord_storageName, defaults]
  | boolean | point | array inner =>
    simp [ColumnType.ofProperty, type, PropertyType.hasStorageType, ColumnType.name?, fixed]
  | enumeration values =>
    simp [ColumnType.ofProperty, type, PropertyType.hasStorageType, ColumnType.name?]

/-- A column's definition fits exactly if the property's unquoted texts are bare words. -/
theorem allFit_ofProperty (p : Property) :
    Piece.AllFit (ColumnDefinition.ofProperty p).pieces ↔ ∀ w ∈ p.unquoted, IsBareWord w := by
  -- Charset and collation count only where the type takes them.
  have options : ((∀ w ∈ (ColumnDefinition.ofProperty p).charset, IsBareWord w) ∧
      ∀ w ∈ (ColumnDefinition.ofProperty p).collation, IsBareWord w) ↔
        ∀ w ∈ if p.type.acceptsCharset then p.charset.toList ++ p.collation.toList else
          [], IsBareWord w := by
    cases accepts : p.type.acceptsCharset
      <;> simp [ColumnDefinition.ofProperty, accepts, or_imp, forall_and]
  rw [allFit_columnDefinition, options, Property.unquoted, List.forall_mem_append,
    ← isBareWord_columnType]
  rfl

end Sql

namespace Model

variable {m : Model}

/-- The statement that makes the table fits exactly if the model's unquoted texts are bare words. -/
theorem allFit_createTable (m : Model) :
    Piece.AllFit m.createTable.pieces ↔ ∀ w ∈ m.unquoted, IsBareWord w := by
  have columns : (∀ c ∈ m.createTable.columns, Piece.AllFit c.2.pieces) ↔
      ∀ w ∈ m.columnProperties.flatMap Property.unquoted, IsBareWord w := by
    simp only [createTable, List.forall_mem_map, Sql.allFit_ofProperty, List.forall_mem_flatMap]
  have engine : (∀ w ∈ m.createTable.engine, IsBareWord w) ↔
      ∀ w ∈ m.settings.engine.toList, IsBareWord w := by
    simp [createTable]
  rw [Sql.CreateTable.allFit, columns, engine, unquoted, List.forall_mem_append, and_comm]

/-- With bare words, so does every clause that changes it. -/
theorem allFit_alterClauses (bare : ∀ w ∈ m.unquoted, IsBareWord w) (live : LiveTable) :
    ∀ c ∈ m.alterClauses live, Piece.AllFit c.pieces := by
  intro c listed
  have properties : ∀ p ∈ m.columnProperties,
      Piece.AllFit (Sql.ColumnDefinition.ofProperty p).pieces := by
    intro p column
    rw [Sql.allFit_ofProperty]
    intro w spliced
    exact bare w (List.mem_append_right _ (List.mem_flatMap.2 ⟨p, column, spliced⟩))
  rw [Sql.AlterClause.allFit]
  -- Only the clauses for properties have texts as they are.
  cases mem_alterClauses_iff.1 listed with
  | @addColumn p column _ => simpa [Sql.AlterClause.definition?] using properties p column
  | @changeColumn p _ column _ _ => simpa [Sql.AlterClause.definition?] using properties p column
  | changeId | dropColumn | dropIndex | addIndex => simp [Sql.AlterClause.definition?]

/-- **The plans for a valid model are confined exactly if the texts that they have as they are are
bare words.** Each text that was supplied is then one lexeme, and all else in a plan depends on the
shape of the model and on what has to change. -/
theorem reconcile_confined_iff (m : Model) (valid : m.validate = .ok ()) :
    (∀ live change, m.reconcile live = .ok change →
      change.Confined ∧ change.forms = (m.shape.change (m.drift live)).forms) ↔
        ∀ w ∈ m.unquoted, IsBareWord w := by
  constructor
  · -- The plan that makes the table has all these texts.
    intro all
    have made : m.reconcile none = .ok (.create m.createTable) := by simp [reconcile, valid]
    have fits := (TableChange.confined_iff _).1 (all none _ made).1
    exact (allFit_createTable m).1 (fits _ (List.mem_cons_self ..))
  · intro bare live change planned
    refine ⟨(TableChange.confined_iff _).2 ?_, forms_eq planned⟩
    -- Both kinds of plans have no other texts than those of the model.
    rcases reconcile_cases planned with ⟨-, rfl⟩ | ⟨table, -, rfl⟩
    · exact TableChange.allFit_create.2 ((allFit_createTable m).2 bare)
    · exact TableChange.allFit_alter.2 (allFit_alterClauses bare table)

/-- A table whose texts are plain words where they have to be. -/
def plainlyStored : Model where
  name := "t"
  table := none
  properties := [{ Property.ofType "a`b" .string with
    dataType := some "varchar", charset := some "utf8mb4", collation := some "utf8mb4_bin" }]
  indexes := [.ofColumns "--" ["a`b", "id"]]
  settings := ⟨some "InnoDB", .server⟩

/-- Its plans are confined, whatever else its names contain. -/
theorem reconcile_plainlyStored :
    plainlyStored.validate = .ok () ∧
      ∀ live change, plainlyStored.reconcile live = .ok change →
        change.Confined ∧ change.forms =
          (plainlyStored.shape.change (plainlyStored.drift live)).forms :=
  ⟨rfl, (reconcile_confined_iff plainlyStored rfl).2 (by decide)⟩

/-- A model that has a statement of its own behind the engine. -/
def engineWithStatement : Model :=
  { ofName "t" with settings := ⟨some "InnoDB; DROP TABLE users", .server⟩ }

/-- The check accepts an engine that ends the statement and begins another. -/
theorem reconcile_engineWithStatement :
    engineWithStatement.validate = .ok () ∧
      engineWithStatement.reconcile none = .ok (.create engineWithStatement.createTable) ∧
        ¬ (TableChange.create engineWithStatement.createTable).Confined ∧
          lexemes engineWithStatement.createTable.text.toList =
            some [.word "CREATE", .word "TABLE", .name ["t"],
            .sign '(', .name ["id"], .word "INT", .sign '(', .number "11", .sign ')', .word "NOT",
            .word "NULL", .word "AUTO_INCREMENT", .word "PRIMARY", .word "KEY", .sign ')',
            .word "ENGINE", .word "InnoDB", .sign ';', .word "DROP", .word "TABLE",
            .word "users"] := by
  -- The engine is no bare word, and the lexer reads its second statement.
  refine ⟨rfl, rfl, ?_, by decide +kernel⟩
  rw [TableChange.confined_iff, TableChange.allFit_create, allFit_createTable]
  decide

end Model

end TableMapper
