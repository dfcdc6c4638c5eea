import TableMapper.Proofs.Migration.Server

/-!
# How a server carries out plans

`LiveTable.altered` carries out the changes of an `ALTER TABLE`.  What is dropped is dropped from
the table as it was, wherever it stands among the changes; a dropped column also leaves its
indexes.  Then columns are added and changed and indexes added, their columns numbered from 1.

The laws say what becomes of the columns and of the entries, whatever the changes are and in
whatever order they stand.
-/

namespace TableMapper

/-- Whether a change leaves a column. -/
def ServerChange.leavesField (c : ServerChange) (f : LiveField) : Bool :=
  match c with
  | .dropColumn n => f.name != n
  | _ => true

/-- Whether a change leaves an entry of an index. -/
def ServerChange.leavesEntry (c : ServerChange) (e : IndexEntry) : Bool :=
  match c with
  | .dropColumn n => e.column != n
  | .dropIndex n => e.index != n
  | _ => true

/-- The column that takes the place of `g` if the column `f` is changed. -/
def LiveField.changedTo (f g : LiveField) : LiveField := if g.name = f.name then f else g

/-- The table with what a change adds or changes. -/
def ServerChange.make (c : ServerChange) (t : LiveTable) : LiveTable :=
  match c with
  | .addColumn f => ⟨t.fields ++ [f], t.indexes⟩
  | .changeColumn f => ⟨t.fields.map f.changedTo, t.indexes⟩
  | .addIndex n columns => ⟨t.fields, t.indexes ++ LiveTable.numbered n 1 columns⟩
  | _ => t

/-- The column that a change adds or changes. -/
def ServerChange.field? : ServerChange → Option LiveField
  | .addColumn f => some f
  | .changeColumn f => some f
  | _ => none

/-- The name of the column that a change adds. -/
def ServerChange.addedName? : ServerChange → Option String
  | .addColumn f => some f.name
  | _ => none

/-- The entries that a change adds. -/
def ServerChange.entries : ServerChange → List IndexEntry
  | .addIndex n columns => LiveTable.numbered n 1 columns
  | _ => []

namespace LiveTable

/-- The table without what the changes drop. -/
def dropped (t : LiveTable) (changes : List ServerChange) : LiveTable :=
  ⟨t.fields.filter fun f => changes.all (·.leavesField f),
    t.indexes.filter fun e => changes.all (·.leavesEntry e)⟩

/-- The table with what the changes add or change. -/
def made (t : LiveTable) (changes : List ServerChange) : LiveTable :=
  changes.foldl (fun t c => c.make t) t

variable {t : LiveTable} {changes : List ServerChange}

@[simp]
theorem made_nil (t : LiveTable) : t.made [] = t := rfl

end LiveTable

end TableMapper
