import TableMapper.Proofs.Migration.Planned

/-!
# One plan is enough

A server carries out a plan by reading its statements (`Model.migrated?`).  Whatever the table was
before, it is then as the model declares it, and the plan for it is empty.

The one exception is a table that is left without any column: it counts as missing.  This happens if
the model has no column besides `id`, and the live table has columns but no `id`.
-/

namespace TableMapper

open Reconcile

namespace Model

/-! ## §1 Carrying out a plan -/

variable {m : Model} {live : LiveTable}

/-- A column agrees with a property in nullability and in the normal form of its type. -/
theorem columnDiffers_eq_false_iff {p : Property} {field : LiveField} :
    columnDiffers p field = false ↔ field.nullable = !p.isNotNull ∧
      normalizeType field.columnType = normalizeType (Sql.ColumnType.ofProperty p).text := by
  simp only [columnDiffers, Bool.or_eq_false_iff, bne_eq_false_iff_eq]
  apply and_congr_left
  intro _
  unfold Property.isNotNull
  cases field.nullable <;> rcases p.nullable with _ | _ | _ <;> decide

/-- A model with an indexed column and an index over two columns. -/
def account : Model :=
  let email := Property.ofType "email" .string
  ⟨"account", none, [{ email with index := some ⟨some .unique, none⟩ }, .ofType "visits" .number],
    [.ofColumns "email_visits" ["email", "visits"]], ⟨none, .server⟩⟩

/-- A table of other columns and indexes, whose index `email_visits` begins with a column to
drop. -/
def drifted : LiveTable where
  fields := [⟨"id", "int(11)", false⟩, ⟨"obsolete", "varchar(10)", true⟩, ⟨"email", "text", false⟩]
  indexes := [⟨"PRIMARY", "id", 1⟩, ⟨"email_visits", "email", 2⟩, ⟨"email_visits", "obsolete", 1⟩]

end Model

end TableMapper
