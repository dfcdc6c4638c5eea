import TableMapper.Proofs.Migration.Shown
import TableMapper.Proofs.Text.Letters

/-!
# Plans for reconciled tables

`Model.reconciled` is the table that a server reports once it has carried out a model's plan: what
the model declares, with types in lower case.  The plan for it is empty if the declared indexes
keep, and only then.
-/

namespace TableMapper.Model

open Reconcile

/-- The table that shows what the model declares, with its types in lower case. -/
def reconciled (m : Model) : LiveTable := m.shownIn Text.lowerCase

/-- The normal form is in lower case already. -/
@[simp]
theorem normalizeType_lowerCase (type : String) :
    normalizeType (Text.lowerCase type) = normalizeType type := by
  simp [normalizeType, Text.trim_lower]

theorem keepsTypes_lowerCase : KeepsTypes Text.lowerCase := normalizeType_lowerCase

/-- **The plan for the reconciled table is empty exactly if the model is valid and its indexes
keep.** -/
theorem plan_reconciled_iff (m : Model) :
    (∃ plan, m.plan (some m.reconciled) = .ok plan ∧ plan.statements = []) ↔
      m.validate = .ok () ∧ m.IndexesKeep := by
  rw [exists_empty_plan_iff rfl]
  apply and_congr_right
  intro passes
  have valid := (validate_eq_ok_iff m).1 passes
  -- Both directions go through the table being up to date.
  constructor
  · rintro ⟨checked, upToDate⟩
    exact (upToDate_shownIn_iff keepsTypes_lowerCase valid checked).1 upToDate
  · intro keep
    have checked : m.reconciled.validate = .ok () := (validate_shownIn_iff m).2 keep.short
    exact ⟨checked, (upToDate_shownIn_iff keepsTypes_lowerCase valid checked).2 keep⟩

/-- A model with an index that is named like the primary key's column. -/
def indexNamedId : Model :=
  ⟨"t", none, [.ofType "a" .number], [.ofColumns idColumn ["a"]], ⟨none, .server⟩⟩

/-- A valid model may need a change of its own reconciled table. -/
theorem plan_reconciled_indexNamedId :
    indexNamedId.validate = .ok () ∧
      ¬ ∃ plan, indexNamedId.plan (some indexNamedId.reconciled) = .ok plan ∧
        plan.statements = [] := by
  have added : indexNamedId.plan (some indexNamedId.reconciled) =
      .ok (.alter "`t`" ["ADD INDEX `id` (`a`)"]) := rfl
  refine ⟨rfl, ?_⟩
  rintro ⟨plan, made, empty⟩
  rw [added] at made
  rw [← Except.ok.inj made] at empty
  cases empty

end TableMapper.Model
