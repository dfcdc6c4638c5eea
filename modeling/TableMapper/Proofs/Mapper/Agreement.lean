import TableMapper.Proofs.Mapper.History

/-!
# Asking whether tables are up to date agrees with bringing them up to date

One operation looks each model up by its name and ends at the first table that has to change; the
other one goes through all models and changes what has to be changed.  Before a gateway that answers
by the text of a statement they agree.

- `Gateway.AnswersBy` are these gateways, before which a run does not depend on the state;
- `Model.AskedBy` are the only statements that are sent without changing anything;
- `Agrees` lists which results go together, and `agrees_areActual` says that they do, model by
  model;
- `Mapper.isActual_agrees` is the law for every mapper that calls lead to.
-/

namespace TableMapper

variable {σ α : Type} {g : Gateway σ}

/-! ## §1 Gateways that answer by the text -/

/-- What a gateway answers depends on the statement alone. -/
def Gateway.AnswersBy (g : Gateway σ) (answer : String → Reply) : Prop :=
  ∀ state sql, (g.execute state sql).1 = answer sql

/-- Before such a gateway an exchange gives and sends the same in every state. -/
theorem Gateway.AnswersBy.run_eq {answer : String → Reply} (fixed : g.AnswersBy answer)
    (e : Exchange α) (state state' : σ) :
    (e.run g state).result = (e.run g state').result ∧
      (e.run g state).sent = (e.run g state').sent := by
  induction e generalizing state state' with
  | done a => exact ⟨rfl, rfl⟩
  | send sql next ih =>
    simp only [Exchange.run, fixed state sql, fixed state' sql, List.cons.injEq, true_and]
    exact ih (answer sql) _ _

/-! ## §2 Questions -/

/-- A statement that asks for the columns or the indexes of a model's table. -/
def Model.AskedBy (model : Model) (sql : String) : Prop :=
  sql = "SHOW FIELDS FROM " ++ Sql.quoteName model.tableName ∨
    sql = "SHOW INDEXES FROM " ++ Sql.quoteName model.tableName

namespace Mapper

/-- A plan is made from the answers to questions about the model's own table. -/
theorem askedBy_planFor (g : Gateway σ) (model : Model) (state : σ) :
    ∀ sql ∈ ((planFor model).run g state).sent, model.AskedBy sql := by
  obtain ⟨live, -, inspected⟩ := ((planFor model).dialogue_transcript g state).map_inv
  obtain ⟨fields, indexes, turns, -⟩ := inspection_of_dialogue inspected
  rw [← Exchange.map_fst_transcript, turns]
  intro sql sent
  cases indexes with
  | none => exact .inl (by simpa [inspectionTurns] using sent)
  | some reply => simpa [inspectionTurns, Model.AskedBy] using sent

/-- Checking one model asks about the table of the registered model of its name. -/
theorem askedBy_checkMigration (g : Gateway σ) (mapper : Mapper) (name : String) (state : σ) :
    ∀ sql ∈ ((mapper.checkMigration name).run g state).sent,
      ∃ m ∈ mapper.models, m.name = name ∧ m.AskedBy sql := by
  unfold checkMigration model
  intro sql sent
  -- Nothing is asked for an unknown model.
  cases known : mapper.registry.get? name with
  | none => simp [known, Exchange.run] at sent
  | some model =>
    rw [known] at sent
    have named : model.name = name := by simpa using List.find?_some known
    exact ⟨model, List.mem_of_find?_eq_some known, named, askedBy_planFor g model state sql sent⟩

/-- Asking about all tables asks about those of registered models. -/
theorem askedBy_areActual (g : Gateway σ) (mapper : Mapper) (models : List Model) (state : σ) :
    ∀ sql ∈ ((mapper.areActual models).run g state).sent, ∃ m ∈ mapper.models, m.AskedBy sql := by
  induction models generalizing state with
  | nil => simp [areActual, Exchange.run]
  | cons model models ih =>
    intro sql sent
    rw [areActual, Exchange.run_bind] at sent
    rcases List.mem_append.1 sent with first | later
    · obtain ⟨m, registered, -, asked⟩ := askedBy_checkMigration g mapper model.name state sql first
      exact ⟨m, registered, asked⟩
    · -- Something is sent after the first model only if its table is up to date.
      split at later
      · simp [Exchange.run] at later
      · split at later
        · simp [Exchange.run] at later
        · exact ih _ sql later

/-! ## §3 Agreement -/

/-- Which results go together: of asking, and of bringing up to date. -/
inductive Agrees : Except MapperError Bool → Except MapperError (List MigrationPlan) → Prop where
  | upToDate : Agrees (.ok true) (.ok [])
  | failed (e : MapperError) : Agrees (.error e) (.error e)
  | changed (plan : MigrationPlan) (plans : List MigrationPlan) :
    Agrees (.ok false) (.ok (plan :: plans))
  | changeFailed (e : MapperError) : Agrees (.ok false) (.error e)

namespace Agrees

variable {actual : Except MapperError Bool} {done : Except MapperError (List MigrationPlan)}

/-- All tables are up to date exactly if nothing was changed. -/
theorem true_iff (h : Agrees actual done) : actual = .ok true ↔ done = .ok [] := by
  cases h <;> simp

/-- An error of asking is one of bringing up to date as well. -/
theorem eq_error (h : Agrees actual done) {e : MapperError} (failed : actual = .error e) :
    done = .error e := by
  cases h with
  | failed e' =>
    cases failed
    rfl
  | _ => cases failed

/-- If a table is not up to date, then it is changed or there is an error. -/
theorem of_false (h : Agrees actual done) (drifted : actual = .ok false) :
    (∃ e, done = .error e) ∨ ∃ plan plans, done = .ok (plan :: plans) := by
  cases h with
  | changed plan plans => exact .inr ⟨plan, plans, rfl⟩
  | changeFailed e => exact .inl ⟨e, rfl⟩
  | _ => cases drifted

end Agrees

/-- A plan needs changes exactly if it has a statement to send. -/
theorem needsChanges_iff {plan : MigrationPlan} : plan.needsChanges = true ↔ plan.sql? ≠ none := by
  rw [ne_eq, sql?_eq_none_iff]
  simp [MigrationPlan.needsChanges]

/-- A model that is up to date adds nothing to what is reported. -/
theorem applied_upToDate (outcomes : List (Except MapperError (Option MigrationPlan))) :
    applied (.ok none :: outcomes) = applied outcomes := by
  simp only [applied]
  cases applied outcomes <;> rfl

/-- After one change, the result is an error or names a plan. -/
theorem agrees_applied_changed (plan : MigrationPlan)
    (outcomes : List (Except MapperError (Option MigrationPlan))) :
    Agrees (.ok false) (applied (.ok (some plan) :: outcomes)) := by
  simp only [applied]
  cases applied outcomes with
  | error e => exact .changeFailed e
  | ok plans => exact .changed plan plans

variable {mapper : Mapper} {answer : String → Reply} {model : Model}
    {plan : MigrationPlan} {state : σ}

/-- Without a plan, its error is how the model ends. -/
theorem result_migrate_of_error {e : MapperError}
    (unplanned : ((planFor model).run g state).result = .error e) :
    ((migrate model).run g state).result = .error e := by
  simp [migrate, Exchange.run_bind, unplanned, Exchange.run]

/-- A plan without statement sends nothing beyond the questions. -/
theorem run_migrate_of_upToDate (planned : ((planFor model).run g state).result = .ok plan)
    (empty : plan.sql? = none) :
    (migrate model).run g state =
      ⟨.ok none, ((planFor model).run g state).sent, ((planFor model).run g state).state⟩ := by
  simp [migrate, Exchange.run_bind, planned, empty, Exchange.run]

/-- A plan with a statement fails, or is reported as carried out. -/
theorem result_migrate_of_change (planned : ((planFor model).run g state).result = .ok plan)
    {sql : String} (text : plan.sql? = some sql) :
    (∃ e, ((migrate model).run g state).result = .error e) ∨
      ((migrate model).run g state).result = .ok (some plan) := by
  simp only [migrate, Exchange.run_bind, planned, text, Exchange.run]
  split
  · exact .inl ⟨_, rfl⟩
  · exact .inr rfl

/-- Asking and bringing up to date agree for every list of models that are found by their names,
from any two states. -/
theorem agrees_areActual (fixed : g.AnswersBy answer) {models : List Model}
    (found : ∀ m ∈ models, mapper.model m.name = .ok m) (state state' : σ) :
    Agrees ((mapper.areActual models).run g state).result
        (applied ((Exchange.all (models.map migrate)).run g state').result) ∧
      (((mapper.areActual models).run g state).result = .ok true →
        ((mapper.areActual models).run g state).sent =
          ((Exchange.all (models.map migrate)).run g state').sent) := by
  -- By induction on the models: the two runs have not left the gateway in the same state.
  induction models generalizing state state' with
  | nil => exact ⟨.upToDate, fun _ => rfl⟩
  | cons model models ih =>
    obtain ⟨registered, others⟩ := List.forall_mem_cons.1 found
    have looked : mapper.checkMigration model.name = planFor model := by
      simp only [checkMigration, registered]
    -- Both begin with the plan of the first model, and get the same one.
    obtain ⟨same, sent⟩ := fixed.run_eq (planFor model) state state'
    simp only [areActual, looked, List.map_cons, Exchange.all, Exchange.run_bind,
      Exchange.run_map, same, sent]
    cases planned : ((planFor model).run g state').result with
    | error e =>
      rw [result_migrate_of_error planned]
      exact ⟨.failed e, by simp [Exchange.run]⟩
    | ok plan =>
      cases text : plan.sql? with
      | some sql =>
        -- Asking ends here, and whatever the other models give, the change or its failure is
        -- reported.
        have changes : plan.needsChanges = true := needsChanges_iff.2 (by simp [text])
        simp only [changes, if_true, Exchange.run]
        refine ⟨?_, by simp⟩
        rcases result_migrate_of_change planned text with ⟨e, failed⟩ | done
        · rw [failed]
          exact .changeFailed e
        · rw [done]
          exact agrees_applied_changed plan _
      | none =>
        -- Both go on to the other models, from states that may differ.
        have upToDate : plan.needsChanges = false := by
          rw [← Bool.not_eq_true, needsChanges_iff]
          simp [text]
        rw [run_migrate_of_upToDate planned text]
        simp only [upToDate, Bool.false_eq_true, if_false, applied_upToDate]
        obtain ⟨rest, restSent⟩ :=
          ih others ((planFor model).run g state).state ((planFor model).run g state').state
        exact ⟨rest, fun actual => by rw [restSent actual]⟩

/-- **Asking agrees with bringing up to date.**  Before a gateway that answers by the text of a
statement, all tables are said to be up to date exactly if nothing is changed, and then the same is
sent; an error of asking is that of bringing up to date, and a table that is not up to date is
changed, or there is an error.  Before any gateway, asking sends nothing but questions about the
tables of registered models. -/
theorem isActual_agrees {mapper : Mapper} (reachable : mapper.Reachable) {σ : Type} {g : Gateway σ}
    {answer : String → Reply} (fixed : g.AnswersBy answer) (state state' : σ) :
    ((mapper.isActual.run g state).result = .ok true ↔
      (mapper.autoupdate.run g state').result = .ok []) ∧
    ((mapper.isActual.run g state).result = .ok true →
      (mapper.isActual.run g state).sent = (mapper.autoupdate.run g state').sent) ∧
    (∀ e, (mapper.isActual.run g state).result = .error e →
      (mapper.autoupdate.run g state').result = .error e) ∧
    ((mapper.isActual.run g state).result = .ok false →
      (∃ e, (mapper.autoupdate.run g state').result = .error e) ∨
        ∃ plan plans, (mapper.autoupdate.run g state').result = .ok (plan :: plans)) ∧
    ∀ {τ : Type} (h : Gateway τ) (now : τ),
      (∀ sql ∈ (mapper.isActual.run h now).sent, ∃ m ∈ mapper.models, m.AskedBy sql) ∧
      ∀ name, ∀ sql ∈ ((mapper.checkMigration name).run h now).sent,
        ∃ m ∈ mapper.models, m.name = name ∧ m.AskedBy sql := by
  -- The registered models are those that are asked about.
  obtain ⟨agrees, sent⟩ := agrees_areActual fixed reachable.found state state'
  simp only [isActual, autoupdate, Exchange.run_map]
  refine ⟨agrees.true_iff, sent, fun e => agrees.eq_error, agrees.of_false, ?_⟩
  intro τ h now
  exact ⟨askedBy_areActual h mapper mapper.models now,
    fun name => askedBy_checkMigration h mapper name now⟩

/-- A gateway without a state. -/
def answering (answer : String → Reply) : Gateway Unit := ⟨fun state sql => (answer sql, state)⟩

/-- The tables have the column of the primary key and no index. -/
def bareTables (sql : String) : Reply :=
  if sql = "SHOW FIELDS FROM `t`" ∨ sql = "SHOW FIELDS FROM `u`" then
    .ok (.rows [[("Field", .string "id"), ("Type", .string "int"), ("Null", .string "NO")]])
  else .ok (.rows [])

/-- Two definitions with a rejected one between them, and the first one again. -/
def twoDefined : Mapper :=
  (afterCalls .default [.define (.ofName "t"), .define (.ofName ""), .autoupdate,
    .define (.ofName "u"), .define (.ofName "t")] (answering bareTables) ()).2

/-- Two models of which one was defined twice, both of them up to date. -/
theorem isActual_agrees_bareTables :
    twoDefined.Reachable ∧ (answering bareTables).AnswersBy bareTables ∧
      (twoDefined.isActual.run (answering bareTables) ()).result = .ok true ∧
      (twoDefined.autoupdate.run (answering bareTables) ()).result = .ok [] ∧
      (twoDefined.isActual.run (answering bareTables) ()).sent =
        (twoDefined.autoupdate.run (answering bareTables) ()).sent := by
  have reachable : twoDefined.Reachable := ⟨_, _, _, _, _, rfl⟩
  -- The gateway has no state to depend on.
  have fixed : (answering bareTables).AnswersBy bareTables := fun _ _ => rfl
  have actual : (twoDefined.isActual.run (answering bareTables) ()).result = .ok true := by
    exact rfl
  obtain ⟨both, sent, -⟩ := isActual_agrees reachable fixed () ()
  exact ⟨reachable, fixed, actual, both.1 actual, sent actual⟩

end Mapper

end TableMapper
