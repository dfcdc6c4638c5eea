import TableMapper.Proofs.Mapper.Autoupdate
import TableMapper.Proofs.Model.Validity

/-!
# What is registered after any calls

A mapper is called again and again, with definitions that pass their checks and some that do not,
and with any other operation between them.  What it has registered depends on the accepted
definitions alone.

- `Call` is a call of any operation, and `Call.serve` carries it out and gives the mapper after it;
- `Registered` says what is registered after some definitions, and `Registered.define` that one more
  keeps it so;
- `Mapper.afterCalls_registers` is the law of all runs, with what follows for plans: the schema of a
  registered model is never at fault.
-/

namespace TableMapper

/-! ## §1 Calls -/

/-- A call of an operation.  What makes the ids of new rows is an argument of the call. -/
inductive Call where
  | define (model : Model)
  | lookUp (name : String)
  | list
  | find (name : String) (filter : Filter)
  | create (makeId : IdMode → Option String) (name : String) (data : Row)
  | updateOrCreate (name : String) (data : Row)
  | count (name : String) (condition : Option ConditionTree)
  | update (name : String) (specs : List UpdateSpec)
  | checkMigration (name : String)
  | autoupdate
  | isActual

/-- What a call gives. -/
inductive Answer where
  | defined (result : Except MapperError Model)
  | found (result : Except MapperError Model)
  | listed (models : List Model)
  | rows (result : Except MapperError (List Row))
  | id (result : Except MapperError Value)
  | row (result : Except MapperError Row)
  | count (result : Except MapperError UInt64)
  | infos (result : Except BatchFailure (List ExecInfo))
  | plan (result : Except MapperError MigrationPlan)
  | plans (result : Except MapperError (List MigrationPlan))
  | actual (result : Except MapperError Bool)

namespace Call

/-- Carries out a call, and gives the mapper after it. -/
def serve (mapper : Mapper) : Call → Exchange (Answer × Mapper)
  | .define model =>
    .done (match mapper.define model with
      | .error e => (.defined (.error e), mapper)
      | .ok (model, mapper) => (.defined (.ok model), mapper))
  | .lookUp name => .done (.found (mapper.model name), mapper)
  | .list => .done (.listed mapper.models, mapper)
  | .find name filter => (mapper.find name filter).map fun result => (.rows result, mapper)
  | .create makeId name data =>
    (mapper.create makeId name data).map fun result => (.id result, mapper)
  | .updateOrCreate name data =>
    (mapper.updateOrCreate name data).map fun result => (.row result, mapper)
  | .count name condition => (mapper.count name condition).map fun result => (.count result, mapper)
  | .update name specs => (mapper.update name specs).map fun result => (.infos result, mapper)
  | .checkMigration name => (mapper.checkMigration name).map fun result => (.plan result, mapper)
  | .autoupdate => mapper.autoupdate.map fun result => (.plans result, mapper)
  | .isActual => mapper.isActual.map fun result => (.actual result, mapper)

/-- Carries out calls one after another, and gives the mapper after the last one. -/
def serveAll (mapper : Mapper) : List Call → Exchange (List Answer × Mapper)
  | [] => .done ([], mapper)
  | call :: calls =>
    (call.serve mapper).bind fun (answer, after) =>
      (serveAll after calls).map fun (answers, last) => (answer :: answers, last)

/-- The model of a definition that passes its check. -/
def accepted? : Call → Option Model
  | .define model =>
    match model.validate with
    | .error _ => none
    | .ok () => some model
  | _ => none

end Call

/-- The model as it is registered: with the engine of the settings if it names none. -/
def Settings.registered (settings : Settings) (model : Model) : Model :=
  { model with settings :=
    { model.settings with engine := model.settings.engine.or settings.engine } }

/-- What a definition gives. -/
def Settings.defined (settings : Settings) (model : Model) : Except MapperError Model :=
  match model.validate with
  | .error e => .error (.core e)
  | .ok () => .ok (settings.registered model)

variable {settings : Settings} {mapper : Mapper}

/-- A definition is registered with the engine of the settings if it names none. -/
theorem withEngine_eq (mapper : Mapper) (model : Model) :
    mapper.withEngine model = mapper.settings.registered model := by
  obtain ⟨name, table, properties, indexes, engine, mode⟩ := model
  cases engine <;> rfl

/-! ## §2 Definitions -/

namespace Registry

variable {model : Model} {models : List Model}

/-- A model takes the place of the one of its name, or comes last. -/
theorem map_name_place (model : Model) (models : List Model) :
    (place model models).map (·.name) =
      if model.name ∈ models.map (·.name) then models.map (·.name) else
        models.map (·.name) ++ [model.name] := by
  induction models with
  | nil => simp [place]
  | cons m models ih =>
    -- The place is the first model of the name.
    by_cases same : m.name = model.name
    · simp [place, same]
    · simp only [place, same, if_false, List.map_cons, ih, List.mem_cons, Ne.symm same, false_or]
      split <;> simp

/-- If names do not repeat, only the model of the same name makes room for a new one. -/
theorem mem_place (distinct : (models.map (·.name)).Nodup) {m : Model}
    (h : m ∈ place model models) :
    m = model ∨ (m ∈ models ∧ m.name ≠ model.name) := by
  induction models with
  | nil => exact .inl (List.mem_singleton.1 h)
  | cons first models ih =>
    obtain ⟨fresh, distinct⟩ := List.nodup_cons.1 distinct
    by_cases same : first.name = model.name
    · -- The first one makes room, and none behind it has its name.
      simp only [place, same, if_true, List.mem_cons] at h
      rcases h with rfl | later
      · exact .inl rfl
      · refine .inr ⟨List.mem_cons_of_mem _ later, fun again => fresh ?_⟩
        exact List.mem_map.2 ⟨m, later, again.trans same.symm⟩
    · simp only [place, same, if_false, List.mem_cons] at h
      rcases h with rfl | later
      · exact .inr ⟨List.mem_cons_self .., same⟩
      · rcases ih distinct later with rfl | ⟨listed, other⟩
        · exact .inl rfl
        · exact .inr ⟨List.mem_cons_of_mem _ listed, other⟩

end Registry

/-- What is registered after definitions that were accepted. -/
structure Registered (settings : Settings) (definitions : List Model) (mapper : Mapper) : Prop where
  settingsKept : mapper.settings = settings
  /-- Each name is there, in the order of first definition, -/
  names : mapper.models.map (·.name) = (definitions.map (·.name)).eraseDups
  /-- and only once. -/
  distinct : (mapper.models.map (·.name)).Nodup
  /-- Each model is the last one defined under its name. -/
  latest : ∀ m ∈ mapper.models, ∃ before d after, definitions = before ++ d :: after ∧
    (∀ later ∈ after, later.name ≠ d.name) ∧ m = settings.registered d
  valid : ∀ m ∈ mapper.models, m.validate = .ok ()
  found : ∀ m ∈ mapper.models, mapper.model m.name = .ok m
  unknown : ∀ name, (∀ d ∈ definitions, d.name ≠ name) →
    mapper.model name = .error (.unknownModel name)

namespace Registered

variable {definitions : List Model}

/-- What is found by name follows from the order of the names. -/
theorem of_names (same : mapper.settings = settings)
    (names : mapper.models.map (·.name) = (definitions.map (·.name)).eraseDups)
    (latest : ∀ m ∈ mapper.models, ∃ before d after, definitions = before ++ d :: after ∧
      (∀ later ∈ after, later.name ≠ d.name) ∧ m = settings.registered d)
    (valid : ∀ m ∈ mapper.models, m.validate = .ok ()) :
    Registered settings definitions mapper where
  settingsKept := same
  names := names
  distinct := names ▸ nodup_eraseDups _
  latest := latest
  valid := valid
  found := by
    intro m listed
    have distinct : (mapper.models.map (·.name)).Nodup := names ▸ nodup_eraseDups _
    have first : mapper.registry.get? m.name = some m := find?_eq_some_of_nodup distinct listed
    simp [Mapper.model, first]
  unknown := by
    intro name fresh
    -- Whatever is registered comes from a definition of its name.
    have missing : mapper.registry.get? name = none := by
      refine List.find?_eq_none.2 fun m listed same => ?_
      obtain ⟨before, d, after, rfl, -, rfl⟩ := latest m listed
      exact fresh d (by simp) (beq_iff_eq.1 same)
    simp [Mapper.model, missing]

/-- A new mapper has registered nothing. -/
theorem ofSettings (settings : Settings) : Registered settings [] (Mapper.ofSettings settings) := by
  refine of_names rfl rfl ?_ ?_
  · intro m listed
    cases listed
  · intro m listed
    cases listed

/-- One more definition takes the place of the one of its name, or comes last. -/
theorem define (h : Registered settings definitions mapper) {model : Model}
    (passes : model.validate = .ok ()) :
    Registered settings (definitions ++ [model])
      { mapper with registry := mapper.registry.insert (settings.registered model) } := by
  refine of_names h.settingsKept ?_ ?_ ?_
  · show (Registry.place (settings.registered model) mapper.models).map (·.name) = _
    rw [Registry.map_name_place, h.names, List.map_append, List.map_singleton,
      eraseDups_append_singleton]
    simp only [List.mem_eraseDups]
    rfl
  · intro m listed
    -- The new definition is the last of its name, and stays behind the others' last ones.
    rcases Registry.mem_place h.distinct listed with rfl | ⟨earlier, other⟩
    · exact ⟨definitions, model, [], rfl, by simp, rfl⟩
    · obtain ⟨before, d, after, rfl, last, rfl⟩ := h.latest m earlier
      refine ⟨before, d, after ++ [model], by simp, ?_, rfl⟩
      intro later found
      rcases List.mem_append.1 found with old | new
      · exact last later old
      · rw [List.mem_singleton.1 new]
        exact Ne.symm other
  · intro m listed
    rcases Registry.mem_place h.distinct listed with rfl | ⟨earlier, -⟩
    · exact passes
    · exact h.valid m earlier

/-! ## §3 Runs -/

variable {σ : Type} (g : Gateway σ)

/-- A call registers what it defines, if that is accepted, and nothing else. -/
theorem serve (h : Registered settings definitions mapper) (call : Call) (state : σ) :
    Registered settings (definitions ++ call.accepted?.toList)
      ((call.serve mapper).run g state).result.2 := by
  cases call with
  | define model =>
    simp only [Call.serve, Exchange.run, Mapper.define, Call.accepted?]
    cases passes : model.validate with
    | error e => simpa using h
    | ok _ =>
      obtain rfl := h.settingsKept
      rw [withEngine_eq]
      exact h.define passes
  -- No other operation gives another mapper.
  | _ => simpa [Call.serve, Call.accepted?, Exchange.run_map, Exchange.run] using h

/-- What is registered after calls follows from the definitions among them that were accepted. -/
theorem serveAll (h : Registered settings definitions mapper) (calls : List Call) (state : σ) :
    Registered settings (definitions ++ calls.filterMap Call.accepted?)
      ((Call.serveAll mapper calls).run g state).result.2 := by
  -- By induction on the calls, with the definitions so far as the invariant.
  induction calls generalizing mapper definitions state with
  | nil => simpa [Call.serveAll, Exchange.run] using h
  | cons call calls ih =>
    have rest := ih (h.serve g call state) ((call.serve mapper).run g state).state
    have joined : (call :: calls).filterMap Call.accepted? =
        call.accepted?.toList ++ calls.filterMap Call.accepted? := by
      cases found : call.accepted? <;> simp [found]
    rw [joined, ← List.append_assoc]
    simpa [Call.serveAll, Exchange.run_bind, Exchange.run_map] using rest

/-- Each definition gives the model as it is registered, or the fault of its check. -/
theorem answers_serveAll (h : Registered settings definitions mapper) (calls : List Call)
    (state : σ) {i : Nat} {model : Model} (here : calls[i]? = some (.define model)) :
    ((Call.serveAll mapper calls).run g state).result.1[i]? =
      some (.defined (settings.defined model)) := by
  -- The calls before the definition change the mapper, but not how it is answered.
  induction calls generalizing mapper definitions state i with
  | nil => cases here
  | cons call calls ih =>
    simp only [Call.serveAll, Exchange.run_bind, Exchange.run_map]
    cases i with
    | succ i => exact ih (h.serve g call state) _ here
    | zero =>
      cases here
      simp only [Call.serve, Exchange.run, Mapper.define, List.getElem?_cons_zero, Settings.defined]
      cases model.validate with
      | error e => rfl
      | ok _ => simp [withEngine_eq, h.settingsKept]

end Registered

/-! ## §4 Plans of registered models -/

section Plans

variable {σ : Type} (g : Gateway σ) {model : Model}

/-- Once a table was inspected, a model that passes its check has a plan. -/
theorem Inspection.exists_plan {fields : Reply} {indexes : Option Reply} {live : Option LiveTable}
    (h : Inspection fields indexes (.ok live)) (passes : model.validate = .ok ()) :
    ∃ plan, model.plan live = .ok plan := by
  refine TableMapper.exists_plan passes fun table found => ?_
  cases found
  exact h.validate

/-- The plan of a model that passes its check fails only because of the gateway. -/
theorem result_planFor_ne_core (passes : model.validate = .ok ()) (state : σ) (e : Error) :
    ((Mapper.planFor model).run g state).result ≠ .error (.core e) := by
  obtain ⟨live, result, inspected⟩ := ((Mapper.planFor model).dialogue_transcript g state).map_inv
  obtain ⟨fields, indexes, -, inspection⟩ := inspection_of_dialogue inspected
  rw [result]
  -- A gateway's error is reported as such, and an inspected table has a plan.
  cases live with
  | error fault => simp [Mapper.planOf]
  | ok live =>
    obtain ⟨plan, planned⟩ := inspection.exists_plan passes
    simp [Mapper.planOf, planned]

/-- Bringing such a model up to date fails only because of the gateway. -/
theorem result_migrate_ne_core (passes : model.validate = .ok ()) (state : σ) (e : Error) :
    ((Mapper.migrate model).run g state).result ≠ .error (.core e) := by
  obtain ⟨a, possible, rfl, -, outcome⟩ :=
    exists_attempt ((Mapper.migrate model).dialogue_transcript g state)
  rw [outcome]
  -- Only a model without a plan would end so.
  cases possible with
  | unplanned inspection fails =>
    obtain ⟨plan, planned⟩ := inspection.exists_plan passes
    simp [planned] at fails
  | _ => simp

/-- Checking a model by its name never fails because of a schema. -/
theorem result_checkMigration_ne_core {mapper : Mapper}
    (valid : ∀ m ∈ mapper.models, m.validate = .ok ()) (name : String) (state : σ) (e : Error) :
    ((mapper.checkMigration name).run g state).result ≠ .error (.core e) := by
  unfold Mapper.checkMigration Mapper.model
  cases known : mapper.registry.get? name with
  | none => simp [Exchange.run]
  | some model =>
    exact result_planFor_ne_core g (valid model (List.mem_of_find?_eq_some known)) state e

/-- Nor does bringing all tables up to date. -/
theorem result_autoupdate_ne_core {mapper : Mapper}
    (valid : ∀ m ∈ mapper.models, m.validate = .ok ())
    (state : σ) (e : Error) : (mapper.autoupdate.run g state).result ≠ .error (.core e) := by
  have outcomes : ∀ outcome ∈
      ((Exchange.all (mapper.models.map Mapper.migrate)).run g state).result,
      outcome ≠ .error (.core e) := by
    refine Exchange.forall_result_all g ?_ state
    intro task listed state
    obtain ⟨model, registered, rfl⟩ := List.mem_map.1 listed
    exact result_migrate_ne_core g (valid model registered) state e
  intro failed
  rw [Mapper.autoupdate, Exchange.run_map] at failed
  -- The error that is reported is that of one of the models.
  obtain ⟨before, after, all, -⟩ := Mapper.applied_eq_error_iff.1 failed
  exact outcomes (.error (.core e)) (by simp [all]) rfl

end Plans

/-! ## §5 All runs -/

namespace Mapper

/-- What calls of a new mapper give, and the mapper after them. -/
def afterCalls (settings : Settings) (calls : List Call) {σ : Type} (g : Gateway σ) (state : σ) :
    List Answer × Mapper :=
  ((Call.serveAll (ofSettings settings) calls).run g state).result

/-- The calls of a new mapper register what they define. -/
theorem registered_afterCalls (settings : Settings) (calls : List Call) {σ : Type} (g : Gateway σ)
    (state : σ) :
    Registered settings (calls.filterMap Call.accepted?) (afterCalls settings calls g state).2 :=
  (Registered.ofSettings settings).serveAll g calls state

/-- A mapper that calls of a new one lead to. -/
def Reachable (mapper : Mapper) : Prop :=
  ∃ (settings : Settings) (calls : List Call) (σ : Type) (g : Gateway σ) (state : σ),
    (afterCalls settings calls g state).2 = mapper

/-- Every registered model is found by its name. -/
theorem Reachable.found {mapper : Mapper} (h : mapper.Reachable) :
    ∀ m ∈ mapper.models, mapper.model m.name = .ok m := by
  obtain ⟨settings, calls, σ, g, state, rfl⟩ := h
  exact (registered_afterCalls settings calls g state).found

/-- **What is registered depends on the accepted definitions alone.**  After any calls, each name
that was defined is there once, in the order of first definition and with its last definition; a
definition that does not pass its check gives the fault and changes nothing.  So every registered
model passes its check, and whatever a gateway answers, no plan fails because of a schema. -/
theorem afterCalls_registers (settings : Settings) (calls : List Call) {σ : Type} (g : Gateway σ)
    (state : σ) :
    Registered settings (calls.filterMap Call.accepted?) (afterCalls settings calls g state).2 ∧
    (∀ (i : Nat) (model : Model), calls[i]? = some (.define model) →
      (afterCalls settings calls g state).1[i]? = some (.defined (settings.defined model))) ∧
    (∀ (model : Model) (e : Error), model.validate = .error e →
      (Call.define model).serve (afterCalls settings calls g state).2 =
        .done (.defined (.error (.core e)), (afterCalls settings calls g state).2)) ∧
    ∀ {τ : Type} (h : Gateway τ) (now : τ) (e : Error),
      (∀ name, (((afterCalls settings calls g state).2.checkMigration name).run h now).result ≠
        .error (.core e)) ∧
        ((afterCalls settings calls g state).2.autoupdate.run h now).result ≠ .error (.core e) := by
  -- All of it follows from what is registered after the calls.
  have registered := registered_afterCalls settings calls g state
  refine ⟨registered, ?_, ?_, ?_⟩
  · intro i model here
    exact (Registered.ofSettings settings).answers_serveAll g calls state here
  · intro model e fault
    simp only [Call.serve, define, fault]
  · intro τ h now e
    refine ⟨fun name => ?_, ?_⟩
    · exact result_checkMigration_ne_core h registered.valid name now e
    · exact result_autoupdate_ne_core h registered.valid now e

end Mapper

end TableMapper
