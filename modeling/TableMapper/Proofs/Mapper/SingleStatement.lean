import TableMapper.Proofs.Mapper.History

/-!
# One statement or none

Finding, making, making or changing, and counting rows each send one statement, or none if the model
is unknown or the arguments are at fault.  The error tells which of the two it was.

- `MapperError.Early` are the errors of what has not been sent;
- `SendsOnce` says what a run sends and which error it gives, and `sendsOnce_perform` that the four
  operations do so;
- `WithId` is data with the id that the server reported;
- `Mapper.statement_sentOnce` puts these together.
-/

namespace TableMapper

/-- An error that is found before anything is sent. -/
inductive MapperError.Early : MapperError → Prop where
  | core (e : Error) : Early (.core e)
  | unknownModel (name : String) : Early (.unknownModel name)

variable {α σ : Type} {mapper : Mapper} {name : String}

/-! ## §1 Runs of one statement -/

/-- What a run sends and which error it gives, for a statement that is compiled for a model. -/
structure SendsOnce (mapper : Mapper) (name : String) (compile : Model → Except Error String)
    (outcome : Exchange.Outcome σ (Except MapperError α)) : Prop where
  nothing_iff : outcome.sent = [] ↔ ∃ e, outcome.result = .error e ∧ e.Early
  /-- In every other case the statement of the registered model is sent, and nothing else. -/
  otherwise : (¬ ∃ e, outcome.result = .error e ∧ e.Early) →
    ∃ model sql, mapper.model name = .ok model ∧ compile model = .ok sql ∧ outcome.sent = [sql]
  unknown_iff : ∀ n, outcome.result = .error (.unknownModel n) ↔
    n = name ∧ ∀ m ∈ mapper.models, m.name ≠ name
  core_iff : ∀ e, outcome.result = .error (.core e) ↔
    ∃ model, mapper.model name = .ok model ∧ compile model = .error e

/-- A lookup fails exactly if no registered model has the name. -/
theorem model_eq_error_iff {e : MapperError} :
    mapper.model name = .error e ↔ e = .unknownModel name ∧ ∀ m ∈ mapper.models, m.name ≠ name := by
  have missing : mapper.registry.get? name = none ↔ ∀ m ∈ mapper.models, m.name ≠ name := by
    simp [Registry.get?, Mapper.models]
  rw [← missing]
  unfold Mapper.model
  cases found : mapper.registry.get? name with
  | none => simp [eq_comm]
  | some model => simp

section Perform

variable {compile : Model → Except Error String} {next : Model → Reply → Except MapperError α}
    {model : Model}
  (g : Gateway σ) (state : σ)

/-- Nothing is sent for an unknown model. -/
theorem run_perform_of_unknown {e : MapperError} (unknown : mapper.model name = .error e) :
    (mapper.perform name compile next).run g state = ⟨.error e, [], state⟩ := by
  simp only [Mapper.perform, unknown, Exchange.run]

/-- Nothing is sent if the arguments are at fault. -/
theorem run_perform_of_refused (known : mapper.model name = .ok model) {e : Error}
    (refused : compile model = .error e) :
    (mapper.perform name compile next).run g state = ⟨.error (.core e), [], state⟩ := by
  simp only [Mapper.perform, known, refused, Exchange.run]

/-- Otherwise the compiled statement is sent, and its reply decides. -/
theorem run_perform_of_compiled (known : mapper.model name = .ok model) {sql : String}
    (compiled : compile model = .ok sql) :
    (mapper.perform name compile next).run g state =
      ⟨next model (g.execute state sql).1, [sql], (g.execute state sql).2⟩ := by
  simp only [Mapper.perform, known, compiled, Exchange.run]

/-- An operation that succeeds has sent its statement and made its result from the reply. -/
theorem perform_eq_ok {a : α}
    (h : ((mapper.perform name compile next).run g state).result = .ok a) :
    ∃ model sql, mapper.model name = .ok model ∧ compile model = .ok sql ∧
      ((mapper.perform name compile next).run g state).sent = [sql] ∧
        next model (g.execute state sql).1 = .ok a := by
  -- Without a statement there is an error, so there was one.
  cases known : mapper.model name with
  | error e =>
    rw [run_perform_of_unknown g state known] at h
    cases h
  | ok model =>
    cases compiled : compile model with
    | error fault =>
      rw [run_perform_of_refused g state known compiled] at h
      cases h
    | ok sql =>
      rw [run_perform_of_compiled g state known compiled] at h ⊢
      exact ⟨model, sql, rfl, compiled, rfl, h⟩

/-- What follows a reply gives no early error, so that the error tells what was sent. -/
theorem sendsOnce_perform (late : ∀ model reply e, next model reply = .error e → ¬ e.Early) :
    SendsOnce mapper name compile ((mapper.perform name compile next).run g state) := by
  cases known : mapper.model name with
  | error e =>
    obtain ⟨rfl, none⟩ := model_eq_error_iff.1 known
    rw [run_perform_of_unknown g state known]
    refine ⟨?_, ?_, ?_, ?_⟩
    · simpa using MapperError.Early.unknownModel name
    · exact fun other => absurd ⟨_, rfl, .unknownModel name⟩ other
    · intro n
      simpa [eq_comm] using fun _ => none
    · simp [known]
  | ok model =>
    -- The model is found, so its name is not unknown.
    have registered : ¬ ∀ m ∈ mapper.models, m.name ≠ name := by
      intro none
      rw [model_eq_error_iff.2 ⟨rfl, none⟩] at known
      cases known
    cases compiled : compile model with
    | error fault =>
      rw [run_perform_of_refused g state known compiled]
      refine ⟨?_, ?_, ?_, ?_⟩
      · simpa using MapperError.Early.core fault
      · exact fun other => absurd ⟨_, rfl, .core fault⟩ other
      · simp [registered]
      · simp [known, compiled]
    | ok sql =>
      rw [run_perform_of_compiled g state known compiled]
      -- Something was sent, so no early error may follow.
      refine ⟨?_, ?_, ?_, ?_⟩
      · simpa using fun e => late model (g.execute state sql).1 e
      · exact fun _ => ⟨model, sql, known, compiled, rfl⟩
      · intro n
        simp only [registered, and_false, iff_false]
        exact fun failed => late _ _ _ failed (.unknownModel n)
      · intro e
        simp only [known, Except.ok.injEq, exists_eq_left', compiled, reduceCtorEq, iff_false]
        exact fun failed => late _ _ _ failed (.core e)

end Perform

namespace Mapper

/-- What goes wrong with rows goes wrong after the statement was sent. -/
theorem not_early_of_rowsOf {reply : Reply} {e : MapperError} (h : rowsOf reply = .error e) :
    ¬ e.Early := by
  rcases reply with fault | rows | info <;> cases h <;> nofun

/-- So does what goes wrong with a number of changed rows, -/
theorem not_early_of_infoOf {reply : Reply} {e : MapperError} (h : infoOf reply = .error e) :
    ¬ e.Early := by
  rcases reply with fault | info | rows <;> cases h <;> nofun

/-- Only the number of changed rows is a success. -/
theorem eq_affected_of_infoOf {reply : Reply} {info : ExecInfo} (h : infoOf reply = .ok info) :
    reply = .ok (.affected info) := by
  rcases reply with fault | found | rows <;> cases h
  rfl

/-- and with a count. -/
theorem not_early_of_countReply {reply : Reply} {e : MapperError}
    (h : countReply reply = .error e) :
    ¬ e.Early := by
  unfold countReply at h
  cases rows : rowsOf reply with
  | error fault =>
    simp only [rows, Except.error.injEq] at h
    exact h ▸ not_early_of_rowsOf rows
  | ok found =>
    simp only [rows] at h
    split at h <;> cases h
    nofun

end Mapper

/-! ## §2 Data with a reported id -/

/-- Data with the id that the server reported, if it reported one: in the place of its first id, or
at its end. -/
inductive WithId : Row → Option UInt64 → Row → Prop where
  | unreported (data : Row) : WithId data none data
  | replaced (before after : Row) (value : Value) (id : UInt64)
      (first : idColumn ∉ before.map Prod.fst) :
      WithId (before ++ (idColumn, value) :: after) (some id)
        (before ++ (idColumn, .ofUInt64 id) :: after)
  | added (data : Row) (id : UInt64) (none : idColumn ∉ data.map Prod.fst) :
      WithId data (some id) (data ++ [(idColumn, .ofUInt64 id)])

namespace Mapper

/-- An id is set in the place of the first one, or at the end. -/
theorem withId_setId (id : UInt64) (data : Row) :
    WithId data (some id) (setId (.ofUInt64 id) data) := by
  induction data with
  | nil => exact .added [] id (by simp)
  | cons entry data ih =>
    obtain ⟨key, value⟩ := entry
    unfold setId
    split
    case isTrue here =>
      subst here
      exact .replaced [] data value id (by simp)
    case isFalse other =>
      -- An entry of another column stays in front.
      generalize setId (.ofUInt64 id) data = row at ih
      cases ih with
      | replaced before after value' id first =>
        exact .replaced ((key, value) :: before) after value' id (by simp [first, Ne.symm other])
      | added data id none =>
        exact .added ((key, value) :: data) id (by simp [none, Ne.symm other])

/-- The row that is given back is the data with the reported id. -/
theorem updateOrCreate_returns {g : Gateway σ} {state : σ} {data row : Row}
    (h : ((mapper.updateOrCreate name data).run g state).result = .ok row) :
    ∃ sql info, ((mapper.updateOrCreate name data).run g state).sent = [sql] ∧
      (g.execute state sql).1 = .ok (.affected info) ∧ WithId data info.insertId row := by
  obtain ⟨model, sql, -, -, sent, result⟩ := perform_eq_ok g state h
  split at result
  case h_1 => cases result
  case h_2 info read =>
    refine ⟨sql, info, sent, eq_affected_of_infoOf read, ?_⟩
    cases reported : info.insertId with
    | none =>
      simp only [reported, Except.ok.injEq] at result
      exact result ▸ .unreported data
    | some id =>
      simp only [reported, Except.ok.injEq] at result
      exact result ▸ withId_setId id data

/-! ## §3 The operations -/

/-- **One statement is sent, or none and the error says so.**  Finding, making, making or changing,
and counting rows send nothing exactly if the model is unknown or the arguments are at fault; in
every other case they send the statement compiled for the registered model and nothing else.  None
of them changes what is registered.  The row that was made or changed is the data with the id that
the server reported. -/
theorem statement_sentOnce (mapper : Mapper) (name : String) {σ : Type} (g : Gateway σ)
    (state : σ) :
    (∀ filter, SendsOnce mapper name (fun m => (m.select filter).map Sql.Select.text)
      ((mapper.find name filter).run g state)) ∧
    (∀ makeId data,
      SendsOnce mapper name (fun m => (m.insert (dataWithId makeId m data)).map Sql.Insert.text)
      ((mapper.create makeId name data).run g state)) ∧
    (∀ data, SendsOnce mapper name (fun m => (m.upsert data).map Sql.Upsert.text)
      ((mapper.updateOrCreate name data).run g state)) ∧
    (∀ condition, SendsOnce mapper name (fun m => (m.count condition).map Sql.Count.text)
      ((mapper.count name condition).run g state)) ∧
    (∀ filter makeId data condition, ∀ call ∈ [Call.find name filter, .create makeId name data,
      .updateOrCreate name data, .count name condition],
      ((call.serve mapper).run g state).result.2 = mapper) ∧
    ∀ data row, ((mapper.updateOrCreate name data).run g state).result = .ok row →
      ∃ sql info, ((mapper.updateOrCreate name data).run g state).sent = [sql] ∧
        (g.execute state sql).1 = .ok (.affected info) ∧ WithId data info.insertId row := by
  refine ⟨?_, ?_, ?_, ?_, ?_, fun data row => updateOrCreate_returns⟩
  · intro filter
    refine sendsOnce_perform g state fun model reply e failed => ?_
    split at failed
    case h_1 fault unread =>
      cases failed
      exact not_early_of_rowsOf unread
    case h_2 => cases failed
  · intro makeId data
    refine sendsOnce_perform g state fun model reply e failed => ?_
    split at failed
    case h_1 fault unread =>
      cases failed
      exact not_early_of_infoOf unread
    case h_2 => split at failed <;> cases failed
  · intro data
    refine sendsOnce_perform g state fun model reply e failed => ?_
    split at failed
    case h_1 fault unread =>
      cases failed
      exact not_early_of_infoOf unread
    case h_2 => split at failed <;> cases failed
  · intro condition
    exact sendsOnce_perform g state fun _ _ _ => not_early_of_countReply
  · intro filter makeId data condition call listed
    simp only [List.mem_cons, List.not_mem_nil, or_false] at listed
    rcases listed with rfl | rfl | rfl | rfl <;> simp [Call.serve, Exchange.run_map]

end Mapper

end TableMapper
