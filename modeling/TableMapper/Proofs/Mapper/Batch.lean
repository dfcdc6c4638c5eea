import TableMapper.Mapper.Basic
import TableMapper.Proofs.Gateway.Interleaving

/-!
# Batches of updates keep their positions

The updates of a batch go on beside one another.  In whatever order their statements are sent and
answered, each item ends by its own specification and the reply to its own statement, and is
reported at its own position.

- `BatchReport` says what is reported of the items' outcomes;
- `Mapper.updateBatch` is the batch of which `Mapper.update` is the run in order;
- `ItemEnds` is how one item ends;
- `Mapper.update_keepsPositions` puts these together for all runs.
-/

namespace TableMapper

/-! ## §1 Reports -/

/-- How one update of a batch ends. -/
abbrev UpdateOutcome := Except MapperError ExecInfo

/-- What a batch reports, by the outcomes of its items. -/
structure BatchReport (outcomes : List UpdateOutcome)
    (reported : Except BatchFailure (List ExecInfo)) : Prop where
  ok_iff : (∃ infos, reported = .ok infos) ↔ ∀ outcome ∈ outcomes, ∃ info, outcome = .ok info
  infos : ∀ infos, reported = .ok infos → outcomes = infos.map .ok
  lengths : ∀ f, reported = .error f →
    f.errors.length = outcomes.length ∧ f.results.length = outcomes.length
  /-- At each position there is the error or the result of the item. -/
  exactlyOne : ∀ f, reported = .error f → ∀ (i : Nat) (outcome : UpdateOutcome),
    outcomes[i]? = some outcome →
      (∃ e, outcome = .error e ∧ f.errors[i]? = some (some e) ∧ f.results[i]? = some none) ∨
        ∃ info, outcome = .ok info ∧ f.errors[i]? = some none ∧ f.results[i]? = some (some info)
  failed : ∀ f, reported = .error f → f.failed = outcomes.countP fun outcome => !outcome.isOk

variable {outcomes : List UpdateOutcome}

/-- The outcomes are results throughout exactly if each of them is one. -/
theorem exists_infos_iff :
    (∃ infos : List ExecInfo, outcomes = infos.map Except.ok) ↔
      ∀ outcome ∈ outcomes, ∃ info, outcome = .ok info := by
  induction outcomes with
  | nil => simp
  | cons outcome outcomes ih =>
    rw [List.forall_mem_cons, ← ih]
    constructor
    · intro ⟨infos, same⟩
      cases infos with
      | nil => cases same
      | cons info infos =>
        rw [List.map_cons, List.cons.injEq] at same
        exact ⟨⟨info, same.1⟩, infos, same.2⟩
    · intro ⟨⟨info, first⟩, infos, rest⟩
      exact ⟨info :: infos, by rw [first, rest, List.map_cons]⟩

/-- A failure reports the items as they ended. -/
theorem BatchReport.of_failure (some : ¬ ∃ infos : List ExecInfo, outcomes = infos.map Except.ok) :
    BatchReport outcomes (.error ⟨outcomes⟩) where
  ok_iff := by
    rw [← exists_infos_iff]
    simp [some]
  infos := by simp
  lengths := by simp [BatchFailure.errors, BatchFailure.results]
  exactlyOne := by
    intro f same i outcome here
    cases same
    simp only [BatchFailure.errors, BatchFailure.results, List.getElem?_map, here, Option.map_some]
    -- An item is an error or a result, and is shown in the one list or the other.
    cases outcome with
    | error e => exact .inl ⟨e, rfl, rfl, rfl⟩
    | ok info => exact .inr ⟨info, rfl, rfl, rfl⟩
  failed := by
    intro f same
    cases same
    simp only [BatchFailure.failed, BatchFailure.errors, List.countP_map]
    congr 1
    funext outcome
    cases outcome <;> rfl

/-- A success reports the results as they came. -/
theorem BatchReport.of_infos (infos : List ExecInfo) : BatchReport (infos.map .ok) (.ok infos) where
  ok_iff := by simp
  infos := by simp
  lengths := by simp
  exactlyOne := by simp
  failed := by simp

namespace Mapper

/-- All results are there exactly if no outcome is an error. -/
theorem mapM_resultOf?_eq_some_iff {infos : List ExecInfo} :
    outcomes.mapM BatchFailure.resultOf? = some infos ↔ outcomes = infos.map .ok := by
  induction outcomes generalizing infos with
  | nil => cases infos <;> simp
  | cons outcome outcomes ih =>
    rw [List.mapM_cons]
    cases outcome with
    | error e => cases infos <;> simp [BatchFailure.resultOf?]
    | ok info =>
      cases infos with
      | nil => simp [BatchFailure.resultOf?, Option.bind_eq_some_iff]
      | cons other infos =>
        simp [BatchFailure.resultOf?, Option.bind_eq_some_iff, ih, and_left_comm]

/-- What is gathered from outcomes is a report of them. -/
theorem batchReport_gather (outcomes : List UpdateOutcome) :
    BatchReport outcomes (gather outcomes) := by
  unfold gather
  -- Either all results are there, or some item has failed.
  cases found : outcomes.mapM BatchFailure.resultOf? with
  | some infos =>
    rw [mapM_resultOf?_eq_some_iff.1 found]
    exact .of_infos infos
  | none =>
    apply BatchReport.of_failure
    intro ⟨infos, same⟩
    rw [mapM_resultOf?_eq_some_iff.2 same] at found
    cases found

/-! ## §2 The batch -/

/-- The exchanges of the updates, and what they report.  An empty batch and one for an unknown model
have none. -/
def updateBatch (mapper : Mapper) (name : String) (specs : List UpdateSpec) :
    Batch UpdateOutcome (Except BatchFailure (List ExecInfo)) :=
  if specs.isEmpty then ⟨[], fun _ => .ok []⟩
  else
    match mapper.model name with
    | .error e => ⟨[], fun _ => .error ⟨specs.map fun _ => .error e⟩⟩
    | .ok model => ⟨updateItems model specs, gather⟩

/-- The operation does the updates of its batch in order. -/
theorem update_eq_inOrder (mapper : Mapper) (name : String) (specs : List UpdateSpec) :
    mapper.update name specs = (mapper.updateBatch name specs).inOrder := by
  unfold update updateBatch
  cases specs.isEmpty with
  | true => rfl
  | false => cases mapper.model name <;> rfl

/-- A model that is not found is unknown by the name that was asked for. -/
theorem eq_unknownModel {mapper : Mapper} {name : String} {e : MapperError}
    (h : mapper.model name = .error e) :
    e = .unknownModel name := by
  unfold model at h
  split at h <;> cases h
  rfl

/-! ## §3 Items -/

/-- How an item ends, by its statement and what was answered to it.  One that was not compiled sends
nothing, and any other one statement. -/
inductive ItemEnds : Except Error Sql.Update → List Happening → UpdateOutcome → Prop where
  | refused (e : Error) : ItemEnds (.error e) [] (.error (.core e))
  | changed (u : Sql.Update) (info : ExecInfo) :
      ItemEnds (.ok u) [.sent u.text, .answered (.ok (.affected info))] (.ok info)
  | rowsInstead (u : Sql.Update) (rows : List Row) :
      ItemEnds (.ok u) [.sent u.text, .answered (.ok (.rows rows))]
        (.error (.unexpectedOutput .affectedCount))
  | failed (u : Sql.Update) (e : GatewayError) :
      ItemEnds (.ok u) [.sent u.text, .answered (.error e)] (.error (.execution e))

/-- A compiled item ends by the reply to its statement. -/
theorem itemEnds_infoOf (u : Sql.Update) (reply : Reply) :
    ItemEnds (.ok u) [.sent u.text, .answered reply] (infoOf reply) := by
  rcases reply with e | rows | info
  · exact .failed u e
  · exact .rowsInstead u rows
  · exact .changed u info

/-- An item sends and waits at most once, and ends as it should. -/
theorem itemEnds_of_run {compiled : Except Error Sql.Update} {hs : List Happening}
    {t : Ongoing UpdateOutcome} (run : (Ongoing.active (updateItem compiled)).Run hs t) :
    hs.length ≤ 2 ∧ ∀ outcome, t = .ended outcome → ItemEnds compiled hs outcome := by
  cases compiled with
  | error e =>
    -- Nothing can happen to an item that was not compiled.
    obtain ⟨rfl, rfl⟩ := run.of_ended
    refine ⟨by simp, ?_⟩
    intro outcome same
    cases same
    exact .refused e
  | ok u =>
    rcases run.of_send with ⟨rfl, rfl⟩ | ⟨rfl, rfl⟩ | ⟨reply, rfl, rfl⟩
    -- As long as it has not been answered, it has no outcome.
    · exact ⟨by simp, fun _ same => by cases same⟩
    · exact ⟨by simp, fun _ same => by cases same⟩
    · refine ⟨by simp, ?_⟩
      intro outcome same
      cases same
      exact itemEnds_infoOf u reply

/-- The task at a position is that of the specification there. -/
theorem start_updateItems (model : Model) (specs : List UpdateSpec) {i : Nat} {spec : UpdateSpec}
    (here : specs[i]? = some spec) :
    ((updateItems model specs).map Ongoing.active)[i]? =
      some (.active (updateItem (model.update spec))) := by
  simp [updateItems, Model.updates, here]

/-! ## §4 Runs -/

variable {model : Model} {specs : List UpdateSpec} {events : List BatchEvent}

/-- A run has at most two events for each specification. -/
theorem length_le_of_run {last : List (Ongoing UpdateOutcome)}
    (run : Interleaving.Run ((updateItems model specs).map .active) events last) :
    (∀ event ∈ events, event.1 < specs.length) ∧ events.length ≤ 2 * specs.length := by
  have inside := run.lt_length
  simp only [List.length_map, updateItems, Model.updates] at inside
  refine ⟨inside, length_le_of_ownEvents inside ?_⟩
  -- At each position there are at most two events, a statement and its reply.
  intro i lt
  obtain ⟨t, -, own⟩ := run.own (start_updateItems model specs (List.getElem?_eq_getElem lt))
  exact (itemEnds_of_run own).1

/-- Each item of a run that has ended has an outcome, by its own specification and events. -/
theorem itemEnds_of_completed
    (run : Interleaving.Run ((updateItems model specs).map .active) events (outcomes.map .ended))
    {i : Nat} {spec : UpdateSpec} (here : specs[i]? = some spec) :
    ∃ outcome, outcomes[i]? = some outcome ∧
      ItemEnds (model.update spec) (ownEvents i events) outcome := by
  obtain ⟨t, found, own⟩ := run.own (start_updateItems model specs here)
  rw [List.getElem?_map, Option.map_eq_some_iff] at found
  obtain ⟨outcome, there, rfl⟩ := found
  exact ⟨outcome, there, (itemEnds_of_run own).2 outcome rfl⟩

variable {mapper : Mapper} {name : String}

theorem updateBatch_of_isEmpty (empty : specs = []) :
    mapper.updateBatch name specs = ⟨[], fun _ => .ok []⟩ := by
  simp [updateBatch, empty]

theorem updateBatch_of_error (some : specs ≠ []) {e : MapperError}
    (unknown : mapper.model name = .error e) :
    mapper.updateBatch name specs = ⟨[], fun _ => .error ⟨specs.map fun _ => .error e⟩⟩ := by
  simp [updateBatch, some, unknown]

/-- The batch of a registered model has an item for each specification. -/
theorem updateBatch_of_model (some : specs ≠ []) (known : mapper.model name = .ok model) :
    mapper.updateBatch name specs = ⟨updateItems model specs, gather⟩ := by
  simp [updateBatch, some, known]

/-- A batch of `n` updates ends after at most `2 * n` events: until it has ended, something can
happen. -/
theorem updateBatch_goesOn {last : List (Ongoing UpdateOutcome)}
    (run : Interleaving.Run (mapper.updateBatch name specs).start events last) :
    events.length ≤ 2 * specs.length ∧
      ((∃ event later, Interleaving.Step last event later) ∨
        ∃ outcomes : List UpdateOutcome, last = outcomes.map .ended) := by
  refine ⟨?_, Interleaving.exists_step_or_ended last⟩
  -- A batch without items has no events.
  by_cases empty : specs = []
  · rw [updateBatch_of_isEmpty empty] at run
    simp [run.of_nil.1]
  · cases found : mapper.model name with
    | error e =>
      rw [updateBatch_of_error empty found] at run
      simp [run.of_nil.1]
    | ok model =>
      rw [updateBatch_of_model empty found] at run
      exact (length_le_of_run run).2

/-! ## §5 Positions -/

/-- **Updates of a batch keep their positions in every order.**  Doing one update after another is
one of the runs of the batch, which all end.  An empty batch sends nothing and succeeds, and one for
an unknown model sends nothing and fails at every position.  Otherwise each item ends by its own
specification and the reply to its own statement, of which it sends one if it was compiled and none
if not, and is reported at its own position. -/
theorem update_keepsPositions (mapper : Mapper) (name : String) (specs : List UpdateSpec) :
    mapper.update name specs = (mapper.updateBatch name specs).inOrder ∧
    (∀ {σ : Type} (g : Gateway σ) (state : σ), ∃ events,
      (mapper.updateBatch name specs).Completes events
        ((mapper.update name specs).run g state).result ∧
        sentIn events = ((mapper.update name specs).run g state).sent) ∧
    (∀ events last, Interleaving.Run (mapper.updateBatch name specs).start events last →
      events.length ≤ 2 * specs.length ∧
        ((∃ event later, Interleaving.Step last event later) ∨
          ∃ outcomes : List UpdateOutcome, last = outcomes.map .ended)) ∧
    ∀ events reported, (mapper.updateBatch name specs).Completes events reported →
      (specs = [] → events = [] ∧ reported = .ok []) ∧
      (specs ≠ [] → ∀ e, mapper.model name = .error e → events = [] ∧
        BatchReport (specs.map fun _ => .error (.unknownModel name)) reported) ∧
      (specs ≠ [] → ∀ model, mapper.model name = .ok model → ∃ outcomes : List UpdateOutcome,
        outcomes.length = specs.length ∧ (∀ event ∈ events, event.1 < specs.length) ∧
        (∀ (i : Nat) (spec : UpdateSpec), specs[i]? = some spec →
          ∃ outcome, outcomes[i]? = some outcome ∧
          ItemEnds (model.update spec) (ownEvents i events) outcome) ∧
        BatchReport outcomes reported) := by
  refine ⟨update_eq_inOrder mapper name specs, ?_, ?_, ?_⟩
  · intro σ g state
    rw [update_eq_inOrder]
    exact Batch.completes_inOrder g state _
  · intro events last run
    exact updateBatch_goesOn run
  · intro events reported ⟨outcomes, run, ended⟩
    refine ⟨?_, ?_, ?_⟩
    · intro empty
      rw [updateBatch_of_isEmpty empty] at run ended
      exact ⟨run.of_nil.1, ended⟩
    · intro some e unknown
      rw [updateBatch_of_error some unknown] at run ended
      rw [ended, eq_unknownModel unknown]
      -- There is an item, so that not all of them succeeded.
      refine ⟨run.of_nil.1, .of_failure ?_⟩
      rw [exists_infos_iff]
      cases specs with
      | nil => exact absurd rfl some
      | cons spec specs => simp
    · intro some model known
      rw [updateBatch_of_model some known] at run ended
      -- No event adds or removes a task, so each item has its outcome.
      have lengths := run.length_eq
      simp only [Batch.start, List.length_map, updateItems, Model.updates] at lengths
      refine ⟨outcomes, lengths, (length_le_of_run run).1, ?_, ?_⟩
      · intro i spec here
        exact itemEnds_of_completed run here
      · rw [ended]
        exact batchReport_gather outcomes

/-- A mapper with one model. -/
def oneModel : Mapper := ⟨⟨[.ofName "t"]⟩, .default⟩

/-- Two updates with one between them that says no row. -/
def mixedSpecs : List UpdateSpec :=
  [⟨some [("a", .equal .null)], some [("b", .int 1)]⟩, ⟨none, some [("b", .int 2)]⟩,
    ⟨some [("a", .equal (.int 3))], some [("b", .null)]⟩]

/-- The last update is sent first and fails first. -/
def crossedEvents : List BatchEvent :=
  [(2, .sent "UPDATE `t` SET `b` = NULL WHERE `a` = 3"),
    (0, .sent "UPDATE `t` SET `b` = 1 WHERE `a` IS NULL"),
    (2, .answered (.error (.connection "lost"))), (0, .answered (.ok (.affected ⟨4, none⟩)))]

/-- A batch whose last item overtakes its first, and whose second one is never sent. -/
theorem update_keepsPositions_crossed :
    ∃ f outcomes, (oneModel.updateBatch "t" mixedSpecs).Completes crossedEvents (.error f) ∧
      f.errors.length = 3 ∧ outcomes.length = 3 ∧
      (∃ outcome, outcomes[1]? = some outcome ∧
        ItemEnds (.error .missingWhereOrUpdate) [] outcome) ∧
      BatchReport outcomes (.error f) := by
  -- Each event is a step of the task at its position.
  have completes : (oneModel.updateBatch "t" mixedSpecs).Completes crossedEvents
      (.error
        ⟨[.ok ⟨4, none⟩, .error (.core .missingWhereOrUpdate),
          .error (.execution (.connection "lost"))]⟩) :=
    ⟨[.ok ⟨4, none⟩, .error (.core .missingWhereOrUpdate),
      .error (.execution (.connection "lost"))],
      .step (.item rfl (.send ..)) (.step (.item rfl (.send ..)) (.step (.item rfl (.answer ..))
        (.step (.item rfl (.answer ..)) (.refl _)))), rfl⟩
  obtain ⟨-, -, -, positions⟩ := update_keepsPositions oneModel "t" mixedSpecs
  obtain ⟨outcomes, lengths, -, items, report⟩ :=
    (positions _ _ completes).2.2 (List.cons_ne_nil _ _) (.ofName "t") rfl
  exact ⟨_, outcomes, completes, rfl, lengths, items 1 _ rfl, report⟩

end Mapper

end TableMapper
