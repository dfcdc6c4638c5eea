import Mathlib.Data.List.Basic
import TableMapper.Proofs.Gateway.Dialogue

/-!
# Exchanges beside one another

The exchanges of a batch go on independently: whenever one of them is about to send, it may send,
and whenever one waits, its reply may come, in any order and with any reply.  So a run of a batch is
a list of events, each with the position of the exchange that it happens to.

- `Ongoing` is an exchange on its way, a task for short, and `Ongoing.Run` what may happen to it
  alone;
- `Interleaving.Run` is what may happen to a list of tasks;
- `Batch` is a list of exchanges with a way to put their results together; `Batch.Completes` says
  what its runs give, and `Batch.inOrder` does one exchange after another, which is one of these
  runs.

Nothing is supposed about a gateway, so the runs are those with every gateway there could be.
-/

namespace TableMapper

variable {α β : Type}

/-! ## §1 Tasks -/

/-- A task is an exchange on its way: it goes on, or waits for a reply. -/
inductive Ongoing (α : Type) where
  | active (e : Exchange α)
  | waiting (next : Reply → Exchange α)

/-- What happens to an exchange. -/
inductive Happening where
  | sent (sql : String)
  | answered (reply : Reply)

/-- The statement that is sent, if one is. -/
def Happening.statement? : Happening → Option String
  | .sent sql => some sql
  | .answered _ => none

/-- A statement is sent, and then the reply comes. -/
def Happening.ofTurn (turn : Turn) : List Happening := [.sent turn.1, .answered turn.2]

/-- The statements of a dialogue are those of its turns. -/
theorem statements_ofTurn (turns : List Turn) :
    (turns.flatMap Happening.ofTurn).filterMap Happening.statement? = turns.map Prod.fst := by
  induction turns with
  | nil => rfl
  | cons turn turns ih =>
    rw [List.flatMap_cons, List.filterMap_append, ih]
    rfl

namespace Ongoing

/-- The task that has ended with a result. -/
def ended (a : α) : Ongoing α := .active (.done a)

/-- One thing that happens to a task. -/
inductive Step : Ongoing α → Happening → Ongoing α → Prop where
  | send (sql : String) (next : Reply → Exchange α) :
    Step (.active (.send sql next)) (.sent sql) (.waiting next)
  | answer (next : Reply → Exchange α) (reply : Reply) :
      Step (.waiting next) (.answered reply) (.active (next reply))

/-- What happens to a task, one thing after another. -/
inductive Run : Ongoing α → List Happening → Ongoing α → Prop where
  | refl (t : Ongoing α) : Run t [] t
  | step {t u v : Ongoing α} {h : Happening} {hs : List Happening} :
    Step t h u → Run u hs v → Run t (h :: hs) v

/-- Nothing happens to a task that has ended. -/
theorem Run.of_ended {a : α} {hs : List Happening} {t : Ongoing α} (run : (ended a).Run hs t) :
    hs = [] ∧ t = ended a := by
  cases run with
  | refl => exact ⟨rfl, rfl⟩
  | step first _ => cases first

/-- A task that sends one statement has not sent it yet, waits for the reply, or has ended with
it. -/
theorem Run.of_send {sql : String} {f : Reply → α} {hs : List Happening} {t : Ongoing α}
    (run : (active (.send sql fun reply => .done (f reply))).Run hs t) :
    (hs = [] ∧ t = active (.send sql fun reply => .done (f reply))) ∨
      (hs = [.sent sql] ∧ t = waiting fun reply => .done (f reply)) ∨
      ∃ reply, hs = [.sent sql, .answered reply] ∧ t = ended (f reply) := by
  cases run with
  | refl => exact .inl ⟨rfl, rfl⟩
  | step first rest =>
    cases first with
    | send =>
      cases rest with
      | refl => exact .inr (.inl ⟨rfl, rfl⟩)
      -- After the reply the task has ended, and a run leaves it so.
      | step second rest =>
        cases second with
        | answer _ reply =>
          obtain ⟨rfl, rfl⟩ := rest.of_ended
          exact .inr (.inr ⟨reply, rfl, rfl⟩)

/-- A task that has not ended can go on. -/
theorem exists_step_or_ended (t : Ongoing α) : (∃ h u, t.Step h u) ∨ ∃ a, t = ended a := by
  cases t with
  | waiting next => exact .inl ⟨_, _, .answer next (.error (.connection ""))⟩
  | active e =>
    cases e with
    | done a => exact .inr ⟨a, rfl⟩
    | send sql next => exact .inl ⟨_, _, .send sql next⟩

/-- A dialogue is something that may happen to an exchange alone. -/
theorem Run.of_dialogue {e : Exchange α} {turns : List Turn} {a : α} (h : Dialogue e turns a) :
    (active e).Run (turns.flatMap Happening.ofTurn) (ended a) := by
  induction h with
  | done a => exact .refl _
  | turn _ ih => exact .step (.send ..) (.step (.answer ..) ih)

end Ongoing

/-! ## §2 Lists of tasks -/

/-- What happens in a batch, with the position of the exchange that it happens to. -/
abbrev BatchEvent := Nat × Happening

/-- What happens to the exchange at a position. -/
def ownEvents (i : Nat) (events : List BatchEvent) : List Happening :=
  (events.filter (·.1 == i)).map (·.2)

/-- The statements that are sent, in order. -/
def sentIn (events : List BatchEvent) : List String :=
  events.filterMap fun event => event.2.statement?

@[simp] theorem ownEvents_cons_self (i : Nat) (h : Happening) (events : List BatchEvent) :
    ownEvents i ((i, h) :: events) = h :: ownEvents i events := by
  simp [ownEvents]

/-- What happens to another exchange is not counted. -/
theorem ownEvents_cons_of_ne {i j : Nat} (ne : j ≠ i) (h : Happening) (events : List BatchEvent) :
    ownEvents i ((j, h) :: events) = ownEvents i events := by
  simp [ownEvents, ne]

/-- The statements of two stretches of events stand one behind the other. -/
theorem sentIn_append (events more : List BatchEvent) :
    sentIn (events ++ more) = sentIn events ++ sentIn more :=
  List.filterMap_append ..

/-- The statements of one exchange alone. -/
theorem sentIn_own (i : Nat) (hs : List Happening) :
    sentIn (hs.map fun h => (i, h)) = hs.filterMap Happening.statement? :=
  List.filterMap_map ..

/-- If at most `k` things happen at each of `n` positions, then at most `k * n` happen. -/
theorem length_le_of_ownEvents {k n : Nat} {events : List BatchEvent}
    (inside : ∀ event ∈ events, event.1 < n)
    (few : ∀ i < n, (ownEvents i events).length ≤ k) : events.length ≤ k * n := by
  induction n generalizing events with
  | zero =>
    have none : events = [] := List.eq_nil_iff_forall_not_mem.2 fun event mem =>
      absurd (inside event mem) (Nat.not_lt_zero _)
    simp [none]
  | succ n ih =>
    -- What happens at the last position, and what happens before it.
    have last : (events.filter (·.1 == n)).length ≤ k := by
      simpa [ownEvents] using few n (Nat.lt_succ_self n)
    have before : (events.filter (!·.1 == n)).length ≤ k * n := by
      apply ih
      · intro event mem
        have here := List.mem_filter.1 mem
        have notLast : event.1 ≠ n := by simpa using here.2
        exact Nat.lt_of_le_of_ne (Nat.le_of_lt_succ (inside event here.1)) notLast
      · intro i lt
        have same : ownEvents i (events.filter (!·.1 == n)) = ownEvents i events := by
          unfold ownEvents
          rw [List.filter_filter]
          congr 1
          apply List.filter_congr
          intro event _
          by_cases own : event.1 = i
          · simp [own, Nat.ne_of_lt lt]
          · simp [own]
        rw [same]
        exact few i (Nat.lt_succ_of_lt lt)
    rw [List.length_eq_length_filter_add fun event : BatchEvent => event.1 == n, Nat.mul_succ,
      Nat.add_comm]
    exact Nat.add_le_add before last

namespace Interleaving

/-- One thing that happens to one of the tasks. -/
inductive Step : List (Ongoing α) → BatchEvent → List (Ongoing α) → Prop where
  | item {tasks : List (Ongoing α)} {i : Nat} {t u : Ongoing α} {h : Happening}
      (here : tasks[i]? = some t)
      (step : t.Step h u) : Step tasks (i, h) (tasks.set i u)

/-- What happens to the tasks, one thing after another. -/
inductive Run : List (Ongoing α) → List BatchEvent → List (Ongoing α) → Prop where
  | refl (tasks : List (Ongoing α)) : Run tasks [] tasks
  | step {tasks later last : List (Ongoing α)} {event : BatchEvent} {events : List BatchEvent} :
      Step tasks event later → Run later events last → Run tasks (event :: events) last

variable {tasks later last : List (Ongoing α)} {event : BatchEvent} {events more : List BatchEvent}

/-- A step replaces a task, so that there are as many afterwards. -/
theorem Step.length_eq (step : Step tasks event later) : later.length = tasks.length := by
  cases step
  exact List.length_set

/-- A step happens to a task that there is. -/
theorem Step.lt_length (step : Step tasks event later) : event.1 < tasks.length := by
  cases step with
  | item here => exact (List.getElem?_eq_some_iff.1 here).1

/-- There are as many tasks at the end as there were at the beginning. -/
theorem Run.length_eq (run : Run tasks events last) : last.length = tasks.length := by
  induction run with
  | refl => rfl
  | step first _ ih => rw [ih, first.length_eq]

/-- All that happens in a run happens to tasks that there are. -/
theorem Run.lt_length (run : Run tasks events last) : ∀ event ∈ events, event.1 < tasks.length := by
  induction run with
  | refl => simp
  | step first _ ih =>
    rw [List.forall_mem_cons]
    rw [first.length_eq] at ih
    exact ⟨first.lt_length, ih⟩

/-- Without tasks, nothing happens. -/
theorem Run.of_nil (run : Run ([] : List (Ongoing α)) events last) : events = [] ∧ last = [] := by
  cases run with
  | refl => exact ⟨rfl, rfl⟩
  | step first _ => exact absurd first.lt_length (Nat.not_lt_zero _)

/-- What happens to the list at a position is a run of the one that stands there. -/
theorem Run.own (run : Run tasks events last) {i : Nat} {t : Ongoing α}
    (here : tasks[i]? = some t) :
    ∃ u, last[i]? = some u ∧ t.Run (ownEvents i events) u := by
  induction run generalizing t with
  | refl => exact ⟨t, here, .refl t⟩
  | step first _ ih =>
    -- The first event is one of this task, or leaves it as it is.
    cases first with
    | @item j _ _ h there step =>
      by_cases same : j = i
      · subst same
        cases there.symm.trans here
        have inside := (List.getElem?_eq_some_iff.1 here).1
        obtain ⟨u, found, rest⟩ := ih (List.getElem?_set_self inside)
        rw [ownEvents_cons_self]
        exact ⟨u, found, .step step rest⟩
      · obtain ⟨u, found, rest⟩ := ih ((List.getElem?_set_ne same).trans here)
        rw [ownEvents_cons_of_ne same]
        exact ⟨u, found, rest⟩

/-- Two runs, one continuing the other, are one run. -/
theorem Run.append (run : Run tasks events later) (rest : Run later more last) :
    Run tasks (events ++ more) last := by
  induction run with
  | refl => exact rest
  | step first _ ih => exact .step first (ih rest)

/-- A task may go on alone, whatever stands before and behind it. -/
theorem Run.of_ongoing {t u : Ongoing α} {hs : List Happening} (run : t.Run hs u)
    (before behind : List (Ongoing α)) :
    Run (before ++ t :: behind) (hs.map fun h => (before.length, h)) (before ++ u :: behind) := by
  induction run with
  | refl => exact .refl _
  | @step t u _ h _ first _ ih =>
    -- The step replaces the task where it stands, so that its neighbours stay.
    have here : (before ++ t :: behind)[before.length]? = some t := by simp
    have step := Step.item here first
    rw [List.set_append_right _ _ (Nat.le_refl _)] at step
    simp only [Nat.sub_self, List.set_cons_zero] at step
    exact .step step ih

/-- Tasks that have not all ended can go on. -/
theorem exists_step_or_ended (tasks : List (Ongoing α)) :
    (∃ event later, Step tasks event later) ∨
      ∃ results : List α, tasks = results.map Ongoing.ended := by
  induction tasks with
  | nil => exact .inr ⟨[], rfl⟩
  | cons t tasks ih =>
    -- Either the first task can go on, or it has ended and one of the others may.
    rcases t.exists_step_or_ended with ⟨h, u, step⟩ | ⟨a, rfl⟩
    · exact .inl ⟨_, _, .item (i := 0) rfl step⟩
    · rcases ih with ⟨⟨i, h⟩, later, step⟩ | ⟨results, rfl⟩
      · cases step with
        | item here step => exact .inl ⟨_, _, .item (i := i + 1) here step⟩
      · exact .inr ⟨a :: results, rfl⟩

end Interleaving

/-! ## §3 Batches -/

/-- Exchanges that go on beside one another, and what their results give together. -/
structure Batch (α β : Type) where
  items : List (Exchange α)
  finish : List α → β

namespace Batch

def start (b : Batch α β) : List (Ongoing α) := b.items.map .active

/-- The batch may give `b` while the events happen: all exchanges end, and their results are put
together by position. -/
def Completes (b : Batch α β) (events : List BatchEvent) (outcome : β) : Prop :=
  ∃ results, Interleaving.Run b.start events (results.map Ongoing.ended) ∧
    outcome = b.finish results

/-- One exchange after another. -/
def inOrder (b : Batch α β) : Exchange β := (Exchange.all b.items).map b.finish

/-- Exchanges done one after another, behind some that have ended. -/
theorem exists_run_all {σ : Type} (g : Gateway σ) (state : σ) (earlier : List α)
    (items : List (Exchange α)) :
    ∃ events, Interleaving.Run (earlier.map Ongoing.ended ++ items.map .active) events
        ((earlier ++ ((Exchange.all items).run g state).result).map Ongoing.ended) ∧
      sentIn events = ((Exchange.all items).run g state).sent := by
  induction items generalizing state earlier with
  | nil => exact ⟨[], by simpa [Exchange.all, Exchange.run] using .refl _, rfl⟩
  | cons e items ih =>
    -- The first exchange alone, while those behind it have not begun.
    have own := Ongoing.Run.of_dialogue (e.dialogue_transcript g state)
    obtain ⟨events, rest, restSent⟩ :=
      ih (e.run g state).state (earlier ++ [(e.run g state).result])
    have first := Interleaving.Run.of_ongoing own (earlier.map Ongoing.ended) (items.map .active)
    simp only [List.map_append, List.map_cons, List.map_nil, List.append_assoc, List.cons_append,
      List.nil_append] at rest
    have whole := first.append rest
    refine ⟨_, by simpa [Exchange.all, Exchange.run_bind, Exchange.run_map] using whole, ?_⟩
    rw [sentIn_append, sentIn_own, statements_ofTurn, Exchange.map_fst_transcript, restSent]
    simp [Exchange.all, Exchange.run_bind, Exchange.run_map]

/-- Doing one exchange after another is a run of the batch. -/
theorem completes_inOrder {σ : Type} (g : Gateway σ) (state : σ) (b : Batch α β) :
    ∃ events, b.Completes events (b.inOrder.run g state).result ∧
      sentIn events = (b.inOrder.run g state).sent := by
  obtain ⟨events, run, sent⟩ := exists_run_all g state [] b.items
  refine ⟨events, ⟨_, run, ?_⟩, ?_⟩
  · simp [inOrder, Exchange.run_map]
  · simpa [inOrder, Exchange.run_map] using sent

end Batch

end TableMapper
