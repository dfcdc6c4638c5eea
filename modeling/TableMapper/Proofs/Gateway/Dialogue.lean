import Mathlib.Data.List.Forall2
import TableMapper.Gateway.Exchange

/-!
# Dialogues

A dialogue of an exchange is what it sends with what is replied, turn by turn, to its end.

- `Dialogue` is the relation of an exchange, the turns and the result, for every way to reply; it is
  taken apart as exchanges are put together (`Dialogue.bind_inv`, `Dialogue.all_inv`);
- `Exchange.transcript` are the turns of the run against a gateway, which is a dialogue.
-/

namespace TableMapper

variable {α β : Type}

/-- A statement with the reply to it. -/
abbrev Turn := String × Reply

/-! ## §1 Dialogues -/

/-- The exchange sends the statements of the turns, each after the reply before it, and ends with a
result. -/
inductive Dialogue : Exchange α → List Turn → α → Prop where
  | done (a : α) : Dialogue (.done a) [] a
  | turn {sql : String} {next : Reply → Exchange α} {reply : Reply} {turns : List Turn} {a : α} :
      Dialogue (next reply) turns a → Dialogue (.send sql next) ((sql, reply) :: turns) a

namespace Dialogue

/-- An exchange that is done has no turns left. -/
theorem of_done {a b : α} {turns : List Turn} (h : Dialogue (.done a) turns b) :
    turns = [] ∧ b = a := by
  cases h
  exact ⟨rfl, rfl⟩

/-- The first turn of an exchange that sends is its statement with some reply to it. -/
theorem of_send {sql : String} {next : Reply → Exchange α} {turns : List Turn} {a : α}
    (h : Dialogue (.send sql next) turns a) :
    ∃ reply rest, turns = (sql, reply) :: rest ∧ Dialogue (next reply) rest a := by
  cases h with
  | turn rest => exact ⟨_, _, rfl, rest⟩

/-- A dialogue of two exchanges is one of the first, followed by one of the second. -/
theorem bind_inv {e : Exchange α} {f : α → Exchange β} {turns : List Turn} {b : β}
    (h : Dialogue (e.bind f) turns b) :
    ∃ first a rest, turns = first ++ rest ∧ Dialogue e first a ∧ Dialogue (f a) rest b := by
  -- By induction on the first exchange, whose turns come first.
  induction e generalizing turns with
  | done a => exact ⟨[], a, turns, rfl, .done a, h⟩
  | send sql next ih =>
    obtain ⟨reply, more, rfl, later⟩ := of_send h
    obtain ⟨first, a, rest, rfl, own, other⟩ := ih reply later
    exact ⟨_, a, rest, rfl, .turn own, other⟩

/-- A function of the result leaves the turns as they are. -/
theorem map_inv {e : Exchange α} {f : α → β} {turns : List Turn} {b : β}
    (h : Dialogue (e.map f) turns b) :
    ∃ a, b = f a ∧ Dialogue e turns a := by
  obtain ⟨first, a, rest, rfl, own, last⟩ := bind_inv h
  obtain ⟨rfl, rfl⟩ := of_done last
  rw [List.append_nil]
  exact ⟨a, rfl, own⟩

end Dialogue

/-! ## §2 Transcripts -/

namespace Exchange

variable {σ : Type}

/-- The statements that are sent to a gateway, each with its reply. -/
def transcript (g : Gateway σ) (state : σ) : Exchange α → List Turn
  | .done _ => []
  | .send sql next =>
    let answer := g.execute state sql
    (sql, answer.1) :: transcript g answer.2 (next answer.1)

/-- The transcript is about the statements that are sent. -/
theorem map_fst_transcript (g : Gateway σ) (state : σ) (e : Exchange α) :
    (e.transcript g state).map Prod.fst = (e.run g state).sent := by
  induction e generalizing state with
  | done a => rfl
  | send sql next ih => simp [transcript, run, ih]

/-- A run against a gateway is one of the dialogues. -/
theorem dialogue_transcript (g : Gateway σ) (state : σ) (e : Exchange α) :
    Dialogue e (e.transcript g state) (e.run g state).result := by
  induction e generalizing state with
  | done a => exact .done a
  | send sql next ih => exact .turn (ih _ _)

/-- What holds of the result of every exchange of a list, in any state, holds of their results. -/
theorem forall_result_all {p : α → Prop} (g : Gateway σ) {es : List (Exchange α)}
    (each : ∀ e ∈ es, ∀ state, p (e.run g state).result) (state : σ) :
    ∀ a ∈ ((all es).run g state).result, p a := by
  induction es generalizing state with
  | nil => simp [all, run]
  | cons e es ih =>
    obtain ⟨first, rest⟩ := List.forall_mem_cons.1 each
    simp only [all, run_bind, run_map]
    exact List.forall_mem_cons.2 ⟨first state, ih rest _⟩

end Exchange

end TableMapper
