import TableMapper.Gateway.Basic

/-!
# Exchanges with a gateway

An operation that talks to a gateway is the tree of what it sends: either it is done, or it sends a
statement and goes on according to the reply.  What it does is thus fixed for every gateway, and
running it against one (`Exchange.run`) is a recursion on the tree that also gives the statements
sent.
-/

namespace TableMapper

/-- An operation that gives an `α` after some statements. -/
inductive Exchange (α : Type) where
  | done (a : α)
  | send (sql : String) (next : Reply → Exchange α)

namespace Exchange

variable {α β : Type}

def bind : Exchange α → (α → Exchange β) → Exchange β
  | .done a, f => f a
  | .send sql next, f => .send sql fun reply => bind (next reply) f

def map (f : α → β) (e : Exchange α) : Exchange β := e.bind fun a => .done (f a)

instance : Monad Exchange where
  pure := .done
  bind := Exchange.bind

def statement (sql : String) : Exchange Reply := .send sql .done

/-- What a run gives: the result, the statements sent in order, and the gateway's state after it. -/
structure Outcome (σ α : Type) where
  result : α
  sent : List String
  state : σ
  deriving Repr

/-- Runs an exchange against a gateway. -/
def run {σ : Type} (g : Gateway σ) (state : σ) : Exchange α → Outcome σ α
  | .done a => ⟨a, [], state⟩
  | .send sql next =>
    let answer := g.execute state sql
    let outcome := run g answer.2 (next answer.1)
    ⟨outcome.result, sql :: outcome.sent, outcome.state⟩

/-- All exchanges of a list, one after another. -/
def all : List (Exchange α) → Exchange (List α)
  | [] => .done []
  | e :: rest => e.bind fun a => (all rest).map (a :: ·)

/-! ## Laws -/

/-- Running one exchange after another joins what they send and passes the state on. -/
theorem run_bind {σ : Type} (g : Gateway σ) (state : σ) (e : Exchange α) (f : α → Exchange β) :
    (e.bind f).run g state =
      let first := e.run g state
      let second := (f first.result).run g first.state
      ⟨second.result, first.sent ++ second.sent, second.state⟩ := by
  induction e generalizing state with
  | done a => simp [bind, run]
  | send sql next ih => simp [bind, run, ih]

/-- A function of the result changes neither what is sent nor the state that is left. -/
theorem run_map {σ : Type} (g : Gateway σ) (state : σ) (f : α → β) (e : Exchange α) :
    (e.map f).run g state =
      ⟨f (e.run g state).result, (e.run g state).sent, (e.run g state).state⟩ := by
  simp [map, run_bind, run]

end Exchange

end TableMapper
