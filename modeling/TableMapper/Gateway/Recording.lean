import TableMapper.Gateway.Basic
import TableMapper.Number.Decimal
import TableMapper.Text.Search

/-!
# A recording gateway

A gateway that keeps every statement it is sent and answers by rules.  The first rule whose pattern
occurs in a statement answers it with its replies in turn, the last one again and again; a statement
to which no rule applies changes no rows.
-/

namespace TableMapper

/-- How statements with a pattern are answered. -/
structure ReplyRule where
  pattern : String
  replies : List Reply

/-- The state of a recording gateway: its rules, and the statements sent so far, last one first. -/
structure Recording where
  rules : List ReplyRule
  log : List String

namespace Recording

/-- The reply to a statement to which no rule applies. -/
def accepted : Reply := .ok (.affected ⟨0, none⟩)

/-- The next reply of a rule, and the rule after it. -/
def ReplyRule.next (rule : ReplyRule) : Reply × ReplyRule :=
  match rule.replies with
  | [] => (accepted, rule)
  | [last] => (last, rule)
  | reply :: rest => (reply, { rule with replies := rest })

/-- The reply of the rules to a statement, and the rules after it. -/
def answer (sql : String) : List ReplyRule → Reply × List ReplyRule
  | [] => (accepted, [])
  | rule :: rest =>
    if Text.contains rule.pattern.toList sql.toList then
      let (reply, rule) := ReplyRule.next rule
      (reply, rule :: rest)
    else
      let (reply, rest) := answer sql rest
      (reply, rule :: rest)

def gateway : Gateway Recording where
  execute state sql :=
    let (reply, rules) := answer sql state.rules
    (reply, ⟨rules, sql :: state.log⟩)

/-- The statements sent so far, in order. -/
def executed (state : Recording) : List String := state.log.reverse

def clear (state : Recording) : Recording := { state with log := [] }

def display (state : Recording) : String :=
  "RecordingGateway \x7b executed: " ++ natText state.log.length ++ " \x7d"

end Recording

end TableMapper
