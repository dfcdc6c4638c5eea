import TableMapper.Error
import TableMapper.Gateway.Basic

/-!
# Errors of operations

An operation fails before it sends anything, because of its arguments or an unknown model, or after
it has, because of the gateway's reply.  A batch of updates fails with the errors and results of all
its items.
-/

namespace TableMapper

/-- The kind of reply that an operation waits for. -/
inductive ExpectedReply where
  | rows
  | affectedCount
  | countRow
  deriving DecidableEq, Repr

def ExpectedReply.words : ExpectedReply → String
  | .rows => "a result set"
  | .affectedCount => "an affected-row count"
  | .countRow => "a count row"

/-- An error of an operation. -/
inductive MapperError where
  | core (error : Error)
  | execution (error : GatewayError)
  | unknownModel (name : String)
  | unexpectedOutput (expected : ExpectedReply)
  deriving Repr

def MapperError.message : MapperError → String
  | .core error => error.message
  | .execution error => "execution failed: " ++ error.message
  | .unknownModel name => "unknown model: " ++ name
  | .unexpectedOutput expected => "unexpected gateway output: expected " ++ expected.words

/-- The outcome of a batch of updates of which at least one failed: the outcome of each item. -/
structure BatchFailure where
  outcomes : List (Except MapperError ExecInfo)

namespace BatchFailure

def errorOf? {α : Type} : Except MapperError α → Option MapperError
  | .error e => some e
  | .ok _ => none

def resultOf? {α : Type} : Except MapperError α → Option α
  | .error _ => none
  | .ok a => some a

/-- The errors by position. -/
def errors (f : BatchFailure) : List (Option MapperError) := f.outcomes.map errorOf?

/-- The results by position. -/
def results (f : BatchFailure) : List (Option ExecInfo) := f.outcomes.map resultOf?

def failed (f : BatchFailure) : Nat := f.errors.countP Option.isSome

def message (f : BatchFailure) : String :=
  natText f.failed ++ " of " ++ natText f.errors.length ++ " updates failed" ++
    match f.errors.findSome? id with
    | none => ""
    | some first => "; first error: " ++ first.message

end BatchFailure

end TableMapper
