import TableMapper.Value.Basic

/-!
# Gateways

A gateway takes one statement after another and answers each with rows, with the number of rows that
a statement changed, or with an error.  What it answers may depend on all it has been sent before,
which is its state.
-/

namespace TableMapper

inductive GatewayError where
  | connection (text : String)
  | noSuchTable (text : String)
  | server (code : UInt16) (text : String)
  | protocol (text : String)
  deriving DecidableEq, Repr

def GatewayError.message : GatewayError → String
  | .connection text => "connection failed: " ++ text
  | .noSuchTable text => "table does not exist: " ++ text
  | .server code text => "server error " ++ natText code.toNat ++ ": " ++ text
  | .protocol text => "protocol error: " ++ text

/-- What a writing statement did. -/
structure ExecInfo where
  affectedRows : UInt64
  /-- The id that the server counted, if any. -/
  insertId : Option UInt64
  deriving DecidableEq, Repr

/-- What a statement gives. -/
inductive QueryOutput where
  | rows (rows : List Row)
  | affected (info : ExecInfo)
  deriving Repr

/-- A gateway's answer to a statement. -/
abbrev Reply := Except GatewayError QueryOutput

/-- A gateway with states of type `σ`. -/
structure Gateway (σ : Type) where
  execute : σ → String → Reply × σ

end TableMapper
