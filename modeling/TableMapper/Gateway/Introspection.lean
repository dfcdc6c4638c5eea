import TableMapper.Gateway.Exchange
import TableMapper.Migration.LiveTable
import TableMapper.Sql.Quoting

/-!
# Asking for a table's description

Two statements describe a table: one gives its columns and one the entries of its indexes.  Whatever
in their answers cannot be read is an error of the protocol.
-/

namespace TableMapper.Introspection

/-- The rows of a reply to a question about a table. -/
def rowsOf : Reply → Except GatewayError (List Row)
  | .error e => .error e
  | .ok (.rows rows) => .ok rows
  | .ok (.affected _) => .error (.protocol "introspection returned no result set")

/-- Reads every row of a description. -/
def readAll {α : Type} (read : Row → Except Error α) (reply : Reply) :
    Except GatewayError (List α) :=
  match rowsOf reply with
  | .error e => .error e
  | .ok rows =>
    match tryMap read rows with
    | .error e => .error (.protocol e.message)
    | .ok items => .ok items

def fieldsStatement (table : String) : String := "SHOW FIELDS FROM " ++ Sql.quoteName table

def indexesStatement (table : String) : String := "SHOW INDEXES FROM " ++ Sql.quoteName table

def fields (table : String) : Exchange (Except GatewayError (List LiveField)) :=
  .send (fieldsStatement table) fun reply => .done (readAll LiveField.ofRow reply)

def indexes (table : String) : Exchange (Except GatewayError (List IndexEntry)) :=
  .send (indexesStatement table) fun reply => .done (readAll IndexEntry.ofRow reply)

/-- Asks for a table; that there is none is an answer. -/
def table (name : String) : Exchange (Except GatewayError (Option LiveTable)) :=
  (fields name).bind fun answer =>
    match answer with
    -- The indexes of a table that is not there are not asked for.
    | .error (.noSuchTable _) => .done (.ok none)
    | .error e => .done (.error e)
    | .ok fields =>
      (indexes name).bind fun answer =>
        match answer with
        | .error e => .done (.error e)
        | .ok indexes => .done (.ok (some ⟨fields, indexes⟩))

end TableMapper.Introspection
