import TableMapper.Gateway.Basic
import TableMapper.Settings.Basic
import TableMapper.Sql.Quoting
import TableMapper.Text.Blank

/-!
# Sessions with the server

What is sent when a connection begins, when the database has to be made, and how the server's errors
and statements are told apart.
-/

namespace TableMapper.Session

/-! ## §1 Statements -/

/-- The part of a statement that names character set and collation, with the word before the
first. -/
def charsetAndCollation (s : Settings) : String := s.charset ++ " COLLATE " ++ s.collation

/-- The time zone to set, unless the server's is kept; `Z` means UTC. -/
def timeZone? (s : Settings) : Option String :=
  let zone := String.ofList (Text.trim s.timezone.toList)
  -- Nothing is set where the server's own zone is to be kept.
  if zone = "" ∨ Text.sameLetters zone "local" then none
  else if Text.sameLetters zone "z" then some "+00:00"
  else some zone

/-- The statements that are sent on every new connection. -/
def opening (s : Settings) : List String :=
  ("SET NAMES " ++ charsetAndCollation s) ::
    ((timeZone? s).map fun zone => "SET time_zone = " ++ Sql.quoteString zone).toList

/-- The statement that makes a database. -/
def createDatabase (database : String) (s : Settings) : String :=
  "CREATE DATABASE IF NOT EXISTS " ++ Sql.quoteName database ++ " CHARACTER SET " ++
    charsetAndCollation s

/-- The first word of a statement, in upper case; blanks and opening parentheses do not belong to
words. -/
def keyword (sql : String) : List Char :=
  let between (c : Char) : Bool := Text.isBlank c || c = '('
  Text.upper ((sql.toList.dropWhile between).takeWhile fun c => !between c)

/-- Whether a statement gives rows, by its first word. -/
def returnsRows (sql : String) : Bool :=
  String.ofList (keyword sql) ∈ ["SELECT", "SHOW", "DESCRIBE", "DESC", "EXPLAIN", "WITH"]

/-! ## §2 Errors -/

/-- The server's number for an unknown database. -/
def unknownDatabase : UInt16 := 1049

/-- The server's number for an unknown table. -/
def unknownTable : UInt16 := 1146

/-- Whether an error of the server means that the database is to be made. -/
def shouldCreateDatabase (code : UInt16) (s : Settings) : Bool :=
  code == unknownDatabase && s.createDatabaseOnError && s.database.isSome

/-- The gateway's error for an error of the server. -/
def errorOf (code : UInt16) (text : String) : GatewayError :=
  if code = unknownTable then .noSuchTable text else .server code text

/-! ## §3 States -/

/-- The state of a connection. -/
inductive ConnectionState where
  | disconnected
  | connecting
  | ready
  | closed
  deriving DecidableEq, Repr

def ConnectionState.name : ConnectionState → String
  | .disconnected => "Disconnected"
  | .connecting => "Connecting"
  | .ready => "Ready"
  | .closed => "Closed"

def initialState : ConnectionState := .disconnected

end TableMapper.Session
