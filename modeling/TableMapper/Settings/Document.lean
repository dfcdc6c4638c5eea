import TableMapper.Json.Fields
import TableMapper.Json.Printer
import TableMapper.Settings.Basic

/-!
# Settings as documents

Settings are written as an object with all their fields in order.  They are read from an object in
any order, fields that are missing taking their defaults, or from an array of the fields in order.
In an object, entries of unknown names do not count and may hold whatever the grammar allows, and
the user may also be called `username`; but no field may be given twice.
-/

namespace TableMapper.Settings

open DocumentView

/-! ## §1 Writing -/

def fieldNames : List String :=
  ["host", "port", "user", "password", "database", "charset", "collation", "pool",
    "connectionLimit", "retryOnError", "retryIntervalMs", "createDatabaseOnError", "silentOnError",
    "engine", "timezone"]

def toJson (s : Settings) : Json :=
  .object [
    ("host", .string s.host),
    ("port", .ofNat s.port.toNat),
    ("user", .ofOption s.user),
    ("password", .ofOption s.password),
    ("database", .ofOption s.database),
    ("charset", .ofOption s.charsetSetting),
    ("collation", .ofOption s.collationSetting),
    ("pool", .bool s.pool),
    ("connectionLimit", .ofNat s.connectionLimit.toNat),
    ("retryOnError", .bool s.retryOnError),
    ("retryIntervalMs", .ofNat s.retryIntervalMs.toNat),
    ("createDatabaseOnError", .bool s.createDatabaseOnError),
    ("silentOnError", .bool s.silentOnError),
    ("engine", .ofOption s.engine),
    ("timezone", .string s.timezone)]

def text (s : Settings) : String := s.toJson.text

/-! ## §2 Reading -/

/-- The field that a key names. -/
def fieldOfKey (key : String) : String := if key = "username" then "user" else key

def ofDocument? {δ : Type} [DocumentView δ] (d : δ) : Option Settings := do
  match ← fields? fieldOfKey fieldNames d with
  | [host, port, user, password, database, charset, collation, pool, connectionLimit, retryOnError,
      retryIntervalMs, createDatabaseOnError, silentOnError, engine, timezone] =>
    let host ← withDefault (plain Json.asString?) default.host host
    let port ← withDefault (plain Json.word16?) default.port port
    let user ← withDefault (nullable (plain Json.asString?)) default.user user
    let password ← withDefault (nullable (plain Json.asString?)) default.password password
    let database ← withDefault (nullable (plain Json.asString?)) default.database database
    let charset ← withDefault (nullable (plain Json.asString?)) default.charsetSetting charset
    let collation ← withDefault (nullable (plain Json.asString?)) default.collationSetting collation
    let pool ← withDefault (plain Json.bool?) default.pool pool
    let connectionLimit ← withDefault (plain Json.word64?) default.connectionLimit connectionLimit
    let retryOnError ← withDefault (plain Json.bool?) default.retryOnError retryOnError
    let retryIntervalMs ← withDefault (plain Json.word64?) default.retryIntervalMs retryIntervalMs
    let createDatabaseOnError ←
      withDefault (plain Json.bool?) default.createDatabaseOnError createDatabaseOnError
    let silentOnError ← withDefault (plain Json.bool?) default.silentOnError silentOnError
    let engine ← withDefault (nullable (plain Json.asString?)) default.engine engine
    let timezone ← withDefault (plain Json.asString?) default.timezone timezone
    some ⟨host, port, user, password, database, charset, collation, pool, connectionLimit,
      retryOnError, retryIntervalMs, createDatabaseOnError, silentOnError, engine, timezone⟩
  | _ => none

/-- The settings of a text. -/
def read? (s : String) : Option Settings :=
  (JsonSyntax.read? s).bind fun tree => ofDocument? (⟨maxDepth, tree⟩ : JsonSyntax.Node)

end TableMapper.Settings
