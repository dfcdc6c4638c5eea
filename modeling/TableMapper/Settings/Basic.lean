import TableMapper.Text.Search

/-!
# Settings

How the server is reached and what holds for all its tables.

- `Settings.charset` and `Settings.collation` are the effective ones: what is not set follows from
  the other or from the defaults;
- `Settings.poolSize` is the number of connections to hold.
-/

namespace TableMapper

/-- The settings of a connection and its tables. -/
structure Settings where
  host : String
  port : UInt16
  user : Option String
  password : Option String
  database : Option String
  /-- The character set; follows from the collation if absent. -/
  charsetSetting : Option String
  /-- The collation; follows from the character set if absent. -/
  collationSetting : Option String
  pool : Bool
  connectionLimit : UInt64
  retryOnError : Bool
  /-- The milliseconds between two tries. -/
  retryIntervalMs : UInt64
  createDatabaseOnError : Bool
  silentOnError : Bool
  /-- The storage engine of models that name none. -/
  engine : Option String
  /-- The time zone of a session; `local` keeps the server's. -/
  timezone : String
  deriving DecidableEq, Repr

namespace Settings

def defaultCollation : String := "utf8mb4_general_ci"

def defaultCharset : String := "utf8mb4"

def default : Settings where
  host := "localhost"
  port := 3306
  user := none
  password := none
  database := none
  charsetSetting := none
  collationSetting := none
  pool := false
  connectionLimit := 10
  retryOnError := true
  retryIntervalMs := 6000
  createDatabaseOnError := true
  silentOnError := false
  engine := none
  timezone := "local"

def ofDatabase (database : String) : Settings := { default with database := some database }

/-- The effective collation: the one set, else the general one of the character set. -/
def collation (s : Settings) : String :=
  match s.collationSetting, s.charsetSetting with
  -- What is set stands as it is, even where the two do not agree.
  | some collation, _ => collation
  | none, some charset => charset ++ "_general_ci"
  | none, none => defaultCollation

/-- The effective character set: the one set, else the beginning of the collation up to its first
underscore. -/
def charset (s : Settings) : String :=
  match s.charsetSetting, s.collationSetting with
  | some charset, _ => charset
  | none, some collation =>
    let stem := collation.toList.takeWhile (· != '_')
    if stem.isEmpty then defaultCharset else String.ofList stem
  | none, none => defaultCharset

/-- The number of connections to hold, at least one. -/
def poolSize (s : Settings) : UInt64 :=
  if s.pool then (if s.connectionLimit = 0 then 1 else s.connectionLimit) else 1

end Settings

end TableMapper
