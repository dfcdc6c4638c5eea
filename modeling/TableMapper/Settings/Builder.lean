import TableMapper.Settings.Basic

/-!
# Building settings step by step

Each step gives the settings with one thing changed.
-/

namespace TableMapper.Settings

def withHost (s : Settings) (host : String) : Settings := { s with host := host }

def withPort (s : Settings) (port : UInt16) : Settings := { s with port := port }

def withCredentials (s : Settings) (user password : String) : Settings :=
  { s with user := some user, password := some password }

def withDatabase (s : Settings) (database : String) : Settings :=
  { s with database := some database }

def withCollation (s : Settings) (collation : String) : Settings :=
  { s with collationSetting := some collation }

def withCharset (s : Settings) (charset : String) : Settings :=
  { s with charsetSetting := some charset }

def withPool (s : Settings) (limit : UInt64) : Settings :=
  { s with pool := true, connectionLimit := limit }

/-- The settings with or without retries, and the milliseconds between them. -/
def withRetry (s : Settings) (enabled : Bool) (millis : UInt64) : Settings :=
  { s with retryOnError := enabled, retryIntervalMs := millis }

def withCreateDatabase (s : Settings) (enabled : Bool) : Settings :=
  { s with createDatabaseOnError := enabled }

/-- The settings with a storage engine for models that name none. -/
def withEngine (s : Settings) (engine : String) : Settings := { s with engine := some engine }

def withTimezone (s : Settings) (timezone : String) : Settings := { s with timezone := timezone }

end TableMapper.Settings
