/-!
# Quoting

Text reaches a statement only between quotes.

- `Sql.stringChars` writes a string literal: backslashes before quotes and backslashes, and short
  escapes for the control characters that a client may not send raw;
- `Sql.identifierChars` writes a name between backticks, backticks inside doubled.  A point in the
  name separates the parts of a qualified name, each between its own backticks.
-/

namespace TableMapper.Sql

/-! ## §1 String literals -/

/-- A character inside a string literal. -/
def stringChar (c : Char) : List Char :=
  if c = '\x00' then ['\\', '0']
  else if c = '\x08' then ['\\', 'b']
  else if c = '\t' then ['\\', 't']
  else if c = '\n' then ['\\', 'n']
  else if c = '\r' then ['\\', 'r']
  else if c = '\x1a' then ['\\', 'Z']
  else if c = '"' then ['\\', '"']
  else if c = '\'' then ['\\', '\'']
  else if c = '\\' then ['\\', '\\']
  else [c]

/-- The string literal of a text. -/
def stringChars (s : List Char) : List Char :=
  '\'' :: s.flatMap stringChar ++ ['\'']

def quoteString (s : String) : String := String.ofList (stringChars s.toList)

/-! ## §2 Names -/

/-- A character inside a quoted name. -/
def identifierChar (c : Char) : List Char :=
  if c = '\x60' then ['\x60', '\x60']
  else if c = '.' then ['\x60', '.', '\x60']
  else [c]

/-- The quoted form of a name. -/
def identifierChars (name : List Char) : List Char :=
  '\x60' :: name.flatMap identifierChar ++ ['\x60']

def quoteName (name : String) : String := String.ofList (identifierChars name.toList)

end TableMapper.Sql
