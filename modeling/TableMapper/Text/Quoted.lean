import TableMapper.Text.Printable

/-!
# Quoted text in messages

Messages show a text between double quotes, with a backslash before quotes and backslashes, short
escapes for NUL, tab, line feed and carriage return, and `\u` with the code point in braces for
every other character that cannot be shown by itself.
-/

namespace TableMapper.Text

/-- The hexadecimal digits of a number, in lower case. -/
def hexChars (n : Nat) : List Char := Nat.toDigits 16 n

/-- A character inside quoted text. -/
def quotedChar (c : Char) : List Char :=
  if c = '\x00' then ['\\', '0']
  else if c = '\t' then ['\\', 't']
  else if c = '\r' then ['\\', 'r']
  else if c = '\n' then ['\\', 'n']
  else if c = '"' then ['\\', '"']
  else if c = '\\' then ['\\', '\\']
  else if isShowable c then [c]
  else '\\' :: 'u' :: '\x7b' :: hexChars c.toNat ++ ['\x7d']

/-- A text between quotes. -/
def quoted (s : String) : String :=
  String.ofList ('"' :: s.toList.flatMap quotedChar ++ ['"'])

end TableMapper.Text
