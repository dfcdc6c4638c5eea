import TableMapper.Json.Printer
import TableMapper.Text.Quoted
import TableMapper.Value.Basic

/-!
# Values in messages

The text by which a message shows a value: its kind with its contents in parentheses.
-/

namespace TableMapper

/-- The texts with `, ` between them. -/
def commaSeparated (parts : List String) : String := String.intercalate ", " parts

namespace Json

mutual

/-- The text of a document in messages. -/
def display : Json → String
  | .null => "Null"
  | .bool b => "Bool(" ++ (if b then "true" else "false") ++ ")"
  | .number n => "Number(" ++ String.ofList n.chars ++ ")"
  | .string s => "String(" ++ Text.quoted s ++ ")"
  | .array items => "Array [" ++ commaSeparated (displayItems items) ++ "]"
  | .object entries => "Object \x7b" ++ commaSeparated (displayEntries entries) ++ "\x7d"

def displayItems : List Json → List String
  | [] => []
  | item :: rest => display item :: displayItems rest

def displayEntries : List (String × Json) → List String
  | [] => []
  | (key, value) :: rest => (Text.quoted key ++ ": " ++ display value) :: displayEntries rest

end

end Json

namespace Value

mutual

/-- The text of a value in messages. -/
def display : Value → String
  | .null => "Null"
  | .bool b => "Bool(" ++ (if b then "true" else "false") ++ ")"
  | .int i => "Int(" ++ intText i.toInt ++ ")"
  | .float x => "Float(" ++ NumberFormat.display.render x ++ ")"
  | .string s => "String(" ++ Text.quoted s ++ ")"
  | .date t => "Date(" ++ t.displayText ++ ")"
  | .json j => "Json(" ++ j.display ++ ")"
  | .array items => "Array([" ++ commaSeparated (displayItems items) ++ "])"

def displayItems : List Value → List String
  | [] => []
  | item :: rest => display item :: displayItems rest

end

end Value

end TableMapper
