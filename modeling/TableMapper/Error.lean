import TableMapper.Value.Display

/-!
# Errors of models, conditions and statements

Whatever is wrong with a model, a condition or data is found before any statement is sent.  An error
is its cause; `Error.message` is the only place that puts causes into words.
-/

namespace TableMapper

/-! ## §1 Causes -/

/-- What is wrong with a filter, a condition or an order term. -/
inductive FilterFault where
  | filterNotObject (found : Json)
  | whereNotObject (found : Json)
  | orNotArray
  | severalOperators (field : String) (operators : List String)
  | betweenNotPair (field : String)
  | likeNotText (field : String)
  | unknownOperator (operator field : String)
  /-- The entry is neither a text nor a list of texts. -/
  | notTexts (key : String)
  /-- The entry is not a natural number that fits a word. -/
  | notCount (key : String) (found : Json)
  | unknownDirection (word : String)
  | emptyTerm
  /-- The order term goes on after its direction. -/
  | extraWord (word term : String)
  | emptyOr
  | emptyDisjunct
  /-- A disjunction stands where a literal is wanted. -/
  | orAsOperand
  /-- A list stands where a single value is wanted. -/
  | listForSingle (key : String)
  /-- The condition tree of a query is there but empty. -/
  | emptyWhere
  deriving Repr

/-- Why a value does not fit its property. -/
inductive ValueFault where
  /-- The double is infinite or a NaN. -/
  | notFinite (x : Binary64)
  | textNotNumber (s : String)
  /-- The value is of a kind that is no number. -/
  | notNumber (v : Value)
  | textNotDate (s : String)
  /-- The milliseconds are outside the years there are. -/
  | millisOutOfRange (millis : Int64)
  /-- The value is of a kind that is no date. -/
  | notDate (v : Value)
  deriving Repr

/-- What is wrong with a model or with the description of a live table. -/
inductive SchemaFault where
  | emptyModelName
  | emptyPropertyName (model : String)
  | repeatedProperty (model property : String)
  | indexWithoutColumns (index model : String)
  /-- An index has the name of the primary key. -/
  | reservedIndexName (index : String)
  | repeatedIndex (model index : String)
  | positionMissing
  /-- An index row has a position that no index has. -/
  | positionOutOfRange (index column : String) (position most : Nat)
  /-- A row of a description lacks a text. -/
  | textMissing (column : String)
  deriving DecidableEq, Repr

/-- What is wrong with data. -/
inductive DataFault where
  | notObject (found : Json)
  /-- No column of the data belongs to the model. -/
  | nothingToUpsert (table : String)
  deriving Repr

/-- An error found before any statement is sent. -/
inductive Error where
  | invalidFilter (fault : FilterFault)
  | invalidValue (field : String) (fault : ValueFault)
  | invalidSchema (fault : SchemaFault)
  | invalidData (fault : DataFault)
  | missingWhereOrUpdate
  deriving Repr

/-! ## §2 Words -/

def FilterFault.message : FilterFault → String
  | .filterNotObject found => "filter must be an object, got " ++ found.text
  | .whereNotObject found => "where must be an object, got " ++ found.text
  | .orNotArray => "`or` expects an array of conditions"
  | .severalOperators field operators =>
    "condition on `" ++ field ++ "` has " ++ natText operators.length ++ " operators (" ++
      commaSeparated operators ++ "); exactly one is allowed"
  | .betweenNotPair field => "`between` on `" ++ field ++ "` expects a two-element array"
  | .likeNotText field => "`like` on `" ++ field ++ "` expects a string pattern"
  | .unknownOperator operator field => "unknown operator `" ++ operator ++ "` on `" ++ field ++ "`"
  | .notTexts key => "`" ++ key ++ "` expects a string or list of strings"
  | .notCount key found =>
    "`" ++ key ++ "` must be a non-negative integer, got " ++ found.text
  | .unknownDirection word => "invalid sort direction `" ++ word ++ "`, expected ASC or DESC"
  | .emptyTerm => "empty order term"
  | .extraWord word term => "unexpected `" ++ word ++ "` in order term `" ++ term ++ "`"
  | .emptyOr => "`or` needs at least one condition"
  | .emptyDisjunct => "`or` contains an empty condition"
  | .orAsOperand => "`or` cannot be used as an operand"
  | .listForSingle key => "`" ++ key ++ "` expects a single value, got a list"
  | .emptyWhere => "Where field is empty"

def ValueFault.message : ValueFault → String
  | .notFinite x => NumberFormat.plain.render x ++ " is not a finite number"
  | .textNotNumber s => "`" ++ s ++ "` is not a number"
  | .notNumber v => "cannot coerce " ++ v.display ++ " to a number"
  | .textNotDate s => "`" ++ s ++ "` is not a date"
  | .millisOutOfRange millis => intText millis.toInt ++ " is out of range"
  | .notDate v => "cannot coerce " ++ v.display ++ " to a date"

def SchemaFault.message : SchemaFault → String
  | .emptyModelName => "model name is empty"
  | .emptyPropertyName model => "model `" ++ model ++ "` has a property with an empty name"
  | .repeatedProperty model property =>
    "model `" ++ model ++ "` declares property `" ++ property ++ "` twice"
  | .indexWithoutColumns index model =>
    "index `" ++ index ++ "` on `" ++ model ++ "` has no columns"
  | .reservedIndexName index => "index name `" ++ index ++ "` is reserved"
  | .repeatedIndex model index => "model `" ++ model ++ "` declares index `" ++ index ++ "` twice"
  | .positionMissing => "index row has no usable `Seq_in_index`"
  | .positionOutOfRange index column position most =>
    "index `" ++ index ++ "` lists `" ++ column ++ "` at position " ++ natText position ++
      ", expected 1..=" ++ natText most
  | .textMissing column => "introspection row has no text `" ++ column ++ "` column"

def DataFault.message : DataFault → String
  | .notObject found => "expected an object of fields, got " ++ found.text
  | .nothingToUpsert table => "nothing to upsert into " ++ table

def Error.message : Error → String
  | .invalidFilter fault => "invalid filter: " ++ fault.message
  | .invalidValue field fault => "invalid value for `" ++ field ++ "`: " ++ fault.message
  | .invalidSchema fault => "invalid schema: " ++ fault.message
  | .invalidData fault => "invalid data: " ++ fault.message
  | .missingWhereOrUpdate => "Where or Update fields are missing"

/-- The results of `f` on every element, or the first error. -/
def tryMap {α β ε : Type} (f : α → Except ε β) : List α → Except ε (List β)
  | [] => .ok []
  | x :: rest =>
    match f x with
    | .error e => .error e
    | .ok y =>
      match tryMap f rest with
      | .error e => .error e
      | .ok ys => .ok (y :: ys)

end TableMapper
