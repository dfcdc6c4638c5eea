import TableMapper.Error
import TableMapper.Sql.Statement
import TableMapper.Text.Blank
import TableMapper.Text.Search

/-!
# Order terms as text

A term is a column and perhaps a direction, separated by blanks; a list of terms has commas between
them, and blank terms do not count.
-/

namespace TableMapper

/-- The direction of a word, in any letter case. -/
def readDirection (word : String) : Except Error Sql.Direction :=
  if Text.sameLetters word "asc" then .ok .ascending
  else if Text.sameLetters word "desc" then .ok .descending
  else .error (.invalidFilter (.unknownDirection word))

namespace Sql.OrderTerm

/-- The term of a text.  A bad direction is reported before a word too many. -/
def read (s : String) : Except Error OrderTerm :=
  match Text.words s.toList with
  | [] => .error (.invalidFilter .emptyTerm)
  | [column] => .ok ⟨String.ofList column, none⟩
  | column :: word :: rest =>
    match readDirection (String.ofList word) with
    | .error e => .error e
    | .ok direction =>
      match rest with
      | [] => .ok ⟨String.ofList column, some direction⟩
      | extra :: _ => .error (.invalidFilter (.extraWord (String.ofList extra) s))

def readList (s : String) : Except Error (List OrderTerm) :=
  let terms := ((Text.splitOn ',' s.toList).map Text.trim).filter (!·.isEmpty)
  tryMap read (terms.map String.ofList)

def text (term : OrderTerm) : String :=
  match term.direction with
  | none => term.column
  | some direction => term.column ++ " " ++ direction.keyword

end Sql.OrderTerm

end TableMapper
