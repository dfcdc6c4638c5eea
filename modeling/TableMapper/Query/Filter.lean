import TableMapper.Number.Numeral
import TableMapper.Query.Condition
import TableMapper.Query.Order

/-!
# Filters, update specifications and data

What callers ask for, and how it is read from documents.

- `Filter.ofJson` reads a query: `where`, `order`, `group`, `limit`, `skip` (or `offset`) and
  `attributes`; other entries do not count;
- `UpdateSpec.ofJson` reads `where` and `update`;
- `Row.ofJson` reads data.
-/

namespace TableMapper

/-! ## §1 Data -/

/-- The row of a document: an object's entries in their order. -/
def Row.ofJson : Json → Except Error Row
  | .object entries => .ok (entries.map fun entry => (entry.1, Value.ofJson entry.2))
  | j => .error (.invalidData (.notObject j))

/-! ## §2 Entries of a filter -/

namespace FilterEntry

/-- The texts of an entry: null gives none, a text gives one, and a list of texts gives them all. -/
def texts (key : String) : Json → Except Error (List String)
  | .null => .ok []
  | .string s => .ok [s]
  | .array items =>
    match items.mapM Json.asString? with
    -- One entry that is no text spoils the whole list.
    | some texts => .ok texts
    | none => .error (.invalidFilter (.notTexts key))
  | _ => .error (.invalidFilter (.notTexts key))

/-- The order terms of an entry that may be missing. -/
def terms (key : String) : Option Json → Except Error (List Sql.OrderTerm)
  | none => .ok []
  | some j =>
    match texts key j with
    | .error e => .error e
    | .ok texts =>
      match tryMap Sql.OrderTerm.readList texts with
      | .error e => .error e
      | .ok lists => .ok lists.flatten

/-- The number of a document: a word without sign, or a text that holds one between blanks. -/
def readCount? : Json → Option UInt64
  | .number n => n.toUInt64?
  | .string s => Numeral.readWord64? (Text.trim s.toList)
  | _ => none

/-- The number of an entry that may be missing or null. -/
def count (key : String) : Option Json → Except Error (Option UInt64)
  | none => .ok none
  | some .null => .ok none
  | some j =>
    match readCount? j with
    | some n => .ok (some n)
    | none => .error (.invalidFilter (.notCount key j))

/-- The tree of an entry that may be missing or null. -/
def tree : Option Json → Except Error (Option ConditionTree)
  | none => .ok none
  | some .null => .ok none
  | some j =>
    match ConditionTree.ofJson j with
    | .error e => .error e
    | .ok tree => .ok (some tree)

/-- The columns of an entry that may be missing or null. -/
def columns (key : String) : Option Json → Except Error (Option (List String))
  | none => .ok none
  | some .null => .ok none
  | some j =>
    match texts key j with
    | .error e => .error e
    | .ok texts => .ok (some texts)

end FilterEntry

/-! ## §3 Filters -/

/-- A query for rows. -/
structure Filter where
  /-- Which rows; an empty tree is refused when the query is compiled. -/
  condition : Option ConditionTree
  order : List Sql.OrderTerm
  group : List Sql.OrderTerm
  /-- The most rows to give; zero means no limit. -/
  limit : Option UInt64
  /-- The rows to leave out; only counts with a limit. -/
  skip : Option UInt64
  /-- The columns to give; all if absent. -/
  attributes : Option (List String)
  deriving Repr

namespace Filter

def everything : Filter := ⟨none, [], [], none, none, none⟩

/-- Whether the filter asks for certain columns only. -/
def isProjected (f : Filter) : Bool := f.attributes.any (!·.isEmpty)

def ofJson (j : Json) : Except Error Filter :=
  match j with
  | .object entries => do
    let entry (key : String) := Json.lookup? key entries
    let condition ← FilterEntry.tree (entry "where")
    let order ← FilterEntry.terms "order" (entry "order")
    let group ← FilterEntry.terms "group" (entry "group")
    let limit ← FilterEntry.count "limit" (entry "limit")
    let skip ← FilterEntry.count "skip" (entry "skip")
    -- `offset` only counts where there is no `skip`, but a faulty `skip` is a fault.
    let skip ← match skip with
      | some n => Except.ok (some n)
      | none => FilterEntry.count "offset" (entry "offset")
    let attributes ← FilterEntry.columns "attributes" (entry "attributes")
    .ok ⟨condition, order, group, limit, skip, attributes⟩
  | j => .error (.invalidFilter (.filterNotObject j))

end Filter

/-! ## §4 Update specifications -/

/-- One update: which rows, and which columns to set. -/
structure UpdateSpec where
  condition : Option ConditionTree
  assignments : Option Row
  deriving Repr

namespace UpdateSpec

/-- The row of an entry that may be missing or null. -/
def rowOf : Option Json → Except Error (Option Row)
  | none => .ok none
  | some .null => .ok none
  | some j =>
    match Row.ofJson j with
    | .error e => .error e
    | .ok row => .ok (some row)

/-- The update specification of a document; what is missing is found when it is compiled. -/
def ofJson (j : Json) : Except Error UpdateSpec := do
  let condition ← FilterEntry.tree (j.get? "where")
  let assignments ← rowOf (j.get? "update")
  .ok ⟨condition, assignments⟩

end UpdateSpec

end TableMapper
