import TableMapper.Text.Search

/-!
# Properties of models

A model's property has a name, a type and facets that refine the column it is stored in.

- `PropertyType.isSerialized` says which properties are stored as JSON text;
- `Property.wantsIndex` says which properties have an index of their own.
-/

namespace TableMapper

/-! ## §1 Types -/

/-- The type of a property. -/
inductive PropertyType where
  | string
  | text
  | number
  | boolean
  | date
  | json
  | enumeration (values : List String)
  | point
  | array (inner : PropertyType)
  deriving DecidableEq, Repr, Inhabited

namespace PropertyType

/-- Whether values are stored as JSON text. -/
def isSerialized : PropertyType → Bool
  | .json => true
  | .array _ => true
  | _ => false

/-- Whether columns of this type may have a character set and a collation. -/
def acceptsCharset : PropertyType → Bool
  | .string => true
  | .text => true
  | .json => true
  | .enumeration _ => true
  | _ => false

/-- The name of a type for people. -/
def title : PropertyType → String
  | .string => "String"
  | .text => "Text"
  | .number => "Number"
  | .boolean => "Boolean"
  | .date => "Date"
  | .json => "JSON"
  | .enumeration _ => "Enum"
  | .point => "Point"
  | .array inner => "[" ++ inner.title ++ "]"

end PropertyType

/-! ## §2 Indexes -/

/-- The kind of an index. -/
inductive IndexKind where
  | unique
  | fulltext
  | spatial
  deriving DecidableEq, Repr

def IndexKind.keyword : IndexKind → String
  | .unique => "UNIQUE"
  | .fulltext => "FULLTEXT"
  | .spatial => "SPATIAL"

/-- How an index is stored. -/
inductive IndexMethod where
  | btree
  | hash
  deriving DecidableEq, Repr

def IndexMethod.keyword : IndexMethod → String
  | .btree => "BTREE"
  | .hash => "HASH"

structure PropertyIndex where
  kind : Option IndexKind
  method : Option IndexMethod
  deriving DecidableEq, Repr

/-! ## §3 Properties -/

/-- A property of a model, stored in the column of its name. -/
structure Property where
  name : String
  type : PropertyType
  /-- Whether the column takes NULL, if the model says. -/
  nullable : Option Bool
  /-- The storage type, if it is not the type's own. -/
  dataType : Option String
  /-- The length of texts or the width of integers. -/
  limit : Option UInt32
  /-- The length of texts if there is no limit, and the precision of times. -/
  length : Option UInt32
  /-- The width of integers, before the limit. -/
  display : Option UInt32
  precision : Option UInt32
  scale : Option UInt32
  unsigned : Bool
  charset : Option String
  collation : Option String
  index : Option PropertyIndex
  deriving DecidableEq, Repr

namespace Property

def ofType (name : String) (type : PropertyType) : Property :=
  ⟨name, type, none, none, none, none, none, none, none, false, none, none, none⟩

/-- Whether the column is declared not to take NULL. -/
def isNotNull (p : Property) : Bool := p.nullable == some false

/-- Whether the property has an index of its own; properties stored as JSON text never have. -/
def wantsIndex (p : Property) : Bool := p.index.isSome && !p.type.isSerialized

end Property

end TableMapper
