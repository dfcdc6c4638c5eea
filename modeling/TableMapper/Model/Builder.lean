import TableMapper.Model.Basic

/-!
# Building models step by step

Each step takes a property, an index or a model and gives it with one thing changed or added;
properties and indexes are added at the end.
-/

namespace TableMapper

namespace Property

def notNull (p : Property) : Property := { p with nullable := some false }

def asNullable (p : Property) : Property := { p with nullable := some true }

def withDataType (p : Property) (name : String) : Property := { p with dataType := some name }

def withLimit (p : Property) (limit : UInt32) : Property := { p with limit := some limit }

def withDisplay (p : Property) (width : UInt32) : Property := { p with display := some width }

/-- The property with a precision, and with a scale or without one. -/
def withPrecision (p : Property) (precision : UInt32) (scale : Option UInt32) : Property :=
  { p with precision := some precision, scale := scale }

def asUnsigned (p : Property) : Property := { p with unsigned := true }

/-- The property with a character set and a collation, each perhaps absent. -/
def withCharset (p : Property) (charset collation : Option String) : Property :=
  { p with charset := charset, collation := collation }

def withIndex (p : Property) : Property := { p with index := some ⟨none, none⟩ }

/-- The property with an index of a kind and a method, each perhaps absent. -/
def withIndexSpec (p : Property) (kind : Option IndexKind)
    (method : Option IndexMethod) : Property :=
  { p with index := some ⟨kind, method⟩ }

end Property

namespace TableIndex

def withKind (index : TableIndex) (kind : IndexKind) : TableIndex :=
  { index with kind := some kind }

def unique (index : TableIndex) : TableIndex := index.withKind .unique

def withMethod (index : TableIndex) (method : IndexMethod) : TableIndex :=
  { index with method := some method }

end TableIndex

namespace Model

def withProperty (m : Model) (p : Property) : Model := { m with properties := m.properties ++ [p] }

def withProperties (m : Model) (ps : List Property) : Model :=
  { m with properties := m.properties ++ ps }

def withIndex (m : Model) (index : TableIndex) : Model := { m with indexes := m.indexes ++ [index] }

def withTable (m : Model) (table : String) : Model := { m with table := some table }

def withEngine (m : Model) (engine : String) : Model :=
  { m with settings := { m.settings with engine := some engine } }

def withIdMode (m : Model) (mode : IdMode) : Model :=
  { m with settings := { m.settings with idMode := mode } }

end Model

end TableMapper
