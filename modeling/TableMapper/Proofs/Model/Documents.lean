import TableMapper.Model.Document
import TableMapper.Proofs.Json.Records

/-!
# Models are read back from their texts

What may be written for models, properties and indexes, and that they are read from it
(`Model.faithful`, `Property.faithful`).  Each record lists its fields beside the document that is
written for it; a name, a default or a type that the writer and the reader do not share would show
in one line here.
-/

namespace TableMapper

open DocumentView

/-! ## §1 Values of fields -/

/-- A text or its absence is decoded again, -/
theorem Json.nullable_ofOption (text : Option String) :
    nullable Json.asString? (Json.ofOption text) = some text := by
  cases text <;> rfl

theorem Json.natural?_ofNat {n : Nat} (fits : n < UInt64.size) :
    (Json.ofNat n).natural? = some n := by
  show some (UInt64.ofNat n).toNat = some n
  rw [UInt64.toNat_ofNat_of_lt' fits]

/-- and so is a word of 32 bits. -/
theorem Json.word32?_ofNat (w : UInt32) : (Json.ofNat w.toNat).word32? = some w := by
  rw [Json.word32?, Json.natural?_ofNat (w.toNat_lt.trans (by decide)), Option.bind_some,
    Word.uint32?_eq_some_iff]

/-- A word or its absence holds no records. -/
theorem Json.plain_ofWord32? (n : Option UInt32) : (Json.ofWord32? n).Plain := by
  cases n with
  | none => exact plain_null
  | some n => exact plain_ofNat n.toNat

theorem Json.nullable_ofWord32? (n : Option UInt32) :
    nullable Json.word32? (Json.ofWord32? n) = some n := by
  cases n with
  | none => rfl
  | some n =>
    show (Json.ofNat n.toNat).word32?.map some = some (some n)
    rw [Json.word32?_ofNat, Option.map_some]

/-- The name of a kind of index stands for the kind, -/
theorem IndexKind.nullable_name (kind : Option IndexKind) :
    nullable IndexKind.ofJson? (.ofOption (kind.map IndexKind.name)) = some kind := by
  rcases kind with _ | _ | _ | _ <;> rfl

/-- and the name of a method for the method. -/
theorem IndexMethod.nullable_name (method : Option IndexMethod) :
    nullable IndexMethod.ofJson? (.ofOption (method.map IndexMethod.name)) = some method := by
  rcases method with _ | _ | _ <;> rfl

/-- The name of a mode of ids stands for the mode. -/
theorem IdMode.ofJson?_name (mode : IdMode) : IdMode.ofJson? (.string mode.name) = some mode := by
  cases mode <;> rfl

namespace PropertyType

/-- The document of a type holds no records. -/
theorem plain_toJson (type : PropertyType) : type.toJson.Plain := by
  induction type with
  | enumeration values => exact Json.plain_case "enum" (Json.plain_strings values)
  | array inner ih => exact Json.plain_case "array" ih
  | _ => exact Json.plain_string _

/-- Texts are decoded from the strings that they are written as. -/
theorem mapM_asString? (texts : List String) :
    (texts.map Json.string).mapM Json.asString? = some texts := by
  induction texts with
  | nil => rfl
  | cons s texts ih =>
    rw [List.map_cons, List.mapM_cons, ih]
    rfl

/-- A type is decoded from its document. -/
theorem ofJson?_toJson (type : PropertyType) : ofJson? type.toJson = some type := by
  induction type with
  | enumeration values =>
    show (((values.map Json.string).mapM Json.asString?).map enumeration : Option PropertyType) = _
    rw [mapM_asString?, Option.map_some]
  | array inner ih =>
    show ((ofJson? inner.toJson).map array : Option PropertyType) = _
    rw [ih, Option.map_some]
  | _ => rfl

end PropertyType

/-- A text. -/
theorem faithful_text (s : String) :
    Faithful (plain Json.asString?) (.string s) (Means (.string s)) s :=
  faithful_plain (Json.plain_string s) rfl

/-- A text that may be absent. -/
theorem faithful_optionalText (text : Option String) :
    Faithful (nullable (plain Json.asString?)) (.ofOption text) (Means (.ofOption text)) text :=
  faithful_nullable (Json.plain_ofOption text) (Json.nullable_ofOption text)

/-- A word that may be absent. -/
theorem faithful_optionalWord (n : Option UInt32) :
    Faithful (nullable (plain Json.word32?)) (.ofWord32? n) (Means (.ofWord32? n)) n :=
  faithful_nullable (Json.plain_ofWord32? n) (Json.nullable_ofWord32? n)

theorem faithful_bool (b : Bool) : Faithful (plain Json.bool?) (.bool b) (Means (.bool b)) b :=
  faithful_plain (Json.plain_bool b) rfl

/-- A truth value that may be absent. -/
theorem faithful_optionalBool (b : Option Bool) :
    Faithful (nullable (plain Json.bool?)) (b.elim .null .bool) (Means (b.elim .null .bool)) b := by
  cases b with
  | none => exact faithful_nullable Json.plain_null rfl
  | some b => exact faithful_nullable (Json.plain_bool b) rfl

/-- The kind of an index. -/
theorem faithful_kind (kind : Option IndexKind) :
    Faithful (nullable (plain IndexKind.ofJson?)) (.ofOption (kind.map IndexKind.name))
      (Means (.ofOption (kind.map IndexKind.name))) kind :=
  faithful_nullable (Json.plain_ofOption _) (IndexKind.nullable_name kind)

/-- The method of an index. -/
theorem faithful_method (method : Option IndexMethod) :
    Faithful (nullable (plain IndexMethod.ofJson?)) (.ofOption (method.map IndexMethod.name))
      (Means (.ofOption (method.map IndexMethod.name))) method :=
  faithful_nullable (Json.plain_ofOption _) (IndexMethod.nullable_name method)

/-! ## §2 Properties -/

namespace PropertyIndex

def fields (index : PropertyIndex) : List Field := [
  .plain "kind" (.ofOption (index.kind.map IndexKind.name)) (index.kind = none),
  .plain "type" (.ofOption (index.method.map IndexMethod.name)) (index.method = none)]

/-- The trees that stand for the index of a property. -/
def Written (index : PropertyIndex) : JsonSyntax → Prop := Record id index.fields

/-- The index of a property is written and read faithfully. -/
theorem faithful (index : PropertyIndex) :
    Faithful ofDocument? index.toJson index.Written index := by
  have kind := faithful_kind index.kind
  have method := faithful_method index.method
  show Faithful ofDocument? (printedRecord index.fields) (Record id index.fields) index
  refine faithful_record (show fieldNames.Nodup by decide) (fun _ _ => rfl) ?_ fun d room look
    found each => ?_
  · simp only [fields, List.forall_mem_cons]
    exact ⟨kind.sound, method.sound, nofun⟩
  -- And the reader finds the fields in the order it asks for them.
  · simp only [fields, List.forall_mem_cons] at each
    obtain ⟨foundKind, foundMethod, -⟩ := each
    refine bind_eq_of_eq_some found ?_
    refine bind_eq_of_eq_some (foundKind.withDefault_eq kind id) ?_
    exact bind_eq_of_eq_some (foundMethod.withDefault_eq method id) rfl

end PropertyIndex

namespace Property

def fields (p : Property) : List Field := [
  .plain "name" (.string p.name) False,
  .plain "type" p.type.toJson False,
  .plain "nullable" (p.nullable.elim .null .bool) (p.nullable = none),
  .plain "data_type" (.ofOption p.dataType) (p.dataType = none),
  .plain "limit" (.ofWord32? p.limit) (p.limit = none),
  .plain "length" (.ofWord32? p.length) (p.length = none),
  .plain "display" (.ofWord32? p.display) (p.display = none),
  .plain "precision" (.ofWord32? p.precision) (p.precision = none),
  .plain "scale" (.ofWord32? p.scale) (p.scale = none),
  .plain "unsigned" (.bool p.unsigned) (p.unsigned = false),
  .plain "charset" (.ofOption p.charset) (p.charset = none),
  .plain "collation" (.ofOption p.collation) (p.collation = none),
  ⟨"index", p.index.elim .null PropertyIndex.toJson, MeansOption PropertyIndex.Written p.index,
  p.index = none⟩]

/-- The trees that stand for a property. -/
def Written (p : Property) : JsonSyntax → Prop := Record id p.fields

/-- A property is written and read faithfully. -/
theorem faithful (p : Property) : Faithful ofDocument? p.toJson p.Written p := by
  -- Each value with its reader, then each field with what was found for it, in the order of the
  -- reader.
  have name := faithful_text p.name
  have type := faithful_plain p.type.plain_toJson p.type.ofJson?_toJson
  have nullable := faithful_optionalBool p.nullable
  have dataType := faithful_optionalText p.dataType
  have limit := faithful_optionalWord p.limit
  have length := faithful_optionalWord p.length
  have display := faithful_optionalWord p.display
  have precision := faithful_optionalWord p.precision
  have scale := faithful_optionalWord p.scale
  have unsigned := faithful_bool p.unsigned
  have charset := faithful_optionalText p.charset
  have collation := faithful_optionalText p.collation
  have index := faithful_option (fun i (_ : i ∈ p.index) => i.faithful) fun _ _ written =>
      written.caseDocument?_ne_null
  show Faithful ofDocument? (printedRecord p.fields) (Record id p.fields) p
  refine faithful_record (show fieldNames.Nodup by decide) (fun _ _ => rfl) ?_ fun d room look
    found each => ?_
  · simp only [fields, List.forall_mem_cons]
    exact ⟨name.sound, type.sound, nullable.sound, dataType.sound, limit.sound, length.sound,
      display.sound, precision.sound, scale.sound, unsigned.sound, charset.sound, collation.sound,
      index.sound, nofun⟩
  · simp only [fields, List.forall_mem_cons] at each
    obtain ⟨name', type', nullable', dataType', limit', length', display', precision', scale',
        unsigned', charset',
      collation', index', -⟩ := each
    refine bind_eq_of_eq_some found ?_
    refine bind_eq_of_eq_some (name'.required_eq name id) ?_
    refine bind_eq_of_eq_some (type'.required_eq type id) ?_
    refine bind_eq_of_eq_some (nullable'.withDefault_eq nullable id) ?_
    refine bind_eq_of_eq_some (dataType'.withDefault_eq dataType id) ?_
    refine bind_eq_of_eq_some (limit'.withDefault_eq limit id) ?_
    refine bind_eq_of_eq_some (length'.withDefault_eq length id) ?_
    refine bind_eq_of_eq_some (display'.withDefault_eq display id) ?_
    refine bind_eq_of_eq_some (precision'.withDefault_eq precision id) ?_
    refine bind_eq_of_eq_some (scale'.withDefault_eq scale id) ?_
    refine bind_eq_of_eq_some (unsigned'.withDefault_eq unsigned id) ?_
    refine bind_eq_of_eq_some (charset'.withDefault_eq charset id) ?_
    refine bind_eq_of_eq_some (collation'.withDefault_eq collation id) ?_
    exact bind_eq_of_eq_some (index'.withDefault_eq index id) rfl

end Property

/-! ## §3 Models -/

namespace TableIndex

def fields (index : TableIndex) : List Field := [
  .plain "name" (.string index.name) False,
  ⟨"columns", .array (index.columns.map .string),
  MeansList (fun column => Means (.string column)) index.columns,
    False⟩,
  .plain "kind" (.ofOption (index.kind.map IndexKind.name)) (index.kind = none),
  .plain "type" (.ofOption (index.method.map IndexMethod.name)) (index.method = none)]

/-- The trees that stand for an index over several columns. -/
def Written (index : TableIndex) : JsonSyntax → Prop := Record id index.fields

/-- An index over several columns is written and read faithfully. -/
theorem faithful (index : TableIndex) : Faithful ofDocument? index.toJson index.Written index := by
  have name := faithful_text index.name
  have columns := faithful_list fun column (_ : column ∈ index.columns) => faithful_text column
  have kind := faithful_kind index.kind
  have method := faithful_method index.method
  show Faithful ofDocument? (printedRecord index.fields) (Record id index.fields) index
  refine faithful_record (show fieldNames.Nodup by decide) (fun _ _ => rfl) ?_ fun d room look
    found each => ?_
  · simp only [fields, List.forall_mem_cons]
    exact ⟨name.sound, columns.sound, kind.sound, method.sound, nofun⟩
  · simp only [fields, List.forall_mem_cons] at each
    obtain ⟨name', columns', kind', method', -⟩ := each
    refine bind_eq_of_eq_some found ?_
    refine bind_eq_of_eq_some (name'.required_eq name id) ?_
    refine bind_eq_of_eq_some (columns'.required_eq columns id) ?_
    refine bind_eq_of_eq_some (kind'.withDefault_eq kind id) ?_
    exact bind_eq_of_eq_some (method'.withDefault_eq method id) rfl

end TableIndex

namespace ModelSettings

def fields (settings : ModelSettings) : List Field := [
  .plain "engine" (.ofOption settings.engine) (settings.engine = none),
  .plain "uuid" (.string settings.idMode.name) (settings.idMode = .server)]

/-- The trees that stand for the settings of a table. -/
def Written (settings : ModelSettings) : JsonSyntax → Prop := Record id settings.fields

/-- The settings of a model are written and read faithfully. -/
theorem faithful (settings : ModelSettings) :
    Faithful ofDocument? settings.toJson settings.Written settings := by
  have engine := faithful_optionalText settings.engine
  have idMode := faithful_plain (Json.plain_string _) (IdMode.ofJson?_name settings.idMode)
  show Faithful ofDocument? (printedRecord settings.fields) (Record id settings.fields) settings
  refine faithful_record (show fieldNames.Nodup by decide) (fun _ _ => rfl) ?_ fun d room look
    found each => ?_
  · simp only [fields, List.forall_mem_cons]
    exact ⟨engine.sound, idMode.sound, nofun⟩
  · simp only [fields, List.forall_mem_cons] at each
    obtain ⟨engine', idMode', -⟩ := each
    refine bind_eq_of_eq_some found ?_
    refine bind_eq_of_eq_some (engine'.withDefault_eq engine id) ?_
    exact bind_eq_of_eq_some (idMode'.withDefault_eq idMode id) rfl

end ModelSettings

namespace Model

def fields (m : Model) : List Field := [
  .plain "name" (.string m.name) False,
  .plain "table" (.ofOption m.table) (m.table = none),
  ⟨"properties", .array (m.properties.map Property.toJson), MeansList Property.Written m.properties,
    m.properties = []⟩,
  ⟨"indexes", .array (m.indexes.map TableIndex.toJson), MeansList TableIndex.Written m.indexes,
  m.indexes = []⟩,
  ⟨"settings", m.settings.toJson, m.settings.Written, m.settings = ⟨none, .server⟩⟩]

/-- The trees that stand for a model. -/
def Written (m : Model) : JsonSyntax → Prop := Record id m.fields

/-- A model is written and read faithfully, as its properties, indexes and settings are. -/
theorem faithful (m : Model) : Faithful ofDocument? m.toJson m.Written m := by
  have name := faithful_text m.name
  have table := faithful_optionalText m.table
  have properties := faithful_list fun p (_ : p ∈ m.properties) => p.faithful
  have indexes := faithful_list fun index (_ : index ∈ m.indexes) => index.faithful
  have settings := m.settings.faithful
  show Faithful ofDocument? (printedRecord m.fields) (Record id m.fields) m
  refine faithful_record (show fieldNames.Nodup by decide) (fun _ _ => rfl) ?_ fun d room look
    found each => ?_
  · simp only [fields, List.forall_mem_cons]
    exact ⟨name.sound, table.sound, properties.sound, indexes.sound, settings.sound, nofun⟩
  · simp only [fields, List.forall_mem_cons] at each
    obtain ⟨name', table', properties', indexes', settings', -⟩ := each
    refine bind_eq_of_eq_some found ?_
    refine bind_eq_of_eq_some (name'.required_eq name id) ?_
    refine bind_eq_of_eq_some (table'.withDefault_eq table id) ?_
    refine bind_eq_of_eq_some (properties'.withDefault_eq properties id) ?_
    refine bind_eq_of_eq_some (indexes'.withDefault_eq indexes id) ?_
    exact bind_eq_of_eq_some (settings'.withDefault_eq settings id) rfl

end Model

end TableMapper
