import TableMapper.Proofs.Model.Documents
import TableMapper.Settings.Document

/-!
# Settings are read back from their texts

What may be written for settings, and that they are read from it.  Every field has a default here,
and the user may go by another name.

`declared_readBack` states for models, properties and settings alike that they are read back from
their texts, with fields at their defaults left out and others added.
-/

namespace TableMapper

open DocumentView

/-! ## §1 Settings -/

theorem Json.word16?_ofNat (w : UInt16) : (Json.ofNat w.toNat).word16? = some w := by
  rw [Json.word16?, Json.natural?_ofNat (w.toNat_lt.trans (by decide)), Option.bind_some,
    Word.uint16?_eq_some_iff]

theorem Json.word64?_ofNat (w : UInt64) : (Json.ofNat w.toNat).word64? = some w := by
  rw [Json.word64?, Json.natural?_ofNat w.toNat_lt, Option.bind_some, Word.uint64?_eq_some_iff]

namespace Settings

def fields (s : Settings) : List Field := [
  .plain "host" (.string s.host) (s.host = default.host),
  .plain "port" (.ofNat s.port.toNat) (s.port = default.port),
  .plain "user" (.ofOption s.user) (s.user = default.user),
  .plain "password" (.ofOption s.password) (s.password = default.password),
  .plain "database" (.ofOption s.database) (s.database = default.database),
  .plain "charset" (.ofOption s.charsetSetting) (s.charsetSetting = default.charsetSetting),
  .plain "collation" (.ofOption s.collationSetting) (s.collationSetting = default.collationSetting),
  .plain "pool" (.bool s.pool) (s.pool = default.pool),
  .plain "connectionLimit" (.ofNat s.connectionLimit.toNat)
    (s.connectionLimit = default.connectionLimit),
  .plain "retryOnError" (.bool s.retryOnError) (s.retryOnError = default.retryOnError),
  .plain "retryIntervalMs" (.ofNat s.retryIntervalMs.toNat)
    (s.retryIntervalMs = default.retryIntervalMs),
  .plain "createDatabaseOnError" (.bool s.createDatabaseOnError)
    (s.createDatabaseOnError = default.createDatabaseOnError),
  .plain "silentOnError" (.bool s.silentOnError) (s.silentOnError = default.silentOnError),
  .plain "engine" (.ofOption s.engine) (s.engine = default.engine),
  .plain "timezone" (.string s.timezone) (s.timezone = default.timezone)]

/-- The trees that stand for settings. -/
def Written (s : Settings) : JsonSyntax → Prop := Record fieldOfKey s.fields

/-- The name of each field is a key of the field; the user has another one beside it. -/
theorem fieldOfKey_of_mem : ∀ name ∈ fieldNames, fieldOfKey name = name := by decide

theorem faithful (s : Settings) : Faithful ofDocument? s.toJson s.Written s := by
  have host := faithful_text s.host
  have port := faithful_plain (Json.plain_ofNat _) (Json.word16?_ofNat s.port)
  have user := faithful_optionalText s.user
  have password := faithful_optionalText s.password
  have database := faithful_optionalText s.database
  have charset := faithful_optionalText s.charsetSetting
  have collation := faithful_optionalText s.collationSetting
  have pool := faithful_bool s.pool
  have connectionLimit := faithful_plain (Json.plain_ofNat _) (Json.word64?_ofNat s.connectionLimit)
  have retryOnError := faithful_bool s.retryOnError
  have retryIntervalMs := faithful_plain (Json.plain_ofNat _) (Json.word64?_ofNat s.retryIntervalMs)
  have createDatabaseOnError := faithful_bool s.createDatabaseOnError
  have silentOnError := faithful_bool s.silentOnError
  have engine := faithful_optionalText s.engine
  have timezone := faithful_text s.timezone
  show Faithful ofDocument? (printedRecord s.fields) (Record fieldOfKey s.fields) s
  refine faithful_record (show fieldNames.Nodup by decide)
    (fun f listed => fieldOfKey_of_mem f.name (List.mem_map_of_mem listed)) ?_ fun d room look
      found each => ?_
  · simp only [fields, List.forall_mem_cons]
    exact ⟨host.sound, port.sound, user.sound, password.sound, database.sound, charset.sound,
      collation.sound, pool.sound, connectionLimit.sound, retryOnError.sound, retryIntervalMs.sound,
      createDatabaseOnError.sound, silentOnError.sound, engine.sound, timezone.sound, nofun⟩
  · simp only [fields, List.forall_mem_cons] at each
    obtain ⟨host', port', user', password', database', charset', collation', pool',
        connectionLimit', retryOnError',
      retryIntervalMs', createDatabaseOnError', silentOnError', engine', timezone', -⟩ := each
    refine bind_eq_of_eq_some found ?_
    refine bind_eq_of_eq_some (host'.withDefault_eq host id) ?_
    refine bind_eq_of_eq_some (port'.withDefault_eq port id) ?_
    refine bind_eq_of_eq_some (user'.withDefault_eq user id) ?_
    refine bind_eq_of_eq_some (password'.withDefault_eq password id) ?_
    refine bind_eq_of_eq_some (database'.withDefault_eq database id) ?_
    refine bind_eq_of_eq_some (charset'.withDefault_eq charset id) ?_
    refine bind_eq_of_eq_some (collation'.withDefault_eq collation id) ?_
    refine bind_eq_of_eq_some (pool'.withDefault_eq pool id) ?_
    refine bind_eq_of_eq_some (connectionLimit'.withDefault_eq connectionLimit id) ?_
    refine bind_eq_of_eq_some (retryOnError'.withDefault_eq retryOnError id) ?_
    refine bind_eq_of_eq_some (retryIntervalMs'.withDefault_eq retryIntervalMs id) ?_
    refine bind_eq_of_eq_some (createDatabaseOnError'.withDefault_eq createDatabaseOnError id) ?_
    refine bind_eq_of_eq_some (silentOnError'.withDefault_eq silentOnError id) ?_
    refine bind_eq_of_eq_some (engine'.withDefault_eq engine id) ?_
    exact bind_eq_of_eq_some (timezone'.withDefault_eq timezone id) rfl

/-- Settings hold neither lists nor records. -/
theorem nesting_toJson (s : Settings) : s.toJson.nesting = 1 := by
  simp [toJson, Json.nesting, Json.nestingOfEntries, Json.nesting_ofOption, Json.ofNat]

end Settings

/-! ## §2 What is declared -/

/-- **What is declared survives its text.**  Models and properties whose documents do not nest too
deep, and all settings, are read back from their texts; fields that hold their defaults may be left
out of these, and fields of unknown names added to every record. -/
theorem declared_readBack :
    (∀ m : Model, m.toJson.nesting ≤ maxDepth → ReadBack Model.read? m.text m.Written m) ∧
      (∀ p : Property, p.toJson.nesting ≤ maxDepth → ReadBack Property.read? p.text p.Written p) ∧
      ∀ s : Settings, ReadBack Settings.read? s.text s.Written s := by
  refine ⟨fun m fits => m.faithful.readBack fits, fun p fits => p.faithful.readBack fits,
    fun s => ?_⟩
  exact s.faithful.readBack (s.nesting_toJson.trans_le (by decide))

/-- A property that is an array with a unique index. -/
def tags : Property :=
  { Property.ofType "tags" (.array .string) with index := some ⟨some .unique, none⟩ }

/-- A model of one property with random UUIDs. -/
def pet : Model := ⟨"pet", none, [tags], [⟨"by_tags", ["tags"], none, some .hash⟩], ⟨none, .random⟩⟩

/-- The document of the property without defaults, with notes in it and in its index. -/
def looseTags : Json := .object [
  ("note", .ofNat 7), ("name", .string "tags"), ("type", (PropertyType.array .string).toJson),
  ("index", .object [("kind", .string "unique"), ("note", .array [])])]

/-- The document of the model without defaults, with notes in it, in its index and in its
settings. -/
def loosePet : Json := .object [
  ("name", .string "pet"), ("properties", .array [looseTags]),
    ("note", .object [("since", .ofNat 2019)]),
  ("indexes", .array [.object [
    ("name", .string "by_tags"), ("note", .null), ("columns", .array [.string "tags"]),
      ("type", .string "hash")]]),
  ("settings", .object [("uuid", .string "v4"), ("note", .bool true)])]

/-- The document of settings for a user and a database, with a comment. -/
def looseShop : Json :=
  .object [("comment", .null), ("username", .string "app"), ("database", .string "shop")]

theorem written_looseTags : tags.Written looseTags.written := by
  have spelled := StringUnit.text?_ofWritten
  have index : (⟨some .unique, none⟩ : PropertyIndex).Written
      (Json.object [("kind", .string "unique"), ("note", .array [])]).written :=
    .given (spelled "kind") rfl (Json.plain_string "unique").means_written <|
    .missing rfl <| .added (spelled "note") (by decide) .nil
  -- The unknown field comes first, and the rest is left out where it is the default.
  exact .added (spelled "note") (by decide) <|
    .given (spelled "name") rfl (Json.plain_string "tags").means_written <|
    .given (spelled "type") rfl (PropertyType.plain_toJson (.array .string)).means_written <|
    .missing rfl <| .missing rfl <| .missing rfl <| .missing rfl <| .missing rfl <|
    .missing rfl <| .missing rfl <| .missing rfl <| .missing rfl <| .missing rfl <|
    .given (spelled "index") rfl index .nil

theorem written_loosePet : pet.Written loosePet.written := by
  have spelled := StringUnit.text?_ofWritten
  -- The index and the settings carry an unknown field of their own.
  have columns : List.Forall₂ (fun column => Means (.string column)) ["tags"]
      (Json.writtenItems [.string "tags"]) :=
    .cons (Json.plain_string "tags").means_written .nil
  have index : (⟨"by_tags", ["tags"], none, some .hash⟩ : TableIndex).Written (Json.object [
      ("name", .string "by_tags"), ("note", .null), ("columns", .array [.string "tags"]),
      ("type", .string "hash")]).written :=
    .given (spelled "name") rfl (Json.plain_string "by_tags").means_written <|
    .added (spelled "note") (by decide) <| .given (spelled "columns") rfl columns <|
    .missing rfl <| .given (spelled "type") rfl (Json.plain_string "hash").means_written .nil
  have settings : (⟨none, .random⟩ : ModelSettings).Written
      (Json.object [("uuid", .string "v4"), ("note", .bool true)]).written :=
    .missing rfl <| .given (spelled "uuid") rfl (Json.plain_string "v4").means_written <|
    .added (spelled "note") (by decide) .nil
  exact .given (spelled "name") rfl (Json.plain_string "pet").means_written <|
    .missing rfl <| .given (spelled "properties") rfl (.cons written_looseTags .nil) <|
    .added (spelled "note") (by decide) <| .given (spelled "indexes") rfl (.cons index .nil) <|
    .given (spelled "settings") rfl settings .nil

theorem written_looseShop :
    { Settings.ofDatabase "shop" with user := some "app" }.Written looseShop.written := by
  have spelled := StringUnit.text?_ofWritten
  exact .added (spelled "comment") (by decide) <| .missing rfl <| .missing rfl <|
    .given (spelled "username") (by decide) (Json.plain_string "app").means_written <|
    .missing rfl <| .given (spelled "database") rfl (Json.plain_string "shop").means_written <|
    .missing rfl <| .missing rfl <| .missing rfl <| .missing rfl <| .missing rfl <|
    .missing rfl <| .missing rfl <| .missing rfl <| .missing rfl <| .missing rfl .nil

/-- A model, a property and settings are read from texts without defaults and with notes in every
record. -/
theorem declared_readBack_loose :
    pet.toJson.nesting ≤ maxDepth ∧ tags.toJson.nesting ≤ maxDepth ∧
      Model.read? loosePet.text = some pet ∧
      Property.read? looseTags.text = some tags ∧
      Settings.read? looseShop.text =
        some { Settings.ofDatabase "shop" with user := some "app" } := by
  obtain ⟨models, properties, settings⟩ := declared_readBack
  -- Small trees, so reading their text gives them back.
  have petTree := (⟨by decide, by decide⟩ : loosePet.Regular).readable le_rfl
  have tagsTree := (⟨by decide, by decide⟩ : looseTags.Regular).readable le_rfl
  have shopTree := (⟨by decide, by decide⟩ : looseShop.Regular).readable le_rfl
  exact ⟨by decide, by decide,
    (models pet (by decide)).every _ _ petTree.read?_text written_loosePet,
    (properties tags (by decide)).every _ _ tagsTree.read?_text written_looseTags,
    (settings _).every _ _ shopTree.read?_text written_looseShop⟩

end TableMapper
