import Mathlib.Data.List.Forall2
import TableMapper.Json.Fields
import TableMapper.Proofs.Json.Nesting

/-!
# Records written with some freedom

The text of a record has all its fields in order.  The same record may be written in other ways: a
field that holds the value that it takes when it is missing may be left out, and entries of unknown
names may be added anywhere, with anything in them.  `Record` tells which trees stand for a record
in this sense, given what its fields may look like (`Field`).

`Faithful` is what the writer and the reader of a type have in common: the text is among those that
may be written, and the reader takes all of these to the value.  It is put together for records from
their fields (`faithful_record`), for lists from their items, and for other values from what is read
off a document.
-/

namespace TableMapper

open DocumentView

/-! ## §1 Trees of records -/

/-- What may be written for a field of a record. -/
structure Field where
  name : String
  /-- The document that is written. -/
  printed : Json
  /-- The trees that mean the field's value. -/
  means : JsonSyntax → Prop
  /-- Whether the value is the one of a missing field. -/
  holdsDefault : Prop

/-- The tree means a document without records. -/
def Means (j : Json) (t : JsonSyntax) : Prop := t.caseDocument? = some j

/-- The tree is null, or means a value. -/
def MeansOption {α : Type} (means : α → JsonSyntax → Prop) : Option α → JsonSyntax → Prop
  | none => Means .null
  | some x => means x

/-- The tree is a list of trees that mean the values. -/
def MeansList {α : Type} (means : α → JsonSyntax → Prop) (xs : List α) : JsonSyntax → Prop
  | .array items => List.Forall₂ means xs items
  | _ => False

/-- A field whose value holds no records. -/
def Field.plain (name : String) (printed : Json) (holdsDefault : Prop) : Field :=
  ⟨name, printed, Means printed, holdsDefault⟩

/-- The entries of an object that stand for fields, in order: each field is given, or is missing as
it holds its default, and entries that name no field may be anywhere.  The field that a key names is
given by `field`. -/
inductive Entries (field : String → String) (names : List String) :
    List Field → List (List StringUnit × JsonSyntax) → Prop where
  | nil : Entries field names [] []
  | given {f : Field} {fields : List Field} {units : List StringUnit} {key : String}
      {value : JsonSyntax}
      {entries : List (List StringUnit × JsonSyntax)} (spelled : StringUnit.text? units = some key)
      (named : field key = f.name) (means : f.means value)
        (rest : Entries field names fields entries) :
      Entries field names (f :: fields) ((units, value) :: entries)
  | missing {f : Field} {fields : List Field} {entries : List (List StringUnit × JsonSyntax)}
      (default : f.holdsDefault) (rest : Entries field names fields entries) :
      Entries field names (f :: fields) entries
  | added {fields : List Field} {units : List StringUnit} {key : String} {value : JsonSyntax}
      {entries : List (List StringUnit × JsonSyntax)} (spelled : StringUnit.text? units = some key)
      (unknown : field key ∉ names) (rest : Entries field names fields entries) :
      Entries field names fields ((units, value) :: entries)

/-- The tree stands for a record with the given fields. -/
def Record (field : String → String) (fields : List Field) : JsonSyntax → Prop
  | .object entries => Entries field (fields.map Field.name) fields entries
  | _ => False

/-- The object that is written for a record. -/
def printedRecord (fields : List Field) : Json := .object (fields.map fun f => (f.name, f.printed))

/-! ## §2 What is found for fields -/

/-- What was found for a field in an object with `room` for what it holds. -/
structure Field.Found (f : Field) (room : Nat) (found : Option JsonSyntax.Node) : Prop where
  fits : f.printed.nesting ≤ room
  given : ∀ node ∈ found, node.room = room ∧ f.means node.tree
  missing : found = none → f.holdsDefault

/-- What was found in an object: for each field what stands for it, and for other names nothing. -/
structure FoundAll (fields : List Field) (room : Nat)
    (found : List (String × JsonSyntax.Node)) : Prop where
  each : ∀ f ∈ fields, f.Found room (found.lookup f.name)
  others : ∀ name, name ∉ fields.map Field.name → found.lookup name = none

namespace FoundAll

variable {f : Field} {fields : List Field} {room : Nat} {found : List (String × JsonSyntax.Node)}

/-- A further field that is given. -/
theorem given (all : FoundAll fields room found) (fresh : f.name ∉ fields.map Field.name)
    (fits : f.printed.nesting ≤ room) {value : JsonSyntax} (means : f.means value) :
    FoundAll (f :: fields) room ((f.name, ⟨room, value⟩) :: found) := by
  have first : ((f.name, (⟨room, value⟩ : JsonSyntax.Node)) :: found).lookup f.name =
      some ⟨room, value⟩ :=
    List.lookup_cons_self
  have later {name : String} (other : name ≠ f.name) :
      ((f.name, (⟨room, value⟩ : JsonSyntax.Node)) :: found).lookup name = found.lookup name := by
    rw [List.lookup_cons, beq_false_of_ne other]
  -- The new field is found first, and all others are found as before.
  refine ⟨List.forall_mem_cons.2
    ⟨⟨fits, fun node here => ?_, fun missing => ?_⟩, fun g listed => ?_⟩,
    fun name notHere => ?_⟩
  · obtain rfl : ⟨room, value⟩ = node := Option.some.inj (first.symm.trans here)
    exact ⟨rfl, means⟩
  · exact absurd (first.symm.trans missing) (Option.some_ne_none _)
  · rw [later fun same => fresh (same ▸ List.mem_map_of_mem listed)]
    exact all.each g listed
  · obtain ⟨other, notLater⟩ := not_or.1 (mt List.mem_cons.2 notHere)
    rw [later other]
    exact all.others name notLater

/-- A further field that is missing. -/
theorem missing (all : FoundAll fields room found) (fresh : f.name ∉ fields.map Field.name)
    (fits : f.printed.nesting ≤ room) (default : f.holdsDefault) :
    FoundAll (f :: fields) room found := by
  have absent : found.lookup f.name = none := all.others f.name fresh
  refine ⟨List.forall_mem_cons.2 ⟨⟨fits, fun node here => ?_, fun _ => default⟩, all.each⟩,
    fun name notHere => all.others name (mt (List.mem_cons_of_mem _) notHere)⟩
  exact absurd (absent.symm.trans here) (Option.some_ne_none _).symm

end FoundAll

/-- An entry is a node with the key that is spelled. -/
theorem JsonSyntax.nodes?_cons {units : List StringUnit} {key : String}
    (spelled : StringUnit.text? units = some key) (value : JsonSyntax) {room : Nat}
    {entries : List (List StringUnit × JsonSyntax)} {nodes : List (String × Node)}
    (rest : nodes? room entries = some nodes) :
    nodes? room ((units, value) :: entries) = some ((key, ⟨room, value⟩) :: nodes) := by
  unfold nodes? at rest ⊢
  rw [List.mapM_cons, rest, spelled]
  rfl

variable {field : String → String}

/-- The reader finds each field or knows that it holds its default, and finds nothing else. -/
theorem Entries.exists_found {names : List String} {fields : List Field}
    {entries : List (List StringUnit × JsonSyntax)} (written : Entries field names fields entries)
    (listed : ∀ f ∈ fields, f.name ∈ names) (distinct : (fields.map Field.name).Nodup) {room : Nat}
    (fits : ∀ f ∈ fields, f.printed.nesting ≤ room) :
    ∃ nodes found, JsonSyntax.nodes? room entries = some nodes ∧
      knownEntries? field names nodes = some found ∧
      FoundAll fields room found := by
  induction written with
  | nil => exact ⟨[], [], rfl, rfl, fun f h => absurd h List.not_mem_nil, fun _ _ => rfl⟩
  | @given f fields units key value entries spelled named means rest ih =>
    obtain ⟨fresh, distinct⟩ := List.nodup_cons.1 distinct
    obtain ⟨isField, listed⟩ := List.forall_mem_cons.1 listed
    obtain ⟨fitsFirst, fits⟩ := List.forall_mem_cons.1 fits
    obtain ⟨nodes, found, read, known, all⟩ := ih listed distinct fits
    -- Fields have different names, so that no later entry has found this one.
    have once : found.any (·.1 == f.name) = false := by
      simpa [BEq.comm] using List.lookup_eq_none_iff.1 (all.others f.name fresh)
    refine ⟨_, (f.name, ⟨room, value⟩) :: found, JsonSyntax.nodes?_cons spelled value read, ?_,
      all.given fresh fitsFirst means⟩
    simp [knownEntries?, known, named, isField, once]
  | @missing f fields entries default rest ih =>
    obtain ⟨fresh, distinct⟩ := List.nodup_cons.1 distinct
    obtain ⟨fitsFirst, fits⟩ := List.forall_mem_cons.1 fits
    obtain ⟨nodes, found, read, known, all⟩ := ih (List.forall_mem_cons.1 listed).2 distinct fits
    exact ⟨nodes, found, read, known, all.missing fresh fitsFirst default⟩
  | added spelled unknown rest ih =>
    obtain ⟨nodes, found, read, known, all⟩ := ih listed distinct fits
    refine ⟨_, found, JsonSyntax.nodes?_cons spelled _ read, ?_, all⟩
    simp [knownEntries?, known, unknown]

/-- The fields of a record are found. -/
theorem Record.exists_fields? {fields : List Field} {t : JsonSyntax}
    (written : Record field fields t) (distinct : (fields.map Field.name).Nodup) {room : Nat}
    (fits : (printedRecord fields).nesting ≤ room) :
    ∃ (inside : Nat) (look : String → Option JsonSyntax.Node),
      fields? field (fields.map Field.name) (⟨room, t⟩ : JsonSyntax.Node) =
        some (fields.map fun f => look f.name) ∧
      ∀ f ∈ fields, f.Found inside (look f.name) := by
  -- An object takes one level, so there is room for one.
  obtain _ | room := room
  · cases fits
  rw [printedRecord, Json.nesting, Nat.add_le_add_iff_right, Json.nestingOfEntries_le_iff,
    List.forall_mem_map] at fits
  cases t with
  | object entries =>
    obtain ⟨nodes, found, read, known, all⟩ := Entries.exists_found written
      (fun f h => List.mem_map_of_mem h) distinct fits
    have view : entries? (⟨room + 1, .object entries⟩ : JsonSyntax.Node) = some nodes := read
    refine ⟨room, fun name => found.lookup name, ?_, all.each⟩
    rw [fields?, view]
    simp only [known, Option.map_some, List.map_map]
    rfl
  | _ => cases written

/-! ## §3 Documents without records -/

/-- A document that is read back from its text if it does not nest too deep. -/
structure Json.Regular (j : Json) : Prop where
  distinct : j.DistinctKeys
  doubles : j.DoublesReadBack

/-- A document without records that is read back from its text. -/
structure Json.Plain (j : Json) : Prop where
  regular : j.Regular
  means_written : Means j j.written

namespace Json

/-- A regular document can be read wherever there is room for its containers. -/
theorem Regular.readable {j : Json} (regular : j.Regular) {d : Nat} (fits : j.nesting ≤ d) :
    j.Readable d :=
  readable_iff.2 ⟨fits, regular.distinct, regular.doubles⟩

/-- An array is regular if its items are. -/
theorem regular_array {items : List Json} (each : ∀ item ∈ items, item.Regular) :
    (array items).Regular :=
  ⟨distinctKeys_array.2 fun item h => (each item h).distinct,
    doublesReadBack_array.2 fun item h => (each item h).doubles⟩

/-- An object with different keys is regular if its values are. -/
theorem regular_object {entries : List (String × Json)} (distinct : (entries.map (·.1)).Nodup)
    (each : ∀ entry ∈ entries, entry.2.Regular) : (object entries).Regular :=
  ⟨distinctKeys_object.2 ⟨distinct, fun entry h => (each entry h).distinct⟩,
    doublesReadBack_object.2 fun entry h => (each entry h).doubles⟩

theorem plain_null : null.Plain := ⟨⟨by decide, by decide⟩, rfl⟩

theorem plain_bool (b : Bool) : (bool b).Plain := ⟨by cases b <;> exact ⟨by decide, by decide⟩, rfl⟩

/-- The units that are written for a string spell it again. -/
theorem plain_string (s : String) : (string s).Plain := by
  refine ⟨⟨by simp [DistinctKeys, parts, keys], by simp [DoublesReadBack, parts, doubleReadsBack]⟩,
    ?_⟩
  rw [Means, written, JsonSyntax.caseDocument?, StringUnit.text?_ofWritten]
  rfl

/-- A count is a natural number, which is read back. -/
theorem plain_ofNat (n : Nat) : (ofNat n).Plain := by
  have read : JsonNumber.read? (JsonNumber.natural (UInt64.ofNat n)).chars =
      some (.natural (UInt64.ofNat n)) :=
    JsonNumber.read?_natural _
  obtain ⟨v, -, tree, value⟩ := exists_written_number read
  refine ⟨⟨by simp [ofNat, DistinctKeys, parts, keys],
    by simp [ofNat, DoublesReadBack, parts, doubleReadsBack]⟩, ?_⟩
  rw [Means, ofNat, tree, JsonSyntax.caseDocument?, value]
  rfl

theorem plain_ofOption (text : Option String) : (ofOption text).Plain := by
  cases text with
  | none => exact plain_null
  | some s => exact plain_string s

/-- A list of strings is written as an array. -/
theorem plain_strings (texts : List String) : (array (texts.map string)).Plain := by
  refine ⟨regular_array (List.forall_mem_map.2 fun s _ => (plain_string s).regular), ?_⟩
  -- The strings are spelled one by one.
  have items : JsonSyntax.caseDocuments? (writtenItems (texts.map string)) =
      some (texts.map string) := by
    induction texts with
    | nil => rfl
    | cons s texts ih =>
      have first : (string s).written.caseDocument? = some (string s) :=
        (plain_string s).means_written
      rw [List.map_cons, writtenItems, JsonSyntax.caseDocuments?, first, ih]
      rfl
  rw [Means, written, JsonSyntax.caseDocument?, items]
  rfl

/-- A case with contents. -/
theorem plain_case (name : String) {contents : Json} (plain : contents.Plain) :
    (object [(name, contents)]).Plain := by
  refine ⟨regular_object (by simp) (by simpa using plain.regular), ?_⟩
  have inside : contents.written.caseDocument? = some contents := plain.means_written
  rw [Means, written, writtenEntries, writtenEntries, JsonSyntax.caseDocument?,
    StringUnit.text?_ofWritten, inside]
  rfl

end Json

/-! ## §4 Writers and readers that fit -/

/-- What is written for `x` is among the trees that mean it, and `read` gives `x` for all of
these. -/
structure Faithful {α : Type} (read : JsonSyntax.Node → Option α) (printed : Json)
    (means : JsonSyntax → Prop) (x : α) : Prop where
  regular : printed.Regular
  means_written : means printed.written
  reads : ∀ room t, printed.nesting ≤ room → means t → read ⟨room, t⟩ = some x

section

variable {α : Type}

/-- A tree that means a document is taken as this document if there is room for it. -/
theorem whole?_of_means {j : Json} {t : JsonSyntax} (means : Means j t) {room : Nat}
    (fits : j.nesting ≤ room) :
    whole? (⟨room, t⟩ : JsonSyntax.Node) = some j := by
  show t.caseDocument?.filter _ = _
  rw [means, Option.filter_some, if_pos (decide_eq_true fits)]

/-- A value without records is faithful if it is decoded from the document that is written for
it. -/
theorem faithful_plain {read : Json → Option α} {j : Json} (isPlain : j.Plain) {x : α}
    (decodes : read j = some x) :
    Faithful (plain read) j (Means j) x where
  regular := isPlain.regular
  means_written := isPlain.means_written
  reads room t fits means := by rw [plain, whole?_of_means means fits, Option.bind_some, decodes]

/-- What may be null is read from a tree as from the document that the tree means. -/
theorem faithful_nullable {read : Json → Option α} {j : Json} (isPlain : j.Plain) {x : Option α}
    (decodes : nullable read j = some x) : Faithful (nullable (plain read)) j (Means j) x where
  regular := isPlain.regular
  means_written := isPlain.means_written
  reads room t fits means := by
    rw [← decodes, nullable, nullable, plain, whole?_of_means means fits]
    rfl

/-- A value that may be absent is written as null then, which no value may mean. -/
theorem faithful_option {read : JsonSyntax.Node → Option α} {print : α → Json}
    {means : α → JsonSyntax → Prop} {x : Option α}
    (each : ∀ y ∈ x, Faithful read (print y) (means y) y)
    (notNull : ∀ y t, means y t → t.caseDocument? ≠ some .null) :
    Faithful (nullable read) (x.elim .null print) (MeansOption means x) x := by
  cases x with
  | none =>
    refine ⟨Json.plain_null.regular, Json.plain_null.means_written, fun room t fits isNull => ?_⟩
    rw [nullable, whole?_of_means isNull fits]
  -- Only null is read as absent, and no tree of the value is null.
  | some y =>
    have faithful := each y rfl
    refine ⟨faithful.regular, faithful.means_written, fun room t fits isMeant => ?_⟩
    have other : whole? (⟨room, t⟩ : JsonSyntax.Node) ≠ some .null := fun same =>
      notNull y t isMeant (Option.filter_eq_some_iff.1 same).1
    rw [nullable, faithful.reads room t fits isMeant]
    split
    next same => exact absurd same other
    next => rfl

/-- A list is written and read faithfully if its items are. -/
theorem faithful_list {read : JsonSyntax.Node → Option α} {print : α → Json}
    {means : α → JsonSyntax → Prop} {xs : List α}
    (each : ∀ x ∈ xs, Faithful read (print x) (means x) x) :
    Faithful (list? read) (.array (xs.map print)) (MeansList means xs) xs := by
  refine ⟨Json.regular_array (List.forall_mem_map.2 fun x h => (each x h).regular), ?_,
    fun room t fits isMeant => ?_⟩
  · show List.Forall₂ means xs (Json.writtenItems (xs.map print))
    induction xs with
    | nil => exact .nil
    | cons x xs ih =>
      exact .cons (each x (List.mem_cons_self ..)).means_written
        (ih fun y h => each y (List.mem_cons_of_mem _ h))
  -- A list takes one level, so there is room for one.
  obtain _ | room := room
  · cases fits
  rw [Json.nesting, Nat.add_le_add_iff_right, Json.nestingOfItems_le_iff,
    List.forall_mem_map] at fits
  cases t with
  | array items =>
    show (items.map fun item => (⟨room, item⟩ : JsonSyntax.Node)).mapM read = some xs
    rw [MeansList] at isMeant
    induction isMeant with
    | nil => rfl
    | cons meant others ih =>
      obtain ⟨first, rest⟩ := List.forall_mem_cons.1 each
      rw [List.map_cons, List.mapM_cons, first.reads room _ (fits _ (List.mem_cons_self ..)) meant,
        ih rest fun x h => fits x (List.mem_cons_of_mem _ h)]
      rfl
  | _ => cases isMeant

end

/-! ## §5 Records -/

/-- What is written for a field can be read back and means its value. -/
structure Field.Sound (f : Field) : Prop where
  regular : f.printed.Regular
  means_written : f.means f.printed.written

section

variable {α : Type} {f : Field} {read : JsonSyntax.Node → Option α} {x : α}

/-- A field whose value is written and read faithfully is sound. -/
theorem Faithful.sound (faithful : Faithful read f.printed f.means x) : f.Sound :=
  ⟨faithful.regular, faithful.means_written⟩

/-- A field without default is there. -/
theorem Field.Found.required_eq {room : Nat} {found : Option JsonSyntax.Node}
    (h : f.Found room found) (faithful : Faithful read f.printed f.means x)
    (needed : ¬ f.holdsDefault) :
    required read found = some x := by
  cases found with
  | none => exact absurd (h.missing rfl) needed
  | some node =>
    obtain ⟨rfl, means⟩ := h.given node rfl
    exact faithful.reads _ _ h.fits means

/-- A missing field has the value that it is read as. -/
theorem Field.Found.withDefault_eq {room : Nat} {found : Option JsonSyntax.Node}
    (h : f.Found room found) (faithful : Faithful read f.printed f.means x) {default : α}
    (holds : f.holdsDefault → x = default) :
    withDefault read default found = some x := by
  cases found with
  | none => rw [holds (h.missing rfl), withDefault]
  | some node =>
    obtain ⟨rfl, means⟩ := h.given node rfl
    exact faithful.reads _ _ h.fits means

/-- A reader of fields goes on with what it has read. -/
theorem bind_eq_of_eq_some {β γ : Type} {o : Option β} {next : β → Option γ} {y : β}
    {result : Option γ} (h : o = some y) (rest : next y = result) : (o >>= next) = result := by
  rw [h]
  exact rest

/-- A record is written and read faithfully if its fields are written so and it is read from what is
found for them. -/
theorem faithful_record {field : String → String} {fields : List Field}
    (distinct : (fields.map Field.name).Nodup) (names : ∀ f ∈ fields, field f.name = f.name)
    (sound : ∀ f ∈ fields, f.Sound)
    (reads : ∀ (d : JsonSyntax.Node) (room : Nat) (look : String → Option JsonSyntax.Node),
      fields? field (fields.map Field.name) d = some (fields.map fun f => look f.name) →
      (∀ f ∈ fields, f.Found room (look f.name)) → read d = some x) :
    Faithful read (printedRecord fields) (Record field fields) x where
  regular :=
    Json.regular_object (by rwa [List.map_map])
      (List.forall_mem_map.2 fun f h => (sound f h).regular)
  means_written := by
    -- What is printed has each field, under its own name.
    show Entries field (fields.map Field.name) fields
        (Json.writtenEntries (fields.map fun f => (f.name, f.printed)))
    generalize fields.map Field.name = known
    clear distinct reads
    induction fields with
    | nil => exact .nil
    | cons f fields ih =>
      obtain ⟨first, others⟩ := List.forall_mem_cons.1 sound
      obtain ⟨name, names⟩ := List.forall_mem_cons.1 names
      exact .given (StringUnit.text?_ofWritten f.name) name first.means_written (ih names others)
  reads room t fits written := by
    obtain ⟨inside, look, found, each⟩ := written.exists_fields? distinct fits
    exact reads _ inside look found each

end

/-- An object with the fields of a record is not null. -/
theorem Record.caseDocument?_ne_null {field : String → String} {fields : List Field}
    {t : JsonSyntax} (written : Record field fields t) : t.caseDocument? ≠ some .null := by
  cases t with
  | object entries =>
    rcases entries with _ | ⟨⟨key, value⟩, _ | _⟩
    · nofun
    · simp [JsonSyntax.caseDocument?, Option.bind_eq_some_iff]
    · nofun
  | _ => cases written

/-! ## §6 Texts -/

/-- A value is read from its text, and from every text that is written with the freedom that its
trees have; its own is one of these. -/
structure ReadBack {α : Type} (read : String → Option α) (text : String) (means : JsonSyntax → Prop)
    (x : α) : Prop where
  own : read text = some x
  means_own : ∃ t, JsonSyntax.read? text = some t ∧ means t
  every : ∀ s t, JsonSyntax.read? s = some t → means t → read s = some x

/-- What is written and read faithfully is read back from texts, as far as the reader goes. -/
theorem Faithful.readBack {α : Type} {read : JsonSyntax.Node → Option α} {printed : Json}
    {means : JsonSyntax → Prop} {x : α} (faithful : Faithful read printed means x)
    (fits : printed.nesting ≤ maxDepth) :
    ReadBack (fun s => (JsonSyntax.read? s).bind fun tree => read ⟨maxDepth, tree⟩) printed.text
      means x := by
  have tree : JsonSyntax.read? printed.text = some printed.written :=
    (faithful.regular.readable fits).read?_text
  -- The own text is one of those whose trees mean the value.
  have every (s : String) (t : JsonSyntax) (tree : JsonSyntax.read? s = some t) (meant : means t) :
      ((JsonSyntax.read? s).bind fun tree => read ⟨maxDepth, tree⟩) = some x := by
    rw [tree, Option.bind_some, faithful.reads maxDepth t fits meant]
  exact ⟨every _ _ tree faithful.means_written, ⟨_, tree, faithful.means_written⟩, every⟩

end TableMapper
