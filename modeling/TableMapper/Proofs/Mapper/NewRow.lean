import TableMapper.Mapper.Uuid
import TableMapper.Proofs.Column.TextIds
import TableMapper.Proofs.Mapper.SingleStatement
import TableMapper.Proofs.Query.Insertion

/-!
# The id of a new row

Making a row may put an id into its data, compiles a statement from them and looks the id up once
more for the result.  The statement and the result agree, whatever stands in the data.

- `IdMode.Makes` says which ids are made here for a mode;
- `CreatedRow` says how the statement's pairs and the result go together with the data;
- `Mapper.create_returnsId` says that they do so whenever a row was made.
-/

namespace TableMapper

/-! ## §1 Made ids -/

/-- What is made for a row in each mode: nothing if the server counts, or the text of a UUID of the
mode's version. -/
inductive IdMode.Makes : IdMode → Option String → Prop where
  | server : Makes .server none
  | timeBased (high : BitVec 48) (middle : BitVec 12) (low : BitVec 62) :
      Makes .timeBased (some (Uuid.ofParts high 1#4 middle low).text)
  | random (high : BitVec 48) (middle : BitVec 12) (low : BitVec 62) :
      Makes .random (some (Uuid.ofParts high 4#4 middle low).text)

/-- An id source makes such ids. -/
theorem IdSource.makes_make (source : IdSource) (mode : IdMode) :
    mode.Makes ((source.make mode).1.map Uuid.text) := by
  cases mode with
  | server => exact .server
  | timeBased => exact .timeBased _ _ _
  | random => exact .random _ _ _

/-- The text of a UUID has its hyphens at least. -/
theorem Uuid.text_ne_empty (u : Uuid) : u.text ≠ "" := by
  unfold Uuid.text
  exact mt String.ofList_eq_empty_iff.1 (by simp)

/-- No id is made exactly if the server counts. -/
theorem IdMode.Makes.eq_none_iff {mode : IdMode} {made : Option String} (shape : mode.Makes made) :
    made = none ↔ mode.isUuid = false := by
  cases shape <;> simp [IdMode.isUuid]

/-- An id that is made is not empty. -/
theorem IdMode.Makes.ne_empty {mode : IdMode} {made : Option String} (shape : mode.Makes made) :
    ∀ id ∈ made, id ≠ "" := by
  intro id same
  cases shape with
  | server => cases same
  | timeBased high middle low =>
    rw [← Option.some.inj same]
    exact Uuid.text_ne_empty _
  | random high middle low =>
    rw [← Option.some.inj same]
    exact Uuid.text_ne_empty _

/-! ## §2 The id of a row -/

/-- The row has one entry of the id at most. -/
def Row.HasSingleId (row : Row) : Prop := (row.map Prod.fst).count idColumn ≤ 1

namespace Row

variable {row : Row} {value : Value}

/-- The value of a column is that of the first entry under its name. -/
theorem get?_eq_head? (row : Row) (column : String) :
    row.get? column = (row.filter (·.1 == column)).head?.map Prod.snd := by
  induction row with
  | nil => rfl
  | cons entry row ih =>
    obtain ⟨name, value⟩ := entry
    by_cases here : name = column <;> simp [Row.get?, here, ih]

/-- The entry of the id is the only one. -/
theorem HasSingleId.filter_eq (single : row.HasSingleId) (h : (idColumn, value) ∈ row) :
    row.filter (·.1 == idColumn) = [(idColumn, value)] := by
  have few : (row.filter (·.1 == idColumn)).length ≤ 1 := by
    rw [HasSingleId, List.count_eq_countP, List.countP_map, List.countP_eq_length_filter] at single
    exact single
  have listed : (idColumn, value) ∈ row.filter (·.1 == idColumn) := List.mem_filter.2 ⟨h, by simp⟩
  -- The one entry of the id is among at most one.
  cases found : row.filter (·.1 == idColumn) with
  | nil => simp [found] at listed
  | cons first others =>
    rw [found] at few listed
    have none : others = [] := List.eq_nil_of_length_eq_zero (by simpa using few)
    subst none
    rw [List.mem_singleton.1 listed]

/-- So it is the one that is found. -/
theorem HasSingleId.get?_eq (single : row.HasSingleId) (h : (idColumn, value) ∈ row) :
    row.get? idColumn = some value := by
  rw [get?_eq_head?, single.filter_eq h]
  rfl

/-- A value of the id that is found stands in the row. -/
theorem get?_eq_some (h : row.get? idColumn = some value) : (idColumn, value) ∈ row := by
  rw [get?_eq_head?, Option.map_eq_some_iff] at h
  obtain ⟨⟨column, found⟩, first, same⟩ := h
  obtain ⟨listed, id⟩ := List.mem_filter.1 (List.mem_of_mem_head? first)
  cases same
  cases (beq_iff_eq.1 id : column = idColumn)
  exact listed

theorem get?_eq_none (h : idColumn ∉ row.map Prod.fst) : row.get? idColumn = none := by
  cases found : row.get? idColumn with
  | none => rfl
  | some value => exact absurd (List.mem_map_of_mem (get?_eq_some found)) h

end Row

/-! ## §3 Rows that are compiled -/

namespace Mapper

variable {makeId : IdMode → Option String} {m : Model} {data : Row} {id : String}

/-- An id that counts as true stays, and so does any if none is made. -/
theorem dataWithId_of_kept
    (kept : makeId m.idMode = none ∨ ∃ value, data.get? idColumn = some value ∧ ¬ value.Falsy) :
    dataWithId makeId m data = data := by
  unfold dataWithId
  split
  case isTrue => rfl
  case isFalse untrue =>
    rcases kept with none | ⟨value, found, counts⟩
    · rw [none]
    · rw [found, Option.any_some, Bool.not_eq_true, Value.isTruthy_eq_false_iff] at untrue
      exact absurd untrue counts

/-- An id that is made takes the place of one that counts as false, in front. -/
theorem dataWithId_of_made (made : makeId m.idMode = some id)
    (falsy : ∀ value, data.get? idColumn = some value → value.Falsy) :
    dataWithId makeId m data = (idColumn, .string id) :: data.filter (·.1 != idColumn) := by
  have untrue : (data.get? idColumn).any Value.isTruthy = false := by
    cases found : data.get? idColumn with
    | none => rfl
    | some value => exact Value.isTruthy_eq_false_iff.2 (falsy value found)
  rw [dataWithId, untrue, made]
  rfl

/-- The data stay as they are, or the id that was made takes the place of theirs. -/
theorem dataWithId_cases (makeId : IdMode → Option String) (m : Model) (data : Row) :
    ((makeId m.idMode = none ∨ ∃ value, data.get? idColumn = some value ∧ ¬ value.Falsy) ∧
        dataWithId makeId m data = data) ∨
      ∃ id, makeId m.idMode = some id ∧
        dataWithId makeId m data = (idColumn, .string id) :: data.filter (·.1 != idColumn) := by
  -- An id is made if there is one to make and none that counts.
  by_cases kept : makeId m.idMode = none ∨ ∃ value, data.get? idColumn = some value ∧ ¬ value.Falsy
  · exact .inl ⟨kept, dataWithId_of_kept kept⟩
  · obtain ⟨some, falsy⟩ := not_or.1 kept
    obtain ⟨id, made⟩ := Option.ne_none_iff_exists'.1 some
    refine .inr ⟨id, made, dataWithId_of_made made fun value found => ?_⟩
    by_contra counts
    exact falsy ⟨value, found, counts⟩

/-- Whatever becomes of the id, the other entries stay. -/
theorem filter_dataWithId :
    (dataWithId makeId m data).filter (·.1 != idColumn) = data.filter (·.1 != idColumn) := by
  rcases dataWithId_cases makeId m data with ⟨-, same⟩ | ⟨id, -, same⟩
  · rw [same]
  · simp [same]

/-- There is still one id at most. -/
theorem hasSingleId_dataWithId (single : data.HasSingleId) :
    (dataWithId makeId m data).HasSingleId := by
  rcases dataWithId_cases makeId m data with ⟨-, same⟩ | ⟨id, -, same⟩
  · rwa [same]
  · have none : idColumn ∉ (data.filter (·.1 != idColumn)).map Prod.fst := by simp
    rw [same, Row.HasSingleId, List.map_cons, List.count_cons_self, List.count_eq_zero.2 none]

end Mapper

/-! ## §4 Pairs of a statement -/

namespace Model

variable {m : Model} {data others : Row} {pairs : List (String × Sql.Literal)}

theorem declaredEntries_append (m : Model) (data others : Row) :
    m.declaredEntries (data ++ others) = m.declaredEntries data ++ m.declaredEntries others :=
      List.filter_append ..

theorem declaredEntries_id (m : Model) (value : Value) (data : Row) :
    m.declaredEntries ((idColumn, value) :: data) = (idColumn, value) :: m.declaredEntries data :=
  List.filter_cons_of_pos (by simp)

/-- The pairs of two rows are those of the one and then those of the other. -/
theorem Encodes.append_inv (h : m.Encodes (data ++ others) pairs) :
    ∃ first rest, pairs = first ++ rest ∧ m.Encodes data first ∧ m.Encodes others rest := by
  induction data generalizing pairs with
  | nil => exact ⟨[], pairs, rfl, .nil, h⟩
  | cons entry data ih =>
    cases h with
    | cons here later =>
      obtain ⟨first, rest, rfl, encodes, encodes'⟩ := ih later
      exact ⟨_ :: first, rest, rfl, .cons here encodes, encodes'⟩

/-- Entries are chosen by their keys before or after they are encoded. -/
theorem Encodes.filter (h : m.Encodes (m.declaredEntries data) pairs) (chosen : String → Bool) :
    m.Encodes (m.declaredEntries (data.filter fun entry => chosen entry.1))
      (pairs.filter fun pair => chosen pair.1) := by
  have entries : m.declaredEntries (data.filter fun entry => chosen entry.1) =
      (m.declaredEntries data).filter fun entry => chosen entry.1 := List.filter_comm ..
  rw [entries]
  refine List.rel_filter (fun entry pair both => ?_) h
  show chosen entry.1 = true ↔ chosen pair.1 = true
  rw [both.1]

/-- Entries that are encoded give a statement, from which their pairs are read back. -/
theorem exists_insert_of_encodes (h : m.Encodes (m.declaredEntries data) pairs) :
    ∃ i, m.insert data = .ok i ∧ Sql.readInsert? i.text = some (newRow m.tableName pairs) := by
  have same : (pairs.map fun pair => (⟨pair.1, pair.2⟩ : Sql.Assignment)).map
      (fun a => (a.column, a.literal)) =
      pairs := by
    rw [List.map_map]
    exact List.map_id pairs
  have made : m.insert data = .ok ⟨m.tableName, pairs.map fun pair => ⟨pair.1, pair.2⟩⟩ :=
    insert_eq_ok_iff.2 ⟨_, assignments_eq_ok_iff.2 (by rwa [same]), rfl⟩
  obtain ⟨read, encodes, text⟩ := readInsert?_of_insert made
  -- The same entries have no other pairs.
  cases encodes.unique h
  exact ⟨_, made, text⟩

/-- The id's pair is that of its one entry. -/
theorem Encodes.exists_id (h : m.Encodes (m.declaredEntries data) pairs) (single : data.HasSingleId)
    {value : Value} (listed : (idColumn, value) ∈ data) :
    ∃ literal, m.literal idColumn value = .ok literal ∧
      pairs.filter (·.1 == idColumn) = [(idColumn, literal)] := by
  have chosen := h.filter (· == idColumn)
  rw [single.filter_eq listed, declaredEntries_id] at chosen
  obtain ⟨literal, rest, only, written, none⟩ := chosen.cons_inv
  cases none
  exact ⟨literal, written, only⟩

/-- Pairs have the keys of their entries. -/
theorem Encodes.map_fst {entries : Row} (h : m.Encodes entries pairs) :
    pairs.map Prod.fst = entries.map Prod.fst := by
  induction h with
  | nil => rfl
  | cons here _ ih => rw [List.map_cons, List.map_cons, here.1, ih]

/-- The id is assigned exactly if it stands in the data. -/
theorem Encodes.id_mem_iff (h : m.Encodes (m.declaredEntries data) pairs) :
    idColumn ∈ pairs.map Prod.fst ↔ idColumn ∈ data.map Prod.fst := by
  rw [h.map_fst]
  simp [declaredEntries]

end Model

/-! ## §5 Created rows -/

open Model (newRow)

/-- How the pairs of a statement for a new row and the value that is given back go together with the
data, for the id that is made here and the number that the server reports, if there are these. -/
structure CreatedRow (m : Model) (made : Option String) (data : Row) (reported : Option UInt64)
    (v : Value) (pairs : List (String × Sql.Literal)) : Prop where
  counted : ∀ n, reported = some n → v = .ofUInt64 n
  /-- Without a number from the server, the value is the one whose literal is assigned to the id. -/
  assigned : reported = none → ∀ literal, (idColumn, literal) ∈ pairs →
    m.literal idColumn v = .ok literal
  unassigned : reported = none → idColumn ∉ pairs.map Prod.fst → v = .null
  /-- An id in the data stays in its place if it counts as true, or if none is made. -/
  given : ∀ before value after, data = before ++ (idColumn, value) :: after →
    made = none ∨ ¬ value.Falsy →
    ∃ first literal rest, pairs = first ++ (idColumn, literal) :: rest ∧
      m.Encodes (m.declaredEntries before) first ∧ m.literal idColumn value = .ok literal ∧
      m.Encodes (m.declaredEntries after) rest ∧ (reported = none → v = value)
  /-- Otherwise the id that is made comes first. -/
  generated : ∀ id, made = some id → (∀ value, (idColumn, value) ∈ data → value.Falsy) →
    ∃ rest, pairs = (idColumn, .quoted id) :: rest ∧ (reported = none → v = .string id)
  quoted : m.idMode.isUuid = true →
    ∃ s, s ≠ "" ∧ pairs.filter (·.1 == idColumn) = [(idColumn, .quoted s)]
  /-- All other pairs are those of the data without their id. -/
  others : ∃ i, m.insert (data.filter (·.1 != idColumn)) = .ok i ∧
    Sql.readInsert? i.text = some (newRow m.tableName (pairs.filter (·.1 != idColumn)))

namespace Mapper

variable {σ : Type} {mapper : Mapper} {name : String} {makeId : IdMode → Option String} {m : Model}
    {data : Row}
  {pairs : List (String × Sql.Literal)}

/-- A row was made if its statement was answered by what it did. -/
theorem create_eq_ok {g : Gateway σ} {state : σ} {v : Value} (known : mapper.model name = .ok m)
    (created : ((mapper.create makeId name data).run g state).result = .ok v) :
    ∃ i info, m.insert (dataWithId makeId m data) = .ok i ∧
      ((mapper.create makeId name data).run g state).sent = [i.text] ∧
      (g.execute state i.text).1 = .ok (.affected info) ∧
      (∀ n, info.insertId = some n → v = .ofUInt64 n) ∧
      (info.insertId = none → v = .ofOption ((dataWithId makeId m data).get? idColumn)) := by
  obtain ⟨model, sql, found, compiled, sent, result⟩ := perform_eq_ok g state created
  cases found.symm.trans known
  obtain ⟨i, made, rfl⟩ : ∃ i, m.insert (dataWithId makeId m data) = .ok i ∧ i.text = sql := by
    cases made : m.insert (dataWithId makeId m data) with
    | error e => simp [made, Except.map] at compiled
    | ok i => exact ⟨i, rfl, by simpa [made, Except.map] using compiled⟩
  -- Nothing but a number of changed rows is a success, and it says which id was counted.
  split at result
  case h_1 => cases result
  case h_2 info read =>
    refine ⟨i, info, made, sent, eq_affected_of_infoOf read, ?_⟩
    cases reported : info.insertId with
    | none =>
      simp only [reported, Except.ok.injEq] at result
      exact ⟨nofun, fun _ => result.symm⟩
    | some n =>
      simp only [reported, Except.ok.injEq] at result
      refine ⟨?_, nofun⟩
      rintro _ ⟨⟩
      exact result.symm

/-- The parts of `CreatedRow`, from the row that is compiled. -/
theorem createdRow_of_encodes (single : data.HasSingleId) (shape : m.idMode.Makes (makeId m.idMode))
    (encodes : m.Encodes (m.declaredEntries (dataWithId makeId m data)) pairs)
    {reported : Option UInt64} {v : Value} (counted : ∀ n, reported = some n → v = .ofUInt64 n)
    (looked : reported = none → v = .ofOption ((dataWithId makeId m data).get? idColumn)) :
    CreatedRow m (makeId m.idMode) data reported v pairs := by
  have single' : (dataWithId makeId m data).HasSingleId := hasSingleId_dataWithId single
  refine ⟨counted, ?_, ?_, ?_, ?_, ?_, ?_⟩
  · -- The pair comes from an entry of the id, and there is no other for the result to come from.
    intro none literal listed
    obtain ⟨⟨_, value⟩, entry, rfl⟩ :=
      List.mem_map.1 (encodes.id_mem_iff.1 (List.mem_map_of_mem listed))
    obtain ⟨found, written, only⟩ := encodes.exists_id single' entry
    have same : (idColumn, literal) ∈ [(idColumn, found)] :=
      only ▸ List.mem_filter.2 ⟨listed, by simp⟩
    cases List.mem_singleton.1 same
    rw [looked none, single'.get?_eq entry]
    exact written
  · -- No pair, so no entry to look up.
    intro none missing
    rw [looked none, Row.get?_eq_none fun there => missing (encodes.id_mem_iff.2 there)]
    rfl
  · -- The data are compiled as they are, so that the pairs split where the data do.
    intro before value after split kept
    have entry : (idColumn, value) ∈ data := by simp [split]
    have found : data.get? idColumn = some value := single.get?_eq entry
    have same : dataWithId makeId m data = data :=
      dataWithId_of_kept (kept.imp_right fun counts => ⟨value, found, counts⟩)
    rw [same, split, Model.declaredEntries_append, Model.declaredEntries_id] at encodes
    obtain ⟨first, _, rfl, encodesFirst, later⟩ := encodes.append_inv
    obtain ⟨literal, rest, rfl, written, encodesRest⟩ := later.cons_inv
    refine ⟨first, literal, rest, rfl, encodesFirst, written, encodesRest, fun none => ?_⟩
    rw [looked none, same, found]
    rfl
  · -- The id that is made is put in front, and so is its pair.
    intro id made falsy
    have same : dataWithId makeId m data =
        (idColumn, .string id) :: data.filter (·.1 != idColumn) :=
      dataWithId_of_made made fun value found => falsy value (Row.get?_eq_some found)
    have uuid : m.idMode.isUuid = true := by
      cases mode : m.idMode.isUuid with
      | true => rfl
      | false => cases made.symm.trans (shape.eq_none_iff.2 mode)
    rw [same, Model.declaredEntries_id] at encodes
    obtain ⟨literal, rest, rfl, written, -⟩ := encodes.cons_inv
    cases written.symm.trans (Model.literal_string_of_uuid uuid id)
    refine ⟨rest, rfl, fun none => ?_⟩
    rw [looked none, same]
    rfl
  · -- Either way there is one entry of the id, and a text is written for its value.
    intro uuid
    rcases dataWithId_cases makeId m data
      with ⟨none | ⟨value, found, counts⟩, same⟩ | ⟨id, made, same⟩
    · cases uuid.symm.trans (shape.eq_none_iff.1 none)
    · rw [same] at encodes
      obtain ⟨literal, written, only⟩ := encodes.exists_id single (Row.get?_eq_some found)
      obtain ⟨s, nonempty, rfl⟩ := Model.exists_quoted_of_uuid uuid counts written
      exact ⟨s, nonempty, only⟩
    · have entry : (idColumn, .string id) ∈ dataWithId makeId m data := by simp [same]
      obtain ⟨literal, written, only⟩ := encodes.exists_id single' entry
      cases written.symm.trans (Model.literal_string_of_uuid uuid id)
      exact ⟨id, shape.ne_empty id made, only⟩
  · -- What is put into the data is an id, so that the other entries are the same.
    have rest := encodes.filter (· != idColumn)
    rw [filter_dataWithId] at rest
    exact Model.exists_insert_of_encodes rest

/-- **The id that is given back is the one that was written.**  Whenever a row was made from data
with one id at most, a single statement was sent and answered by what it did, and its text is read
as pairs that go together with the data and the value that is given back. -/
theorem create_returnsId (known : mapper.model name = .ok m) (single : data.HasSingleId)
    (shape : m.idMode.Makes (makeId m.idMode)) (g : Gateway σ) (state : σ) {v : Value}
    (created : ((mapper.create makeId name data).run g state).result = .ok v) :
    ∃ sql info pairs, ((mapper.create makeId name data).run g state).sent = [sql] ∧
      (g.execute state sql).1 = .ok (.affected info) ∧
        Sql.readInsert? sql = some (newRow m.tableName pairs) ∧
      CreatedRow m (makeId m.idMode) data info.insertId v pairs := by
  obtain ⟨i, info, made, sent, answered, counted, looked⟩ := create_eq_ok known created
  -- The pairs are read from the text that was sent.
  obtain ⟨pairs, encodes, read⟩ := Model.readInsert?_of_insert made
  exact ⟨i.text, info, pairs, sent, answered, read,
    createdRow_of_encodes single shape encodes counted looked⟩

/-- A model whose ids are random UUIDs. -/
def tickets : Model := ⟨"ticket", none, [.ofType "title" .string], [], ⟨none, .random⟩⟩

def ticketMapper : Mapper := ⟨Registry.empty.insert tickets, .default⟩

/-- The first id of a source with a fixed seed. -/
def firstId : String :=
  let (first, seed) := IdSource.nextWord 0
  (Uuid.random first (IdSource.nextWord seed).1).text

/-- Ids as the source makes them. -/
def firstIds (mode : IdMode) : Option String := ((IdSource.make ⟨0, 0, 0, 0⟩ mode).1).map Uuid.text

/-- A gateway that carries out every statement and counts no ids. -/
def obedient : Gateway Unit := ⟨fun state _ => (.ok (.affected ⟨1, none⟩), state)⟩

/-- A ticket with an id behind its title. -/
def ticket (id : Value) : Row := [("title", .string "late"), ("id", id)]

def createTicket (id : Value) : Exchange.Outcome Unit (Except MapperError Value) :=
  (ticketMapper.create firstIds "ticket" (ticket id)).run obedient ()

/-- The id 7 counts as true and is kept, the text `0` does not and an id is made. -/
theorem create_returnsId_tickets :
    (∃ sql, (createTicket (.int 7)).result = .ok (.int 7) ∧ (createTicket (.int 7)).sent = [sql] ∧
      Sql.readInsert? sql =
        some (newRow "ticket" [("title", .quoted "late"), ("id", .quoted "7")])) ∧
    ∃ sql rest, (createTicket (.string "0")).result = .ok (.string firstId) ∧
      (createTicket (.string "0")).sent = [sql] ∧
      Sql.readInsert? sql = some (newRow "ticket" (("id", .quoted firstId) :: rest)) := by
  have known : ticketMapper.model "ticket" = .ok tickets := rfl
  have single (id : Value) : (ticket id).HasSingleId := by
    show ["title", "id"].count idColumn ≤ 1
    decide
  have shape : tickets.idMode.Makes (firstIds tickets.idMode) := IdSource.makes_make _ _
  constructor
  · have created : (createTicket (.int 7)).result = .ok (.int 7) := rfl
    obtain ⟨sql, info, pairs, sent, -, read, row⟩ :=
      create_returnsId known (single _) shape obedient () created
    have counts : ¬ (Value.int 7).Falsy := by
      rw [← Value.isTruthy_eq_false_iff]
      decide
    obtain ⟨first, literal, rest, rfl, before, written, after, -⟩ :=
      row.given [_] _ [] rfl (.inr counts)
    cases before.unique (.cons ⟨rfl, rfl⟩ .nil : tickets.Encodes _ [("title", .quoted "late")])
    have text : tickets.literal idColumn (.int 7) = .ok (.quoted "7") := rfl
    cases Except.ok.inj (written.symm.trans text)
    cases after
    exact ⟨sql, created, sent, read⟩
  · have created : (createTicket (.string "0")).result = .ok (.string firstId) := rfl
    obtain ⟨sql, info, pairs, sent, -, read, row⟩ :=
      create_returnsId known (single _) shape obedient () created
    have falsy : ∀ value, (idColumn, value) ∈ ticket (.string "0") → value.Falsy := by
      simp [ticket, idColumn, Value.Falsy.zeroText]
    obtain ⟨rest, rfl, -⟩ := row.generated firstId rfl falsy
    exact ⟨sql, rest, created, sent, read⟩

end Mapper

end TableMapper
