import TableMapper.Proofs.Json.RoundTrip

/-!
# What it takes to read a document back

`Json.Readable` follows the reader down a document.  `Json.readable_iff` says the same of the
document as a whole: how deep its arrays and objects nest, and what holds of each document in it.
The keys of an object differ, and a double is read back from its numeral.
-/

namespace TableMapper.Json

/-! ## §1 Trees -/

/-- Induction on documents: what holds of an array or an object may be shown from what it holds. -/
@[elab_as_elim]
theorem tree {motive : Json → Prop} (null : motive .null) (bool : ∀ b, motive (.bool b))
    (number : ∀ n, motive (.number n)) (string : ∀ s, motive (.string s))
    (array : ∀ items, (∀ item ∈ items, motive item) → motive (.array items))
    (object : ∀ entries, (∀ entry ∈ entries, motive entry.2) → motive (.object entries))
    (j : Json) : motive j :=
  match j with
  | .null => null
  | .bool b => bool b
  | .number n => number n
  | .string s => string s
  | .array items => array items fun item _ => tree null bool number string array object item
  | .object entries => object entries fun entry _ =>
    tree null bool number string array object entry.2
termination_by sizeOf j
decreasing_by
  · rename_i listed
    have smaller := List.sizeOf_lt_of_mem listed
    simp only [Json.array.sizeOf_spec]
    omega
  · rename_i listed
    have smaller := List.sizeOf_lt_of_mem listed
    have parts : sizeOf entry = 1 + sizeOf entry.1 + sizeOf entry.2 := rfl
    simp only [Json.object.sizeOf_spec]
    omega

mutual

/-- The document and all that is in it. -/
def parts : Json → List Json
  | .array items => .array items :: partsOfItems items
  | .object entries => .object entries :: partsOfEntries entries
  | j => [j]

def partsOfItems : List Json → List Json
  | [] => []
  | item :: rest => parts item ++ partsOfItems rest

def partsOfEntries : List (String × Json) → List Json
  | [] => []
  | (_, value) :: rest => parts value ++ partsOfEntries rest

end

/-- Items nest at most so deep exactly if each of them does. -/
theorem nestingOfItems_le_iff {d : Nat} {items : List Json} :
    nestingOfItems items ≤ d ↔ ∀ item ∈ items, item.nesting ≤ d := by
  induction items with
  | nil => simp [nestingOfItems]
  | cons item items ih => simp [nestingOfItems, ih]

/-- Entries nest at most so deep exactly if the value of each does. -/
theorem nestingOfEntries_le_iff {d : Nat} {entries : List (String × Json)} :
    nestingOfEntries entries ≤ d ↔ ∀ entry ∈ entries, entry.2.nesting ≤ d := by
  induction entries with
  | nil => simp [nestingOfEntries]
  | cons entry entries ih => simp [nestingOfEntries, ih]

/-- A text or null holds no container. -/
theorem nesting_ofOption (text : Option String) : (ofOption text).nesting = 0 := by
  cases text <;> rfl

/-- The parts of items are those of each, one item after another. -/
theorem partsOfItems_eq (items : List Json) : partsOfItems items = items.flatMap parts := by
  induction items with
  | nil => rfl
  | cons item items ih => rw [partsOfItems, ih, List.flatMap_cons]

/-- The parts of entries are those of their values. -/
theorem partsOfEntries_eq (entries : List (String × Json)) :
    partsOfEntries entries = entries.flatMap fun entry => entry.2.parts := by
  induction entries with
  | nil => rfl
  | cons entry entries ih => rw [partsOfEntries, ih, List.flatMap_cons]

/-- What holds throughout an array holds of the array itself and throughout each item. -/
theorem forall_mem_parts_array {P : Json → Prop} {items : List Json} :
    (∀ part ∈ (Json.array items).parts, P part) ↔
      P (.array items) ∧ ∀ item ∈ items, ∀ part ∈ item.parts, P part := by
  rw [parts, partsOfItems_eq, List.forall_mem_cons, List.forall_mem_flatMap]

/-- What holds throughout an object holds of the object itself and throughout each value. -/
theorem forall_mem_parts_object {P : Json → Prop} {entries : List (String × Json)} :
    (∀ part ∈ (Json.object entries).parts, P part) ↔
      P (.object entries) ∧ ∀ entry ∈ entries, ∀ part ∈ entry.2.parts, P part := by
  rw [parts, partsOfEntries_eq, List.forall_mem_cons, List.forall_mem_flatMap]

/-! ## §2 Documents that are read back -/

/-- The keys of an object; other documents have none. -/
def keys : Json → List String
  | .object entries => entries.map (·.1)
  | _ => []

/-- Whether a double is read back from its numeral; other documents always are. -/
def doubleReadsBack : Json → Bool
  | .number (.real x finite) =>
    JsonNumber.read? (JsonNumber.real x finite).chars = some (.real x finite)
  | _ => true

/-- The keys of each object differ, as those of a map do. -/
def DistinctKeys (j : Json) : Prop := ∀ part ∈ j.parts, part.keys.Nodup

/-- Each double is read back from its numeral. -/
def DoublesReadBack (j : Json) : Prop := ∀ part ∈ j.parts, part.doubleReadsBack

instance (j : Json) : Decidable j.DistinctKeys := inferInstanceAs (Decidable (∀ part ∈ j.parts, _))

instance (j : Json) : Decidable j.DoublesReadBack :=
  inferInstanceAs (Decidable (∀ part ∈ j.parts, _))

/-- An array has no keys of its own. -/
theorem distinctKeys_array {items : List Json} :
    (Json.array items).DistinctKeys ↔ ∀ item ∈ items, item.DistinctKeys :=
  forall_mem_parts_array.trans (and_iff_right List.nodup_nil)

/-- The keys of an object differ, and so do those within its values. -/
theorem distinctKeys_object {entries : List (String × Json)} :
    (Json.object entries).DistinctKeys ↔
      (entries.map (·.1)).Nodup ∧ ∀ entry ∈ entries, entry.2.DistinctKeys :=
  forall_mem_parts_object

theorem doublesReadBack_array {items : List Json} :
    (Json.array items).DoublesReadBack ↔ ∀ item ∈ items, item.DoublesReadBack :=
  forall_mem_parts_array.trans (and_iff_right rfl)

theorem doublesReadBack_object {entries : List (String × Json)} :
    (Json.object entries).DoublesReadBack ↔ ∀ entry ∈ entries, entry.2.DoublesReadBack :=
  forall_mem_parts_object.trans (and_iff_right rfl)

/-- A number alone has to be read back if it is a double. -/
theorem doublesReadBack_number {n : JsonNumber} :
    (Json.number n).DoublesReadBack ↔
      ∀ x finite, n = .real x finite → JsonNumber.read? n.chars = some n := by
  have alone : (Json.number n).DoublesReadBack ↔ (Json.number n).doubleReadsBack := by
    simp [DoublesReadBack, parts]
  rw [alone]
  cases n with
  | natural n => exact iff_of_true rfl nofun
  | negative i below => exact iff_of_true rfl nofun
  | real x finite =>
    exact decide_eq_true_iff.trans ⟨fun read _ _ _ => read, fun read => read x finite rfl⟩

/-- **What makes a document readable.** -/
theorem readable_iff {d : Nat} {j : Json} :
    j.Readable d ↔ j.nesting ≤ d ∧ j.DistinctKeys ∧ j.DoublesReadBack := by
  constructor
  · intro readable
    -- Down the document, as the reader goes.
    induction readable with
    | null | bool | string =>
      simp [nesting, DistinctKeys, DoublesReadBack, parts, keys, doubleReadsBack]
    | number real =>
      exact ⟨Nat.zero_le _, by simp [DistinctKeys, parts, keys], doublesReadBack_number.2 real⟩
    | array each ih =>
      rw [distinctKeys_array, doublesReadBack_array, nesting, Nat.add_le_add_iff_right,
        nestingOfItems_le_iff]
      exact ⟨fun i h => (ih i h).1, fun i h => (ih i h).2.1, fun i h => (ih i h).2.2⟩
    | object distinct each ih =>
      rw [distinctKeys_object, doublesReadBack_object, nesting, Nat.add_le_add_iff_right,
        nestingOfEntries_le_iff]
      exact ⟨fun e h => (ih e h).1, ⟨distinct, fun e h => (ih e h).2.1⟩, fun e h => (ih e h).2.2⟩
  · rintro ⟨deep, distinct, doubles⟩
    induction j using tree generalizing d with
    | null => exact .null
    | bool b => exact .bool b
    | number n => exact .number (doublesReadBack_number.1 doubles)
    | string s => exact .string s
    -- A container takes one level, so there is one.
    | array items ih =>
      obtain _ | d := d
      · cases deep
      rw [nesting, Nat.add_le_add_iff_right, nestingOfItems_le_iff] at deep
      rw [distinctKeys_array] at distinct
      rw [doublesReadBack_array] at doubles
      exact .array fun i h => ih i h (deep i h) (distinct i h) (doubles i h)
    | object entries ih =>
      obtain _ | d := d
      · cases deep
      rw [nesting, Nat.add_le_add_iff_right, nestingOfEntries_le_iff] at deep
      rw [distinctKeys_object] at distinct
      rw [doublesReadBack_object] at doubles
      exact .object distinct.1 fun e h => ih e h (deep e h) (distinct.2 e h) (doubles e h)

end TableMapper.Json
