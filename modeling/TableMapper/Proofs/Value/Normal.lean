import TableMapper.Proofs.Json.Nesting
import TableMapper.Proofs.Number.Nearest
import TableMapper.Value.Basic

/-!
# Values as documents

A value becomes a document, and the document a value again.  What comes out (`Value.normal`) need
not be what went in: dates have become texts, doubles that are not finite null, words too large for
an integer doubles, and embedded arrays and scalars the values of them.  `Value.normal_normal` says
that nothing changes the second time.
-/

namespace TableMapper

theorem JsonNumber.toInt64?_ofInt64 (i : Int64) : (JsonNumber.ofInt64 i).toInt64? = some i := by
  unfold ofInt64
  split
  case isTrue => rfl
  case isFalse notBelow =>
    have nonneg : 0 ≤ i.toInt := by
      rw [Int64.lt_iff_toInt_lt] at notBelow
      exact Int.not_lt.1 notBelow
    have high := i.toInt_lt
    -- Not negative, so the natural numeral holds it.
    have word : i.toInt.toNat < UInt64.size := by
      show _ < 2 ^ 64
      omega
    rw [toInt64?, Word.int64?_eq_some_iff, UInt64.toNat_ofNat_of_lt' word,
      Int.toNat_of_nonneg nonneg]

namespace Value

/-- The value of the value's document. -/
def normal (v : Value) : Value := ofJson v.toJson

theorem ofJson_array (items : List Json) : ofJson (.array items) = .array (items.map ofJson) := by
  rw [ofJson, ofJsonItems_eq_map]

theorem toJson_array (items : List Value) : toJson (.array items) = .array (items.map toJson) := by
  rw [toJson, toJsonItems_eq_map]

/-- The value of a number is written as a number with the same value. -/
theorem exists_toJson_ofNumber (n : JsonNumber) :
    ∃ again, (ofNumber n).toJson = .number again ∧ ofNumber again = ofNumber n := by
  have double {x : Binary64} (finite : x.isFinite = true) :
      ∃ again, toJson (.float x) = .number again ∧ ofNumber again = .float x := by
    refine ⟨.real x finite, ?_, rfl⟩
    rw [toJson, JsonNumber.ofBinary64?, dif_pos finite]
  rw [ofNumber]
  -- A number within 64 bits stays an integer, any other becomes a double.
  cases word : n.toInt64? with
  | some i =>
    refine ⟨.ofInt64 i, rfl, ?_⟩
    rw [ofNumber, JsonNumber.toInt64?_ofInt64]
  | none =>
    cases n with
    | natural n => exact double (Binary64.isFinite_ofInt n.toNat_lt)
    | negative i below => cases word
    | real x finite => exact double finite

theorem ofJson_toJson_ofJson (j : Json) : ofJson (ofJson j).toJson = ofJson j := by
  induction j using Json.tree with
  | null | bool | string => rfl
  | number n =>
    obtain ⟨again, document, same⟩ := exists_toJson_ofNumber n
    show ofJson (ofNumber n).toJson = ofNumber n
    rw [document]
    exact same
  | array items ih =>
    rw [ofJson_array, toJson_array, ofJson_array, List.map_map, List.map_map]
    exact congrArg array (List.map_congr_left ih)
  -- An object stays the document it is.
  | object entries => rfl

/-- **What has become a value of a document stays that value.** -/
theorem normal_normal (v : Value) : v.normal.normal = v.normal := ofJson_toJson_ofJson v.toJson

/-- The value of a readable document is written as a readable one.  Only its doubles may be new. -/
theorem readable_toJson_ofJson {d : Nat} {j : Json} (readable : j.Readable d)
    (doubles : (ofJson j).toJson.DoublesReadBack) : (ofJson j).toJson.Readable d := by
  induction readable with
  | null => exact .null
  | bool b => exact .bool b
  -- Only a number can come back in another form.
  | @number d n =>
    obtain ⟨again, document, -⟩ := exists_toJson_ofNumber n
    have numeral : (ofJson (.number n)).toJson = .number again := document
    rw [numeral] at doubles ⊢
    exact .number (Json.doublesReadBack_number.1 doubles)
  | string s => exact .string s
  | array each ih =>
    rw [ofJson_array, toJson_array] at doubles ⊢
    rw [Json.doublesReadBack_array] at doubles
    refine .array fun item listed => ?_
    obtain ⟨v, made, rfl⟩ := List.mem_map.1 listed
    obtain ⟨j, inside, rfl⟩ := List.mem_map.1 made
    exact ih j inside (doubles _ listed)
  | object distinct each => exact .object distinct each

end Value

end TableMapper
