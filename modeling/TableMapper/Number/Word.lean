/-!
# Numbers that fit a word

Which integers fit a machine word, and the word of those that do.  Each function gives the word
whose value is the number, and nothing if there is none; the laws say exactly this.
-/

namespace TableMapper.Word

/-- The signed word of 64 bits with a value. -/
def int64? (i : Int) : Option Int64 :=
  if Int64.minValue.toInt ≤ i ∧ i ≤ Int64.maxValue.toInt then some (Int64.ofInt i) else none

/-- The word of 64 bits without sign with a value. -/
def uint64? (n : Nat) : Option UInt64 :=
  if h : n < UInt64.size then some (UInt64.ofNatLT n h) else none

/-- The word of 32 bits without sign with a value. -/
def uint32? (n : Nat) : Option UInt32 :=
  if h : n < UInt32.size then some (UInt32.ofNatLT n h) else none

/-- The word of 16 bits without sign with a value. -/
def uint16? (n : Nat) : Option UInt16 :=
  if h : n < UInt16.size then some (UInt16.ofNatLT n h) else none

/-! ## Laws -/

/-- The signed word found is the one with the value. -/
theorem int64?_eq_some_iff {i : Int} {w : Int64} : int64? i = some w ↔ w.toInt = i := by
  unfold int64?
  constructor
  · intro h
    split at h
    case isTrue fits =>
      obtain rfl := Option.some.inj h
      have low : -9223372036854775808 ≤ i := fits.1
      have high : i ≤ 9223372036854775807 := fits.2
      exact Int64.toInt_ofInt_of_le low (Int.lt_of_le_sub_one high)
    case isFalse => cases h
  · intro h
    subst h
    have low := Int64.minValue_le_toInt w
    have high := Int64.toInt_le w
    rw [if_pos ⟨by simpa using low, by simpa using high⟩, Int64.ofInt_toInt]

/-- A 64-bit word is read exactly from its own number. -/
theorem uint64?_eq_some_iff {n : Nat} {w : UInt64} : uint64? n = some w ↔ w.toNat = n := by
  unfold uint64?
  constructor
  · intro h
    split at h
    case isTrue fits =>
      obtain rfl := Option.some.inj h
      exact UInt64.toNat_ofNatLT
    case isFalse => cases h
  · intro h
    subst h
    rw [dif_pos w.toNat_lt_size, UInt64.ofNatLT_toNat]

/-- A 32-bit word is read exactly from its own number. -/
theorem uint32?_eq_some_iff {n : Nat} {w : UInt32} : uint32? n = some w ↔ w.toNat = n := by
  unfold uint32?
  constructor
  · intro h
    split at h
    case isTrue fits =>
      obtain rfl := Option.some.inj h
      exact UInt32.toNat_ofNatLT
    case isFalse => cases h
  · intro h
    subst h
    rw [dif_pos w.toNat_lt_size, UInt32.ofNatLT_toNat]

/-- A 16-bit word is read exactly from its own number. -/
theorem uint16?_eq_some_iff {n : Nat} {w : UInt16} : uint16? n = some w ↔ w.toNat = n := by
  unfold uint16?
  constructor
  · intro h
    split at h
    case isTrue fits =>
      obtain rfl := Option.some.inj h
      exact UInt16.toNat_ofNatLT
    case isFalse => cases h
  · intro h
    subst h
    rw [dif_pos w.toNat_lt_size, UInt16.ofNatLT_toNat]

end TableMapper.Word
