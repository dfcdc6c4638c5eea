import TableMapper.Text.Utf8

/-!
# The octets of ASCII texts

A text of ASCII characters has one octet for each character.  The reader of octets gives the
characters back, and texts are ordered as their octets are.
-/

namespace TableMapper.Text

/-- The octets of a text in UTF-8. -/
def octets (s : String) : List UInt8 := s.toByteArray.data.toList

/-- The octet of an ASCII character. -/
def asciiOctet (c : Char) : UInt8 := UInt8.ofNat c.toNat

variable {s t : List Char} {c d : Char}

theorem toNat_asciiOctet (ascii : c.toNat < 128) : (asciiOctet c).toNat = c.toNat := by
  rw [asciiOctet, UInt8.toNat_ofNat']
  omega

theorem octets_ofList_of_ascii (ascii : ∀ c ∈ s, c.toNat < 128) :
    octets (String.ofList s) = s.map asciiOctet := by
  have single : ∀ c ∈ s, String.utf8EncodeChar c = [asciiOctet c] := by
    intro c h
    have small : c.val.toNat ≤ 0x7f := Nat.le_of_lt_succ (ascii c h)
    rw [String.utf8EncodeChar, if_pos small]
    rfl
  rw [octets, String.toByteArray_ofList, List.utf8Encode, List.toList_data_toByteArray,
    List.flatMap_def, List.map_congr_left single, ← List.flatMap_def, List.map_eq_flatMap]

/-- ASCII texts are read from their octets. -/
theorem decodeLossy_octets (ascii : ∀ c ∈ s, c.toNat < 128) :
    decodeLossy (octets (String.ofList s)) = s := by
  rw [octets_ofList_of_ascii ascii, decodeLossy]
  induction s with
  | nil => rfl
  | cons c s ih =>
    have small : c.toNat < 128 := ascii c (List.mem_cons_self ..)
    -- An ASCII octet is a character by itself.
    have start : utf8Start c.toNat = .single c.toNat := if_pos (Nat.le_of_lt_succ small)
    rw [List.map_cons, decodeFrom]
    simp only [toNat_asciiOctet small, start, Char.ofNat_toNat]
    rw [ih fun d h => ascii d (List.mem_cons_of_mem _ h)]

/-- Smaller ASCII texts have smaller octets. -/
theorem octets_lt_octets (ascii : ∀ c ∈ s, c.toNat < 128) (ascii' : ∀ c ∈ t, c.toNat < 128)
    (less : s < t) :
    octets (String.ofList s) < octets (String.ofList t) := by
  rw [octets_ofList_of_ascii ascii, octets_ofList_of_ascii ascii']
  -- The order of ASCII characters is that of their octets.
  induction less with
  | nil => exact .nil
  | @cons c s t _ ih =>
    exact .cons (ih (fun d h => ascii d (List.mem_cons_of_mem _ h)) fun d h =>
      ascii' d (List.mem_cons_of_mem _ h))
  | @rel c s d t less =>
    refine .rel ?_
    rw [UInt8.lt_iff_toNat_lt, toNat_asciiOctet (ascii c (List.mem_cons_self ..)),
      toNat_asciiOctet (ascii' d (List.mem_cons_self ..))]
    exact UInt32.lt_iff_toNat_lt.1 less

end TableMapper.Text
