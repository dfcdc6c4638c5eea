/-!
# Reading UTF-8 with replacement

`decodeLossy` turns any sequence of octets into characters.  Well-formed sequences give their
characters; where the octets are ill-formed, each maximal prefix of a well-formed sequence is
replaced by one U+FFFD, and an octet that can begin no sequence by one of its own.
-/

namespace TableMapper.Text

/-- The character that stands for ill-formed octets. -/
def replacement : Char := '\uFFFD'

/-- Where a reader stands inside a character: how many octets are still owed, which values the
next one may have, and the bits read so far. -/
structure Utf8State where
  owed : Nat
  low : Nat
  high : Nat
  bits : Nat
  deriving DecidableEq, Repr

/-- What a first octet announces: nothing that UTF-8 knows, a whole character, or more to come. -/
inductive Utf8Start where
  | invalid
  | single (code : Nat)
  | more (state : Utf8State)
  deriving DecidableEq, Repr

/-- The announcement of a first octet. -/
def utf8Start (b : Nat) : Utf8Start :=
  if b ≤ 0x7F then .single b
  else if b < 0xC2 then .invalid
  else if b ≤ 0xDF then .more ⟨1, 0x80, 0xBF, b - 0xC0⟩
  else if b = 0xE0 then .more ⟨2, 0xA0, 0xBF, 0⟩
  else if b = 0xED then .more ⟨2, 0x80, 0x9F, 0xD⟩
  else if b ≤ 0xEF then .more ⟨2, 0x80, 0xBF, b - 0xE0⟩
  else if b = 0xF0 then .more ⟨3, 0x90, 0xBF, 0⟩
  else if b ≤ 0xF3 then .more ⟨3, 0x80, 0xBF, b - 0xF0⟩
  else if b = 0xF4 then .more ⟨3, 0x80, 0x8F, 4⟩
  else .invalid

/-- Reads on from `pending`, the state of a character that has begun, or from between characters. -/
def decodeFrom (pending : Option Utf8State) : List UInt8 → List Char
  | [] => if pending.isSome then [replacement] else []
  | byte :: rest =>
    let b := byte.toNat
    let fresh (_ : Unit) : List Char :=
      match utf8Start b with
      | .invalid => replacement :: decodeFrom none rest
      | .single code => Char.ofNat code :: decodeFrom none rest
      | .more state => decodeFrom (some state) rest
    match pending with
    | none => fresh ()
    | some state =>
      if state.low ≤ b ∧ b ≤ state.high then
        let bits := state.bits * 64 + (b - 0x80)
        if state.owed ≤ 1 then Char.ofNat bits :: decodeFrom none rest
        else decodeFrom (some ⟨state.owed - 1, 0x80, 0xBF, bits⟩) rest
      else
        -- The octet ends the character that has begun with one replacement, and may begin one
        -- itself.
        replacement :: fresh ()

/-- The characters of a sequence of octets, ill-formed parts replaced. -/
def decodeLossy (bytes : List UInt8) : List Char :=
  decodeFrom none bytes

end TableMapper.Text
