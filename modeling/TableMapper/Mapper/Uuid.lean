import TableMapper.Model.Basic

/-!
# Ids made here

Models whose ids are not counted by the server get UUIDs: time-based ones from a clock and a node
that stays the same, or random ones.  An `IdSource` holds what the next ids are made from, and every
id made moves it on, so that ids differ.
-/

namespace TableMapper

/-! ## §1 The text of a UUID -/

/-- A UUID, as a number of 128 bits. -/
structure Uuid where
  bits : BitVec 128
  deriving DecidableEq, Repr

namespace Uuid

/-- The last `k` hexadecimal digits of a number. -/
def hexDigits : (k n : Nat) → List Char
  | 0, _ => []
  | k + 1, n => hexDigits k (n / 16) ++ [Nat.digitChar (n % 16)]

/-- The text of a UUID: 8, 4, 4, 4 and 12 hexadecimal digits with hyphens between them. -/
def text (u : Uuid) : String :=
  let group (start digits : Nat) : List Char :=
    hexDigits digits (u.bits.extractLsb' start (4 * digits)).toNat
  String.ofList (group 96 8 ++ '-' :: group 80 4 ++ '-' :: group 64 4 ++ '-' :: group 48 4 ++
    '-' :: group 0 12)

/-- The UUID of a version with 60 bits before and 62 bits after the marks of version and variant. -/
def ofParts (high : BitVec 48) (version : BitVec 4) (middle : BitVec 12) (low : BitVec 62) : Uuid :=
  ⟨high ++ version ++ middle ++ (0b10#2 ++ low)⟩

/-- The time-based UUID of a count of 100-nanosecond ticks, a clock sequence and a node. -/
def timeBased (ticks : BitVec 60) (sequence : BitVec 14) (node : BitVec 48) : Uuid :=
  ofParts (ticks.extractLsb' 0 32 ++ ticks.extractLsb' 32 16) 1#4 (ticks.extractLsb' 48 12)
    (sequence ++ node)

/-- The random UUID of two random words. -/
def random (first second : BitVec 64) : Uuid :=
  ofParts (first.extractLsb' 0 48) 4#4 (first.extractLsb' 48 12) (second.extractLsb' 0 62)

end Uuid

/-! ## §2 Making ids -/

/-- What ids are made from. -/
structure IdSource where
  /-- The ticks of the clock, moved on by every time-based id. -/
  ticks : BitVec 60
  sequence : BitVec 14
  node : BitVec 48
  /-- The state of the random words. -/
  seed : BitVec 64
  deriving Repr

namespace IdSource

/-- A random word and the state after it: the state moves on by an odd constant, and its bits are
mixed. -/
def nextWord (seed : BitVec 64) : BitVec 64 × BitVec 64 :=
  let seed := seed + 0x9E3779B97F4A7C15#64
  let z := (seed ^^^ (seed >>> 30)) * 0xBF58476D1CE4E5B9#64
  let z := (z ^^^ (z >>> 27)) * 0x94D049BB133111EB#64
  (z ^^^ (z >>> 31), seed)

/-- The source of a clock and a seed. -/
def ofClock (ticks : BitVec 60) (seed : BitVec 64) : IdSource :=
  let (word, seed) := nextWord seed
  -- The node is random, with the bit set that marks it as no hardware address.
  ⟨ticks, word.extractLsb' 48 14, word.extractLsb' 0 48 ||| 0x010000000000#48, seed⟩

/-- The id of a new row, none if the server counts, and the source after it. -/
def make (source : IdSource) (mode : IdMode) : Option Uuid × IdSource :=
  match mode with
  | .server => (none, source)
  | .timeBased =>
    let ticks := source.ticks + 1
    (some (Uuid.timeBased ticks source.sequence source.node), { source with ticks := ticks })
  | .random =>
    let (first, seed) := nextWord source.seed
    let (second, seed) := nextWord seed
    (some (Uuid.random first second), { source with seed := seed })

end IdSource

end TableMapper
