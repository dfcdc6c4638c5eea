import TableMapper.Calendar.Instant
import TableMapper.Number.Numeral
import TableMapper.Text.Blank
import TableMapper.Text.Search

/-!
# Reading instants

`Instant.read?` reads the texts in which dates arrive.  A text with a time zone is taken as it
stands (`readZoned?`).  Any other text is read as UTC, after a zone marker at its end has been cut
off (`withoutZoneMarker`), by the first of four layouts that fits it: date and time with a space or
a `T` between them, date and time without seconds, and a bare date.

The steps of a reader take the text that is left and give what they read with the rest after it.
-/

namespace TableMapper

open Numeral (takeDigits digitsValue isDigit)

namespace InstantReader

/-! ## §1 Steps -/

/-- The rest of a text that begins with `c`. -/
def expect (c : Char) : List Char → Option (List Char)
  | [] => none
  | d :: rest => if d = c then some rest else none

/-- A number of exactly `n` digits. -/
def exactDigits (n : Nat) (s : List Char) : Option (Nat × List Char) :=
  let digits := s.take n
  if digits.length = n ∧ digits.all isDigit then some (digitsValue 0 digits, s.drop n) else none

/-- A number of one to `n` digits, as many as there are, after blanks. -/
def upToDigits (n : Nat) (s : List Char) : Option (Nat × List Char) :=
  let s := Text.trimStart s
  -- A longer run of digits is left to the next step of the layout.
  let digits := (s.take n).takeWhile isDigit
  if digits.isEmpty then none else some (digitsValue 0 digits, s.drop digits.length)

/-- A year after blanks: up to four digits, or a sign and any number of digits. -/
def year (s : List Char) : Option (Int × List Char) :=
  let signed (rest : List Char) : Option (Nat × List Char) :=
    let (digits, rest) := takeDigits rest
    if digits.isEmpty then none else some (digitsValue 0 digits, rest)
  match Text.trimStart s with
  | '-' :: rest => (signed rest).map fun (n, rest) => (-(n : Int), rest)
  | '+' :: rest => (signed rest).map fun (n, rest) => ((n : Int), rest)
  | rest => (upToDigits 4 rest).map fun (n, rest) => ((n : Int), rest)

/-- The nanoseconds of the digits after a point; digits past the ninth do not count. -/
def nanosOf (digits : List Char) : Nat :=
  let kept := digits.take 9
  digitsValue 0 kept * Nat.pow 10 (9 - kept.length)

/-- An optional fraction of a second: nothing, or a point and at least one digit. -/
def fraction : List Char → Option (Nat × List Char)
  | '.' :: rest =>
    let (digits, rest) := takeDigits rest
    if digits.isEmpty then none else some (nanosOf digits, rest)
  | rest => some (0, rest)

/-- An offset from UTC in seconds: `Z`, or a sign, hours, a colon and minutes. -/
def zone : List Char → Option (Int × List Char)
  | [] => none
  | c :: rest =>
    if c = 'Z' ∨ c = 'z' then some (0, rest)
    else
      let sign? : Option Int :=
        if c = '+' then some 1 else if c = '-' ∨ c = '\u2212' then some (-1) else none
      sign?.bind fun sign => do
        let (hours, rest) ← exactDigits 2 rest
        let rest ← expect ':' rest
        let (minutes, rest) ← exactDigits 2 rest
        if hours < 24 ∧ minutes < 60 then
          some (sign * ((hours * 60 + minutes) * 60 : Nat), rest)
        else none

/-! ## §2 Layouts -/

/-- A text with a time zone: `YYYY-MM-DDTHH:MM:SS`, an optional fraction and the zone. -/
def readZoned? (s : List Char) : Option Instant := do
  let (year, s) ← exactDigits 4 s
  let s ← expect '-' s
  let (month, s) ← exactDigits 2 s
  let s ← expect '-' s
  let (day, s) ← exactDigits 2 s
  -- The `T` may be a `t` or a space.
  let s ← (expect 'T' s).or ((expect 't' s).or (expect ' ' s))
  let (hour, s) ← exactDigits 2 s
  let s ← expect ':' s
  let (minute, s) ← exactDigits 2 s
  let s ← expect ':' s
  let (second, s) ← exactDigits 2 s
  let (nanos, s) ← fraction s
  let (offset, s) ← zone s
  if s.isEmpty then Instant.ofClock? ⟨⟨year, month, day⟩, hour, minute, second, nanos⟩ offset
  else none

/-- Year, month and day with hyphens between them. -/
def date (s : List Char) : Option (CivilDate × List Char) := do
  let (year, s) ← year s
  let s ← expect '-' s
  let (month, s) ← upToDigits 2 s
  let s ← expect '-' s
  let (day, s) ← upToDigits 2 s
  some (⟨year, month, day⟩, s)

/-- Hour and minute with a colon between them. -/
def hourMinute (s : List Char) : Option (Nat × Nat × List Char) := do
  let (hour, s) ← upToDigits 2 s
  let s ← expect ':' s
  let (minute, s) ← upToDigits 2 s
  some (hour, minute, s)

/-- What stands between date and time: any blanks, or a `T`. -/
inductive Separator where
  | blanks
  | letterT
  deriving DecidableEq, Repr

def Separator.skip : Separator → List Char → Option (List Char)
  | .blanks, s => some (Text.trimStart s)
  | .letterT, s => expect 'T' s

/-- A date and a time with seconds and an optional fraction. -/
def readDateTime? (between : Separator) (s : List Char) : Option Instant := do
  let (date, s) ← date s
  let s ← between.skip s
  let (hour, minute, s) ← hourMinute s
  let s ← expect ':' s
  let (second, s) ← upToDigits 2 s
  let (nanos, s) ← fraction s
  if s.isEmpty then Instant.ofClock? ⟨date, hour, minute, second, nanos⟩ 0 else none

/-- A date and a time without seconds. -/
def readDateMinute? (s : List Char) : Option Instant := do
  let (date, s) ← date s
  let (hour, minute, s) ← hourMinute (Text.trimStart s)
  if s.isEmpty then Instant.ofClock? ⟨date, hour, minute, 0, 0⟩ 0 else none

/-- A bare date, which means its midnight. -/
def readDate? (s : List Char) : Option Instant := do
  let (date, s) ← date s
  if s.isEmpty then Instant.ofClock? ⟨date, 0, 0, 0, 0⟩ 0 else none

/-! ## §3 Zone markers -/

/-- The text before the first ` GMT` or ` UTC`, without blanks at its end and then without any `Z`
at its end. -/
def withoutZoneMarker (s : List Char) : List Char :=
  -- No marker begins inside another, so cutting twice cuts at the first of both.
  let beforeGmt := (Text.before? [' ', 'G', 'M', 'T'] s).getD s
  let kept := (Text.before? [' ', 'U', 'T', 'C'] beforeGmt).getD beforeGmt
  Text.dropWhileEnd (· == 'Z') (Text.trimEnd kept)

end InstantReader

open InstantReader in
/-- The instant of a text, blanks around it ignored. -/
def Instant.readChars? (s : List Char) : Option Instant :=
  let s := Text.trim s
  match readZoned? s with
  | some t => some t
  | none =>
    let bare := withoutZoneMarker s
    (readDateTime? .blanks bare).or <|
      (readDateTime? .letterT bare).or <|
        (readDateMinute? bare).or (readDate? bare)

def Instant.read? (s : String) : Option Instant := Instant.readChars? s.toList

end TableMapper
