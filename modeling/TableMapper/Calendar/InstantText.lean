import TableMapper.Calendar.Instant
import TableMapper.Number.Decimal

/-!
# The texts of an instant

Three texts are written, all in UTC: the one stored in a date column, the one in JSON documents, and
the one in messages that show a value.  The first two cut the time to milliseconds, the third shows
all nanoseconds there are.
-/

namespace TableMapper

open Decimal (paddedChars atLeastChars)

/-- A year in at least four digits, with a sign if it does not lie between 0 and 9999. -/
def yearChars (year : Int) : List Char :=
  -- Only these years sort as their digits do.
  if 0 ≤ year ∧ year ≤ 9999 then paddedChars 4 year.toNat
  else
    (if year < 0 then '-' else '+') :: atLeastChars 4 year.natAbs

namespace ClockReading

def dateChars (c : ClockReading) : List Char :=
  yearChars c.date.year ++ '-' :: paddedChars 2 c.date.month ++ '-' :: paddedChars 2 c.date.day

def timeChars (c : ClockReading) : List Char :=
  paddedChars 2 c.hour ++ ':' :: paddedChars 2 c.minute ++ ':' :: paddedChars 2 c.second

/-- A point and the milliseconds, cut off. -/
def milliChars (c : ClockReading) : List Char :=
  '.' :: paddedChars 3 (c.nanos / 1000000)

/-- The fraction of a second in three, six or nine digits, as many as it needs; nothing for whole
seconds. -/
def fractionChars (c : ClockReading) : List Char :=
  if c.nanos = 0 then []
  else if c.nanos % 1000000 = 0 then '.' :: paddedChars 3 (c.nanos / 1000000)
  else if c.nanos % 1000 = 0 then '.' :: paddedChars 6 (c.nanos / 1000)
  else '.' :: paddedChars 9 c.nanos

end ClockReading

namespace Instant

/-- The text of a date column: `YYYY-MM-DD HH:MM:SS.mmm`. -/
def columnChars (t : Instant) : List Char :=
  let c := t.clock
  c.dateChars ++ ' ' :: c.timeChars ++ c.milliChars

def columnText (t : Instant) : String := String.ofList t.columnChars

/-- The text in JSON documents: `YYYY-MM-DDTHH:MM:SS.mmmZ`. -/
def jsonText (t : Instant) : String :=
  let c := t.clock
  String.ofList (c.dateChars ++ 'T' :: c.timeChars ++ c.milliChars ++ ['Z'])

/-- The text in messages, with all its nanoseconds. -/
def displayText (t : Instant) : String :=
  let c := t.clock
  String.ofList (c.dateChars ++ 'T' :: c.timeChars ++ c.fractionChars ++ ['Z'])

end Instant

end TableMapper
