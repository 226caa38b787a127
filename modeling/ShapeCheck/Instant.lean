import ShapeCheck.Calendar
import ShapeCheck.Text.Padded

/-!
# Instants

An instant is a whole number of milliseconds since 1970-01-01T00:00:00Z. It is made from a number of
milliseconds within the years that the calendar is kept for, or from seconds and nanoseconds,
which are rounded down. A nanosecond part beyond one second stands for a leap second.
-/

namespace ShapeCheck

structure Instant where
  millis : Int
  deriving DecidableEq, Repr

namespace Instant

def dayLength : Int := 86400000

def firstYear : Int := -262143
def lastYear : Int := 262142

def first : Int := Calendar.yearStart firstYear * dayLength
def last : Int := Calendar.yearStart (lastYear + 1) * dayLength - 1

def ofMillis? (millis : Int) : Option Instant :=
  if first ≤ millis ∧ millis ≤ last then some ⟨millis⟩ else none

def ofNanos (seconds : Int) (nanos : Nat) : Instant :=
  ⟨seconds * 1000 + (nanos / 1000000 : Nat)⟩

def yearText (year : Int) : String :=
  if 0 ≤ year ∧ year ≤ 9999 then Text.padded 4 year.toNat
  else (if year < 0 then "-" else "+") ++ Text.padded 4 year.natAbs

/-- The time of day of a number of milliseconds after midnight, which may run on into a leap
second. -/
def timeText (millis : Nat) : String :=
  let seconds := millis / 1000
  let carried := min seconds 86399
  Text.padded 2 (carried / 3600) ++ ":" ++ Text.padded 2 (carried / 60 % 60) ++ ":" ++
    Text.padded 2 (carried % 60 + (seconds - carried)) ++ "." ++ Text.padded 3 (millis % 1000)

/-- The ISO 8601 form in UTC, with three digits after the point of the seconds. The leap second
after the last day belongs to that day. -/
def toIso (i : Instant) : String :=
  let day := (min i.millis last) / dayLength
  let date := Calendar.dateOf day
  yearText date.year ++ "-" ++ Text.padded 2 date.month ++ "-" ++ Text.padded 2 date.day ++ "T" ++
    timeText (i.millis - day * dayLength).toNat ++ "Z"

end Instant
end ShapeCheck
