namespace ShapeCheck

structure CalendarDate where
  year : Int
  month : Nat
  day : Nat
  deriving DecidableEq, Repr

namespace Calendar

def isLeap (year : Int) : Bool :=
  year % 4 == 0 && (year % 100 != 0 || year % 400 == 0)

def yearStart (year : Int) : Int :=
  let past := year - 1
  365 * past + past / 4 - past / 100 + past / 400 - 719162

def monthLengths (leap : Bool) : List Nat :=
  [31, if leap then 29 else 28, 31, 30, 31, 30, 31, 31, 30, 31, 30, 31]

def monthLength (year : Int) (month : Nat) : Nat :=
  if month = 0 then 0 else (monthLengths (isLeap year)).getD (month - 1) 0

def isDate (d : CalendarDate) : Bool :=
  1 ≤ d.day && d.day ≤ monthLength d.year d.month

def daysBefore (year : Int) (month : Nat) : Nat :=
  ((monthLengths (isLeap year)).take (month - 1)).foldl (· + ·) 0

def dayNumber (d : CalendarDate) : Int :=
  yearStart d.year + daysBefore d.year d.month + d.day - 1

/-- The year that a day falls in: four hundred years have 146097 days, and the quotient is off by
one at most. -/
def yearOf (day : Int) : Int :=
  let guess := (day + 719162) * 400 / 146097 + 1
  if day < yearStart guess then guess - 1
  else if yearStart (guess + 1) ≤ day then guess + 1
  else guess

def monthAndDay (month : Nat) : List Nat → Nat → Nat × Nat
  | [], n => (month, n + 1)
  | length :: rest, n =>
    if n < length then (month, n + 1) else monthAndDay (month + 1) rest (n - length)

def dateOf (day : Int) : CalendarDate :=
  let year := yearOf day
  let (month, dayOfMonth) := monthAndDay 1 (monthLengths (isLeap year)) (day - yearStart year).toNat
  ⟨year, month, dayOfMonth⟩

end Calendar
end ShapeCheck
