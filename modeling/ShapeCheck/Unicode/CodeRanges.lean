import ShapeCheck.Text.Hex

namespace ShapeCheck.Unicode

abbrev CodeRanges := List (Nat × Nat)

namespace CodeRanges

def contains (ranges : CodeRanges) (code : Nat) : Bool :=
  ranges.any fun r => r.1 ≤ code && code ≤ r.2

structure Reading where
  done : CodeRanges := []
  first : Option Nat := none
  current : Option Nat := none

def Reading.close (r : Reading) : Reading :=
  match r.first, r.current with
  | some lo, some hi => { done := (lo, hi) :: r.done }
  | none, some code => { done := (code, code) :: r.done }
  | _, none => { done := r.done }

def Reading.step (r : Reading) (c : Char) : Reading :=
  if c = ' ' ∨ c = '\n' then r.close
  else if c = '-' then { r with first := r.current, current := none }
  else { r with current := some (r.current.getD 0 * 16 + (Text.hexValue? c).getD 0) }

/-- Reads ranges written in hexadecimal and separated by blanks or line ends. A character that is no
digit counts as zero. -/
def ofText (text : String) : CodeRanges :=
  (text.toList.foldl Reading.step {}).close.done.reverse

end CodeRanges
end ShapeCheck.Unicode
