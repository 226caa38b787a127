import ShapeCheck.Binary64

/-!
# Shortest decimal digits

The decimal numbers that round to a given datum fill an interval around it. `Binary64.shortest`
takes the coarsest power of ten of which a multiple lies in that interval, and there the multiple
nearest to the datum. No decimal of fewer digits reads back as the datum, since a coarser grid has
no point in the interval: the two grid points around the datum are tried on each.
-/

namespace ShapeCheck

structure ShortDecimal where
  significand : Nat
  exponent : Int
  deriving DecidableEq, Repr

inductive TieRule
  | up
  | even
  deriving DecidableEq, Repr

namespace Binary64

/-- The decimals that round to a datum: those from `low` to `high`, the ends included when
`closed`. All three numbers are in multiples of `2 ^ (-1076)`. -/
structure Neighbourhood where
  low : Nat
  value : Nat
  high : Nat
  closed : Bool

/-- The interval around a finite datum that is not zero. It reaches half the way to either
neighbour; below a power of two the next smaller datum is only half as far away. -/
def neighbourhood (x : Binary64) : Neighbourhood :=
  let step := 1 <<< (x.exponent.val - 1)
  let value := 4 * x.magnitude
  { low := if x.fraction.val = 0 ∧ 1 < x.exponent.val then value - step else value - 2 * step
    value := value
    high := value + 2 * step
    closed := x.fraction.val % 2 == 0 }

namespace Neighbourhood

def onScale (exponent : Int) (n m : Nat) : Nat × Nat :=
  if 0 ≤ exponent then ((n * Nat.pow 10 exponent.toNat) <<< 1076, m)
  else (n <<< 1076, m * Nat.pow 10 (-exponent).toNat)

def contains (i : Neighbourhood) (exponent : Int) (n : Nat) : Bool :=
  let low := onScale exponent n i.low
  let high := onScale exponent n i.high
  if i.closed then low.2 ≤ low.1 && high.1 ≤ high.2 else low.2 < low.1 && high.1 < high.2

def floorOn (i : Neighbourhood) (exponent : Int) : Nat :=
  let scale := onScale exponent 1 i.value
  scale.2 / scale.1

/-- The point of the grid of `10 ^ exponent` that stands for the datum, if one lies in the interval:
the nearer of the two points around the datum, a tie going as `tie` says. -/
def onGrid? (i : Neighbourhood) (tie : TieRule) (exponent : Int) : Option Nat :=
  let below := i.floorOn exponent
  let scale := onScale exponent (2 * below + 1) (2 * i.value)
  match i.contains exponent below, i.contains exponent (below + 1) with
  | false, false => none
  | true, false => some below
  | false, true => some (below + 1)
  | true, true =>
    if scale.2 < scale.1 then some below
    else if scale.1 < scale.2 then some (below + 1)
    else match tie with
      | .up => some (below + 1)
      | .even => some (below + below % 2)

def search (i : Neighbourhood) (tie : TieRule) (exponent : Int) : Nat → ShortDecimal
  | 0 => ⟨i.floorOn exponent, exponent⟩
  | finer + 1 =>
    match i.onGrid? tie exponent with
    | some n => ⟨n, exponent⟩
    | none => search i tie (exponent - 1) finer

end Neighbourhood

def decimalLength (n : Nat) : Nat :=
  (Nat.toDigits 10 n).length

def topExponent (x : Binary64) : Int :=
  let whole := x.magnitude >>> 1074
  if whole = 0 then 2 - (decimalLength (1 <<< 1074 / x.magnitude) : Int) else decimalLength whole

/-- The shortest decimal that reads back as a finite datum that is not zero, up to sign. The search
ends at the grid of `10 ^ (-1076)` at the latest, where the datum itself is a point. -/
def shortest (tie : TieRule) (x : Binary64) : ShortDecimal :=
  let top := x.topExponent
  x.neighbourhood.search tie top (top + 1076).toNat

end Binary64
end ShapeCheck
