import ShapeCheck.Json
import ShapeCheck.Numeral

namespace ShapeCheck

namespace Numeral

/-- Whether JSON text may hold the numeral: no plus sign, digits before the point without leading
zeros, and digits after it. -/
def isJson (n : Numeral) : Bool :=
  n.sign != some '+' && !n.whole.isEmpty && (n.whole.length == 1 || n.whole.head? != some 0) &&
    n.fraction != some []

def significandLimit : Nat := 1 <<< 64 - 1

def keepWhole (significand : Nat) : List Nat → Nat × Nat
  | [] => (significand, 0)
  | d :: rest =>
    if significand * 10 + d ≤ significandLimit then keepWhole (significand * 10 + d) rest
    else (significand, rest.length + 1)

def keepFraction (significand : Nat) : List Nat → Nat × Nat
  | [] => (significand, 0)
  | d :: rest =>
    if significand * 10 + d ≤ significandLimit then
      let (kept, taken) := keepFraction (significand * 10 + d) rest
      (kept, taken + 1)
    else (significand, 0)

end Numeral

namespace Binary64

def powerOfTen (n : Nat) : Binary64 :=
  ofNat (Nat.pow 10 n)

def downscale (x : Binary64) (n : Nat) : Binary64 :=
  if n ≤ 308 then x.div (powerOfTen n)
  else if x.isZero then x
  -- No greater power is a datum, and each step is rounded.
  else downscale (x.div (powerOfTen 308)) (n - 308)
  termination_by n

/-- `significand * 10 ^ exponent` in two roundings, if it is not too large. -/
def ofParts? (significand : Nat) (exponent : Int) : Option Binary64 :=
  let x := ofNat significand
  if exponent < 0 then some (x.downscale (-exponent).toNat)
  else if x.isZero then some x
  else if 308 < exponent then none
  else
    let product := x.mul (powerOfTen exponent.toNat)
    if product.isInfinite then none else some product

end Binary64

namespace WrittenNumber

/-- The whole number of a sign and digits that fit. Below the least number of 64 bits, and for a
zero with a sign, it is no whole number any more. -/
def ofWhole (negative : Bool) (n : Nat) : WrittenNumber :=
  if !negative then int n
  else if 0 < n ∧ n ≤ 1 <<< 63 then int (-n)
  else float (Binary64.ofNat n).neg

def ofJsonNumeral? (n : Numeral) : Option WrittenNumber :=
  let (whole, dropped) := Numeral.keepWhole 0 n.whole
  if dropped = 0 ∧ n.fraction.isNone ∧ n.exponent.isNone then some (ofWhole n.isNegative whole)
  else
    let (significand, taken) := Numeral.keepFraction whole n.fractionDigits
    let x := Binary64.ofParts? significand (dropped - taken + n.writtenExponent)
    x.map fun x => float (if n.isNegative then x.neg else x)

def readJson? (word : List Char) : Option WrittenNumber := do
  let n ← Numeral.read? word
  if n.isJson then ofJsonNumeral? n else none

end WrittenNumber
end ShapeCheck
