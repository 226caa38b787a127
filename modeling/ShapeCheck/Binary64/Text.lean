import ShapeCheck.Binary64.Shortest

namespace ShapeCheck

structure NumberStyle where
  tie : TieRule
  /-- The decimal exponents of the leading digit that are written positionally. -/
  leastPositional : Int
  greatestPositional : Int
  wholeSuffix : String
  exponentPlus : String
  zero : String
  nan : String
  infinity : String

namespace NumberStyle

def message : NumberStyle where
  tie := .up
  leastPositional := -6
  greatestPositional := 20
  wholeSuffix := ""
  exponentPlus := "+"
  zero := "0"
  nan := "NaN"
  infinity := "Infinity"

def mappingKey : NumberStyle where
  tie := .even
  leastPositional := -5
  greatestPositional := 15
  wholeSuffix := ".0"
  exponentPlus := ""
  zero := "0.0"
  nan := ".nan"
  infinity := ".inf"

def report : NumberStyle :=
  { message with infinity := "inf" }

end NumberStyle

namespace ShortDecimal

def leadingExponent (d : ShortDecimal) : Int :=
  d.exponent + (Nat.toDigits 10 d.significand).length - 1

def positional (wholeSuffix : String) (d : ShortDecimal) : String :=
  let digits := Nat.toDigits 10 d.significand
  if 0 ≤ d.exponent then
    String.ofList (digits ++ List.replicate d.exponent.toNat '0') ++ wholeSuffix
  else
    let places := (-d.exponent).toNat
    let padded := List.replicate (places + 1 - digits.length) '0' ++ digits
    let whole := padded.length - places
    String.ofList (padded.take whole ++ '.' :: padded.drop whole)

def scientific (exponentPlus : String) (d : ShortDecimal) : String :=
  let mantissa := match Nat.toDigits 10 d.significand with
    | [] => ""
    | [c] => String.ofList [c]
    | c :: rest => String.ofList (c :: '.' :: rest)
  let exponent := d.leadingExponent
  mantissa ++ "e" ++ (if 0 ≤ exponent then exponentPlus else "") ++ toString exponent

def toText (style : NumberStyle) (d : ShortDecimal) : String :=
  if style.leastPositional ≤ d.leadingExponent ∧ d.leadingExponent ≤ style.greatestPositional then
    d.positional style.wholeSuffix
  else d.scientific style.exponentPlus

end ShortDecimal

namespace Binary64

def toText (style : NumberStyle) (x : Binary64) : String :=
  if x.isNaN then style.nan
  else
    let sign := if x.negative then "-" else ""
    if x.isInfinite then sign ++ style.infinity
    -- Only where zeros have a fraction is their sign written.
    else if x.isZero then (if style.wholeSuffix.isEmpty then "" else sign) ++ style.zero
    else sign ++ (x.shortest style.tie).toText style

end Binary64
end ShapeCheck
