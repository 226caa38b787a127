import ShapeCheck.Binary64

namespace ShapeCheck

def roundHalfEven (num den : Nat) : Nat :=
  let quotient := num / den
  let remainder := num % den
  if 2 * remainder < den then quotient
  else if den < 2 * remainder then quotient + 1
  else quotient + quotient % 2

/-- `num / den` rounded to `precision` significant bits, but never finer than a whole number:
a significand of at most `2 ^ precision` and the power of two that it is taken times. -/
def roundToPrecision (precision num den : Nat) : Nat × Nat :=
  let shift := Nat.log2 (num / den) - (precision - 1)
  (roundHalfEven num (den <<< shift), shift)

namespace Binary64

/-- The datum `significand * 2 ^ shift`, in multiples of `2 ^ (-1074)`, for a significand of at most
`2 ^ 53` that is below `2 ^ 52` only where `shift` is zero. -/
def encode (negative : Bool) (significand shift : Nat) : Binary64 :=
  if significand < 1 <<< 52 then
    ofFields negative 0 significand
  else
    let exponent := if significand = 1 <<< 53 then shift + 2 else shift + 1
    if exponent < 2047 then
      ofFields negative exponent significand
    else infinity negative

def ofRatio (negative : Bool) (num den : Nat) : Binary64 :=
  let rounded := roundToPrecision 53 (num <<< 1074) den
  encode negative rounded.1 rounded.2

def ofNat (n : Nat) : Binary64 :=
  ofRatio false n 1

def ofInt (n : Int) : Binary64 :=
  ofRatio (n < 0) n.natAbs 1

/-- Whether `significand * 10 ^ exponent` is too small for any datum but zero, decided without the
power: a negative power of ten is at most the same power of eight. -/
def vanishes (significand : Nat) (exponent : Int) : Bool :=
  significand = 0 || (exponent < 0 && Nat.log2 significand + 3 * exponent < -1080)

def roundScientific (round : Bool → Nat → Nat → Binary64) (negative : Bool) (significand : Nat)
    (exponent : Int) : Binary64 :=
  if vanishes significand exponent then ofFields negative 0 0
  else if exponent < 0 then round negative significand (Nat.pow 10 (-exponent).toNat)
  -- The power is not to be computed where the result is plain without it.
  else if 400 < exponent then infinity negative
  else round negative (significand * Nat.pow 10 exponent.toNat) 1

def ofScientific : Bool → Nat → Int → Binary64 :=
  roundScientific ofRatio

def mul (x y : Binary64) : Binary64 :=
  ofRatio (x.negative != y.negative) (x.magnitude * y.magnitude) (1 <<< 2148)

def div (x y : Binary64) : Binary64 :=
  ofRatio (x.negative != y.negative) x.magnitude y.magnitude

def ofRatioSingle (negative : Bool) (num den : Nat) : Binary64 :=
  let (significand, shift) := roundToPrecision 24 (num <<< 149) den
  if 1 <<< 277 ≤ significand <<< shift then infinity negative
  else ofRatio negative (significand <<< shift) (1 <<< 149)

def ofScientificSingle : Bool → Nat → Int → Binary64 :=
  roundScientific ofRatioSingle

end Binary64
end ShapeCheck
