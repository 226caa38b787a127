import ShapeCheck.Binary64.Rounding
import ShapeCheck.Text.Index

namespace ShapeCheck

structure Numeral where
  sign : Option Char
  whole : List Nat
  fraction : Option (List Nat)
  exponent : Option (Option Char × List Nat)

namespace Numeral

def ofDigits (digits : List Nat) : Nat :=
  digits.foldl (fun n d => n * 10 + d) 0

def takeDigits : List Char → List Nat × List Char
  | [] => ([], [])
  | c :: rest =>
    match Text.digitValue? c with
    | none => ([], c :: rest)
    | some d => let (digits, after) := takeDigits rest; (d :: digits, after)

def takeSign : List Char → Option Char × List Char
  | '+' :: rest => (some '+', rest)
  | '-' :: rest => (some '-', rest)
  | cs => (none, cs)

def takeFraction : List Char → Option (List Nat) × List Char
  | '.' :: rest => let (digits, after) := takeDigits rest; (some digits, after)
  | cs => (none, cs)

def readExponent? : List Char → Option (Option (Option Char × List Nat))
  | [] => some none
  | c :: rest =>
    let (sign, rest) := takeSign rest
    match takeDigits rest with
    | (d :: digits, []) =>
      if c = 'e' ∨ c = 'E' then some (some (sign, d :: digits)) else none
    | _ => none

def read? (cs : List Char) : Option Numeral := do
  let (sign, cs) := takeSign cs
  let (whole, cs) := takeDigits cs
  let (fraction, cs) := takeFraction cs
  let exponent ← readExponent? cs
  return { sign, whole, fraction, exponent }

def isNegative (n : Numeral) : Bool :=
  n.sign == some '-'

def fractionDigits (n : Numeral) : List Nat :=
  n.fraction.getD []

def writtenExponent (n : Numeral) : Int :=
  match n.exponent with
  | none => 0
  | some (sign, digits) =>
    if sign = some '-' then -(ofDigits digits : Int) else ofDigits digits

def significand (n : Numeral) : Nat :=
  ofDigits (n.whole ++ n.fractionDigits)

def scale (n : Numeral) : Int :=
  n.writtenExponent - n.fractionDigits.length

def hasDigits (n : Numeral) : Bool :=
  !(n.whole.isEmpty && n.fractionDigits.isEmpty)

end Numeral

namespace Binary64

def ofWord? (word : String) : Option Binary64 :=
  if word = "inf" ∨ word = "infinity" then some (infinity false)
  else if word = "nan" then some nan
  else none

/-- The number that a text is, rounded by `round`: a numeral with a digit, or a word in any case. -/
def readWith? (round : Bool → Nat → Int → Binary64) (text : String) : Option Binary64 :=
  match Numeral.read? text.toList with
  | some n =>
    if n.hasDigits then some (round n.isNegative n.significand n.scale) else none
  | none =>
    let (sign, rest) := Numeral.takeSign text.toList
    (ofWord? (String.ofList (rest.map Char.toLower))).map fun x =>
      if sign = some '-' then x.neg else x

def read? (text : String) : Option Binary64 :=
  readWith? ofScientific text

def readSingle? (text : String) : Option Binary64 :=
  readWith? ofScientificSingle text

end Binary64
end ShapeCheck
