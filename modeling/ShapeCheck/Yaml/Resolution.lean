import ShapeCheck.Numeral
import ShapeCheck.Text.Hex
import ShapeCheck.Yaml

namespace ShapeCheck.Yaml

def isNullWord (s : String) : Bool :=
  ["null", "Null", "NULL", "~"].contains s

def bool? (s : String) : Option Bool :=
  if ["true", "True", "TRUE"].contains s then some true
  else if ["false", "False", "FALSE"].contains s then some false
  else none

def ofDigits? (base : Nat) (digits : List Char) : Option Nat :=
  if digits.isEmpty then none
  else digits.foldlM (fun n c => do
    let d ← Text.hexValue? c
    if d < base then some (n * base + d) else none) 0

def splitBase : List Char → Nat × List Char
  | '0' :: 'x' :: digits => (16, digits)
  | '0' :: 'o' :: digits => (8, digits)
  | '0' :: 'b' :: digits => (2, digits)
  | digits => (10, digits)

def hasLeadingZero : List Char → Bool
  | '0' :: c :: rest => (c :: rest).all Char.isDigit
  | _ => false

/-- The whole number that a text is, of any size. Decimal digits start with a zero only if there is
no other. -/
def wholeNumber? (s : String) : Option Int :=
  let (sign, body) := Numeral.takeSign s.toList
  if hasLeadingZero body then none
  else
    let (base, digits) := splitBase body
    (ofDigits? base digits).map fun n => if sign = some '-' then -n else n

inductive Size
  | fits
  | tooLarge
  | huge
  deriving DecidableEq

def sizeOf (n : Int) : Size :=
  if -0x8000000000000000 ≤ n ∧ n < 0x10000000000000000 then .fits
  else if -0x80000000000000000000000000000000 ≤ n ∧
      n < 0x100000000000000000000000000000000 then .tooLarge
  else .huge

def float? (s : String) : Option Binary64 :=
  if [".inf", ".Inf", ".INF", "+.inf", "+.Inf", "+.INF"].contains s then some (.infinity false)
  else if ["-.inf", "-.Inf", "-.INF"].contains s then some (.infinity true)
  else if [".nan", ".NaN", ".NAN"].contains s then some .nan
  else
    match Binary64.read? s with
    | some x => if x.isFinite then some x else none
    | none => none

def floatOrText (s : String) : Yaml :=
  if hasLeadingZero (Numeral.takeSign s.toList).2 then string s
  else
    match float? s with
    | some x => number (.float x)
    | none => string s

def ofPlain? (s : String) : Option Yaml :=
  if s.isEmpty || isNullWord s then some null
  else
    match bool? s, wholeNumber? s with
    | some b, _ => some (bool b)
    | none, none => some (floatOrText s)
    | none, some n =>
      match sizeOf n with
      | .fits => some (number (.int n))
      -- Such a number has at most 128 bits, and is an error and no float.
      | .tooLarge => none
      | .huge => some (floatOrText s)

def ofUntagged? (s : String) (plain : Bool) : Option Yaml :=
  if plain then ofPlain? s else some (string s)

def coreTag : String := "tag:yaml.org,2002:"

def ofTagged? (tag s : String) : Option Yaml :=
  if tag = coreTag ++ "bool" then (bool? s).map bool
  else if tag = coreTag ++ "int" then
    (wholeNumber? s).bind fun n => if sizeOf n = .fits then some (number (.int n)) else none
  else if tag = coreTag ++ "float" then (float? s).map fun x => number (.float x)
  else if tag = coreTag ++ "null" then if isNullWord s then some null else none
  else some (string s)

def ofScalar? (tag : Option String) (s : String) (plain : Bool) : Option Yaml :=
  match tag with
  | some tag => ofTagged? tag s
  | none => ofUntagged? s plain

end ShapeCheck.Yaml
