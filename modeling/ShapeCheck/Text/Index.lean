namespace ShapeCheck.Text

def digitValue? (c : Char) : Option Nat :=
  if '0' ≤ c ∧ c ≤ '9' then some (c.toNat - '0'.toNat) else none

def readDigits? (value : Nat) : List Char → Option Nat
  | [] => some value
  | c :: rest =>
    match digitValue? c with
    | none => none
    | some d => readDigits? (value * 10 + d) rest

def index? (key : String) : Option Nat :=
  match readDigits? 0 key.toList with
  | none => none
  | some n => if toString n = key then some n else none

end ShapeCheck.Text
