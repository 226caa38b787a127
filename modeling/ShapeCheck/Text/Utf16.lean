namespace ShapeCheck.Text

def replacement : Char := '\uFFFD'

def unitsOfChar (c : Char) : List Char :=
  if c.toNat < 0x10000 then [c] else [replacement, replacement]

def units (s : String) : List Char :=
  s.toList.flatMap unitsOfChar

end ShapeCheck.Text
