import ShapeCheck.Unicode.Property

namespace ShapeCheck.Text

open Unicode

def isVisible (c : Char) : Bool :=
  c == ' ' || (assigned.contains c.toNat &&
    !(categories [.control, .format, .privateUse, .lineSeparator, .paragraphSeparator,
      .spaceSeparator]).contains c.toNat)

/-- The form of one character between double quotes. Marks that would join the character before them
are escaped too. -/
def escape (c : Char) : List Char :=
  match c with
  | '\x00' => ['\\', '0']
  | '\t' => ['\\', 't']
  | '\r' => ['\\', 'r']
  | '\n' => ['\\', 'n']
  | '\\' => ['\\', '\\']
  | '"' => ['\\', '"']
  | c =>
    if Property.graphemeExtend.contains c.toNat || !isVisible c then
      ['\\', 'u', '\x7b'] ++ Nat.toDigits 16 c.toNat ++ ['\x7d']
    else [c]

def quoted (s : String) : String :=
  String.ofList ('"' :: s.toList.flatMap escape ++ ['"'])

end ShapeCheck.Text
