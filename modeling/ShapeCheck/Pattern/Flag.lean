namespace ShapeCheck.Pattern

inductive Flag
  | indices
  | global
  | ignoreCase
  | multiline
  | dotAll
  | unicode
  | unicodeSets
  | sticky
  deriving DecidableEq, Repr

namespace Flag

def all : List Flag :=
  [indices, global, ignoreCase, multiline, dotAll, unicode, unicodeSets, sticky]

def letter : Flag → Char
  | indices => 'd'
  | global => 'g'
  | ignoreCase => 'i'
  | multiline => 'm'
  | dotAll => 's'
  | unicode => 'u'
  | unicodeSets => 'v'
  | sticky => 'y'

def ofLetter? (c : Char) : Option Flag :=
  all.find? (·.letter == c)

inductive Error
  | unsupported (c : Char)
  | duplicate (c : Char)
  deriving DecidableEq, Repr

def Error.message : Error → String
  | .unsupported c => "unsupported pattern flag '" ++ c.toString ++ "'"
  | .duplicate c => "duplicate pattern flag '" ++ c.toString ++ "'"

def collect (seen : List Flag) : List Char → Except Error (List Flag)
  | [] => .ok (all.filter seen.contains)
  | c :: rest =>
    match ofLetter? c with
    | none => .error (.unsupported c)
    | some flag => if seen.contains flag then .error (.duplicate c) else collect (flag :: seen) rest

def canonical (text : String) : Except Error (List Flag) :=
  collect [] text.toList

def toText (flags : List Flag) : String :=
  String.ofList (flags.map letter)

end Flag
end ShapeCheck.Pattern
