namespace ShapeCheck.Pattern

def asciiEscape? (inBrackets : Bool) (c : Char) : Option String :=
  match inBrackets, c with
  | false, 'd' => some "[[:digit:]]"
  | false, 'D' => some "[^[:digit:]]"
  | false, 'w' => some "[[:word:]]"
  | false, 'W' => some "[^[:word:]]"
  | false, 'b' => some "(?-u:\\b)"
  | false, 'B' => some "(?-u:\\B)"
  | true, 'd' => some "[:digit:]"
  | true, 'D' => some "[:^digit:]"
  | true, 'w' => some "[:word:]"
  | true, 'W' => some "[:^word:]"
  | true, 'b' => some "\\x08"
  | _, _ => none

/-- Writes out the ASCII escapes of a text that stands inside `depth` open brackets. -/
def asciiClasses (nested : Bool) (depth : Nat) : List Char → List Char
  | [] => []
  | ['\\'] => ['\\']
  | '\\' :: c :: rest =>
    match asciiEscape? (0 < depth) c with
    | some text => text.toList ++ asciiClasses nested depth rest
    | none => '\\' :: c :: asciiClasses nested depth rest
  | '[' :: rest =>
    if 0 < depth ∧ !nested then '\\' :: '[' :: asciiClasses nested depth rest
    else '[' :: asciiClasses nested (depth + 1) rest
  | ']' :: rest => ']' :: asciiClasses nested (depth - 1) rest
  | c :: rest => c :: asciiClasses nested depth rest

end ShapeCheck.Pattern
