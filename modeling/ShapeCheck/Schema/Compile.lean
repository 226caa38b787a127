import ShapeCheck.Schema

namespace ShapeCheck

variable {ε α : Type}

def allOk : List (Except ε α) → Except ε (List α)
  | [] => .ok []
  | r :: rest => do
    let a ← r
    let as ← allOk rest
    return a :: as

def allEntriesOk : Entries (Except ε α) → Except ε (Entries α)
  | [] => .ok []
  | (key, r) :: rest => do
    let a ← r
    let entries ← allEntriesOk rest
    return (key, a) :: entries

namespace Schema

mutual

/-- The rule that a value stands for as an example. An entry of an error under `message` counts
instead of its message. -/
def compileValue : Value → Except Error Rule
  | .array _ items => do
    let rules ← allOk (compileValues items)
    return .tuple rules
  | .object _ _ entries => do
    let props ← allEntriesOk (compileEntries entries)
    return .objectShape props
  | .error _ cls message entries => do
    let props ← allEntriesOk
      (Entries.insertAll [("message", .ok (.literal (.string message)))] (compileEntries entries))
    return .instanceOfWith cls props
  | .regexp _ _ => .error (.unsupported .regexp)
  | .function _ _ => .error (.unsupported .function)
  | v => .ok (.literal v)

def compileValues : List Value → List (Except Error Rule)
  | [] => []
  | v :: rest => compileValue v :: compileValues rest

def compileEntries : List (String × Value) → List (String × Except Error Rule)
  | [] => []
  | (key, v) :: rest => (key, compileValue v) :: compileEntries rest

end

mutual

def compile : Schema → Except Error Rule
  | rule r => .ok r
  | value v => compileValue v
  | tuple items => do
    let rules ← allOk (compileAll items)
    return .tuple rules
  | shape entries => do
    let props ← allEntriesOk (compileShape entries)
    return .objectShape props

def compileAll : List Schema → List (Except Error Rule)
  | [] => []
  | s :: rest => s.compile :: compileAll rest

def compileShape : List (String × Schema) → List (String × Except Error Rule)
  | [] => []
  | (key, s) :: rest => (key, s.compile) :: compileShape rest

end

/-- The rule that combines some schemas, of which there have to be two at least. That each of them
can be compiled is looked at first. -/
def combine (combinator : Combinator) (schemas : List Schema) : Except Error Rule := do
  let rules ← allOk (compileAll schemas)
  if rules.length < 2 then .error (.tooFewRules combinator rules.length)
  else return combinator.combine rules

def arrayOf (s : Schema) : Except Error Rule :=
  return .arrayOf (← s.compile)

def not (s : Schema) : Except Error Rule :=
  return .not (← s.compile)

def nullable (s : Schema) : Except Error Rule :=
  return .nullable (← s.compile)

def nullish (s : Schema) : Except Error Rule :=
  return .nullish (← s.compile)

def optional (s : Schema) : Except Error Rule :=
  return .optional (← s.compile)

def objectShape (entries : List (String × Schema)) : Except Error Rule :=
  return .objectShape (← allEntriesOk (compileShape (Entries.ofList entries)))

def objectLike (entries : List (String × Schema)) : Except Error Rule :=
  return .objectLike (← allEntriesOk (compileShape (Entries.ofList entries)))

def instanceOfWith (cls : Class) (entries : List (String × Schema)) : Except Error Rule :=
  return .instanceOfWith cls (← allEntriesOk (compileShape (Entries.ofList entries)))

def matching (source : String) : Except Error Rule :=
  match Pattern.build source "" with
  | .error e => .error (.pattern e)
  | .ok p => .ok (.pattern p)

end Schema
end ShapeCheck
