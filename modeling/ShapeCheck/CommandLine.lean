import ShapeCheck.DocumentCheck

namespace ShapeCheck.CommandLine

inductive Command
  | help
  | version
  | check (paths : DocumentCheck) (quiet : Bool)

structure Options where
  schema : Option String := none
  document : Option String := none
  quiet : Bool := false

inductive PathOption
  | schema
  | document
  deriving DecidableEq

namespace PathOption

def flag : PathOption → String
  | schema => "--schema"
  | document => "--document"

def ofFlag? (arg : String) : Option PathOption :=
  [schema, document].find? (·.flag == arg)

def ofAssignment? (arg : String) : Option (PathOption × String) :=
  [schema, document].findSome? fun o =>
    if (o.flag ++ "=").toList.isPrefixOf arg.toList then
      some (o, String.ofList (arg.toList.drop (o.flag.length + 1)))
    else none

end PathOption

namespace Options

def set? (o : Options) (option : PathOption) (path : String) : Option Options :=
  if path.isEmpty then none
  else
    match option with
    | .schema => if o.schema.isSome then none else some { o with schema := some path }
    | .document => if o.document.isSome then none else some { o with document := some path }

def setQuiet? (o : Options) : Option Options :=
  if o.quiet then none else some { o with quiet := true }

def command? (o : Options) : Option Command := do
  let schemaPath ← o.schema
  let documentPath ← o.document
  return .check { schemaPath, documentPath } o.quiet

end Options

def looksLikeFlag (arg : String) : Bool :=
  match arg.toList with
  | '-' :: _ :: _ => true
  | _ => false

abbrev Progress := Except Command Options

def readLetters? (o : Options) : List Char → Option Progress
  | [] => some (.ok o)
  | 'q' :: rest => do readLetters? (← o.setQuiet?) rest
  | 'h' :: _ => some (.error .help)
  | _ => none

def readFlag? (o : Options) (arg : String) : Option Progress :=
  match PathOption.ofAssignment? arg with
  | some (option, path) => (o.set? option path).map .ok
  | none =>
    if arg = "--quiet" then o.setQuiet?.map .ok
    else if arg = "--help" then some (.error .help)
    else
      match arg.toList with
      | '-' :: c :: rest => if c = '-' then none else readLetters? o (c :: rest)
      | _ => none

def readCheck? (o : Options) : List String → Option Command
  | [] => o.command?
  | ["--"] => o.command?
  | arg :: rest =>
    match PathOption.ofFlag? arg with
    | some option =>
      match rest with
      | [] => none
      | path :: rest => do
        if looksLikeFlag path then none
        else readCheck? (← o.set? option path) rest
    | none => do
      match ← readFlag? o arg with
      | .error command => return command
      | .ok o => readCheck? o rest

def command? : List String → Option Command
  | "check" :: rest => readCheck? {} rest
  | ["help"] => some .help
  | ["help", "check"] => some .help
  | ["help", "help"] => some .help
  | "--help" :: _ => some .help
  | "--version" :: _ => some .version
  | arg :: _ =>
    match arg.toList with
    | '-' :: 'h' :: _ => some .help
    | '-' :: 'V' :: _ => some .version
    | _ => none
  | [] => none

structure Outcome where
  code : Nat
  output : String
  complaint : String := ""

def usage : String :=
  "Usage: conform check --schema <FILE> --document <FILE> [--quiet]\n"

def ofVerdict (quiet : Bool) (verdict : Verdict) : Outcome :=
  let shown (line : String) := if quiet then "" else line ++ "\n"
  match verdict with
  | .conforms => { code := 0, output := shown "ok" }
  | .fails m => { code := 1, output := shown m.message }
  | .breaks _ => { code := 101, output := "" }

def Command.run (files : Document.Files) : Command → Outcome
  | help => { code := 0, output := usage }
  | version => { code := 0, output := "conform 0.1.0\n" }
  | check paths quiet =>
    match paths.run files with
    | .ok verdict => ofVerdict quiet verdict
    | .error e => { code := 1, output := "", complaint := "Error: " ++ e.message ++ "\n" }

def run (files : Document.Files) (args : List String) : Outcome :=
  match command? args with
  | some command => command.run files
  | none => { code := 2, output := "", complaint := usage }

def Command.paths : Command → List String
  | check paths _ => [paths.schemaPath, paths.documentPath]
  | _ => []

end ShapeCheck.CommandLine
