import ShapeCheck.Json.Reading
import ShapeCheck.Yaml.Conversion
import ShapeCheck.Yaml.Reading

namespace ShapeCheck.Document

abbrev Files := String → Option ByteArray

inductive Fault
  | unreadable
  | notJson
  | notYaml
  | notConvertible (cause : Yaml.Error)

structure Error where
  path : String
  fault : Fault

def Error.message (e : Error) : String :=
  let what := match e.fault with
    | .unreadable => "failed to read "
    | .notJson => "failed to parse JSON in "
    | .notYaml => "failed to parse YAML in "
    | .notConvertible _ => "failed to convert YAML in "
  what ++ e.path

def Error.cause? (e : Error) : Option String :=
  match e.fault with
  | .notConvertible cause => some cause.message
  | _ => none

def fileName (path : String) : String :=
  ((path.splitOn "/").filter fun part => !part.isEmpty && part != ".").getLastD ""

/-- What follows the last point of a file name, unless the name starts with it. -/
def extension? (path : String) : Option String :=
  match (fileName path).toList.reverse.span (· != '.') with
  | (_, []) => none
  | (_, [_]) => none
  | (reversed, _) => some (String.ofList reversed.reverse)

def isYaml (path : String) : Bool :=
  match extension? path with
  | some ext => ["yaml", "yml"].contains (String.ofList (ext.toList.map Char.toLower))
  | none => false

def ofText (path text : String) : Except Fault Json :=
  if isYaml path then
    match Yaml.read? text with
    | none => .error .notYaml
    | some y => y.toJson.mapError .notConvertible
  else
    match Json.read? text with
    | none => .error .notJson
    | some j => .ok j

def load (files : Files) (path : String) : Except Error Json :=
  match (files path).bind String.fromUTF8? with
  | none => .error ⟨path, .unreadable⟩
  | some text => (ofText path text).mapError (⟨path, ·⟩)

end ShapeCheck.Document
