import ShapeCheck.Json
import ShapeCheck.Yaml.Text

namespace ShapeCheck.Yaml

inductive Error
  | notFinite (x : Binary64)
  | unsupportedKey (key : Yaml)

def Error.message : Error → String
  | notFinite x => "cannot represent float " ++ x.toText .report ++ " in JSON"
  | unsupportedKey key => "unsupported YAML map key: " ++ key.describe

def keyText? : Yaml → Option String
  | string s => some s
  | number n => some n.keyText
  | bool b => some (toString b)
  | _ => none

def keyText (key : Yaml) : Except Error String :=
  match key.keyText? with
  | some s => .ok s
  | none => .error (.unsupportedKey key)

def finiteNumber : WrittenNumber → Except Error WrittenNumber
  | .int n => .ok (.int n)
  | .float x => if x.isFinite then .ok (.float x) else .error (.notFinite x)

mutual

/-- The JSON value of a YAML value. Keys with the same text keep the first place and the last value.
-/
def toJson : Yaml → Except Error Json
  | null => .ok .null
  | bool b => .ok (.bool b)
  | number n => return .number (← finiteNumber n)
  | string s => .ok (.string s)
  | sequence items => return .array (← itemsToJson items)
  | mapping entries => return .object (Entries.ofList (← entriesToJson entries))
  | tagged _ content => toJson content

def itemsToJson : List Yaml → Except Error (List Json)
  | [] => .ok []
  | v :: rest => do
    let j ← toJson v
    let js ← itemsToJson rest
    return j :: js

def entriesToJson : List (Yaml × Yaml) → Except Error (List (String × Json))
  | [] => .ok []
  | (k, v) :: rest => do
    let key ← keyText k
    let j ← toJson v
    let entries ← entriesToJson rest
    return (key, j) :: entries

end

end ShapeCheck.Yaml
