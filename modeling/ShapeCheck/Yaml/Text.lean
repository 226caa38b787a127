import ShapeCheck.Binary64.Text
import ShapeCheck.Text.Escaped
import ShapeCheck.Yaml

namespace ShapeCheck

def WrittenNumber.keyText : WrittenNumber → String
  | int n => toString n
  | float x => x.toText .mappingKey

namespace Yaml

def listed (opening closing : String) (parts : List String) : String :=
  opening ++ ", ".intercalate parts ++ closing

def keyForm (key : Yaml) (description : String) : String :=
  match key with
  | bool b => toString b
  | number n => n.keyText
  | string s => Text.quoted s
  | _ => description

mutual

def describe : Yaml → String
  | null => "Null"
  | bool b => "Bool(" ++ toString b ++ ")"
  | number n => "Number(" ++ n.keyText ++ ")"
  | string s => "String(" ++ Text.quoted s ++ ")"
  | sequence items => "Sequence " ++ listed "[" "]" (describeItems items)
  | mapping entries => "Mapping " ++ listed "\x7b" "\x7d" (describeEntries entries)
  | tagged tag content =>
    "TaggedValue \x7b tag: !" ++ bareTag tag ++ ", value: " ++ describe content ++ " \x7d"

def describeItems : List Yaml → List String
  | [] => []
  | v :: rest => describe v :: describeItems rest

def describeEntries : List (Yaml × Yaml) → List String
  | [] => []
  | (k, v) :: rest => (keyForm k (describe k) ++ ": " ++ describe v) :: describeEntries rest

end

end Yaml
end ShapeCheck
