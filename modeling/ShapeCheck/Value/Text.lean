import ShapeCheck.Binary64.Text
import ShapeCheck.Value.Property
import ShapeCheck.Value.Tag

namespace ShapeCheck.Value

def symbolText (description : Option String) : String :=
  "Symbol(" ++ description.getD "" ++ ")"

def toText : Value → String
  | undefined => "undefined"
  | null => "null"
  | bool b => "Boolean " ++ toString b
  | number x => "Number " ++ x.toText .message
  | bigint n => "BigInt " ++ toString n
  | string s => "String " ++ s
  | symbol _ description => "Symbol " ++ symbolText description
  | date _ instant => "Date " ++ instant.toIso
  | regexp _ pattern => "RegExp " ++ pattern.toText
  | error _ cls message entries => errorName cls entries ++ " " ++ message
  | function _ info => "function " ++ if info.name.isEmpty then "<anonymous>" else info.name
  | v@(array _ _) => v.tag.toText
  | v@(object _ _ _) => v.tag.toText

def lengthText : Value → String
  | number x => x.toText .message
  | string s => s
  | bool b => toString b
  | bigint n => toString n
  | v => v.toText

end ShapeCheck.Value
