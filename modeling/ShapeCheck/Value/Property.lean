import ShapeCheck.Binary64.Rounding
import ShapeCheck.Text.Index
import ShapeCheck.Text.Utf16
import ShapeCheck.Value

namespace ShapeCheck.Value

def itemAt (items : List Value) (key : String) : Value :=
  match Text.index? key with
  | some i => items.getD i undefined
  | none => undefined

def get (v : Value) (key : String) : Value :=
  match v with
  | object _ _ entries => (Entries.find? key entries).getD undefined
  | error _ cls message entries =>
    if key = "message" then string message
    else match Entries.find? key entries with
      | some value => value
      | none => if key = "name" then string cls.name else undefined
  | array _ items =>
    if key = "length" then number (.ofNat items.length) else itemAt items key
  | string s =>
    let units := Text.units s
    if key = "length" then number (.ofNat units.length)
    else itemAt (units.map fun c => string c.toString) key
  | function _ info =>
    if key = "name" then string info.name
    else if key = "length" then number (.ofNat info.arity)
    else undefined
  | regexp _ pattern =>
    if key = "source" then string pattern.source
    else if key = "flags" then string pattern.flagText
    else undefined
  | _ => undefined

/-- The name of an error with these entries: a text under `name`, else the name of its class. -/
def errorName (cls : Class) (entries : List (String × Value)) : String :=
  match Entries.find? "name" entries with
  | some (string name) => name
  | _ => cls.name

end ShapeCheck.Value
