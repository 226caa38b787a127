import ShapeCheck.Json.Token

namespace ShapeCheck.Json

/-- An open array, its items in reverse, or an open object with the key of the value that comes
next. -/
inductive Frame
  | array (read : List Json)
  | object (read : Entries Json) (key : String)

inductive Stage
  | value (around : List Frame)
  | firstItem (around : List Frame)
  | firstKey (around : List Frame)
  | key (around : List Frame) (read : Entries Json)
  | colon (around : List Frame) (read : Entries Json) (key : String)
  | after (around : List Frame) (value : Json)

def depthLimit : Nat := 127

namespace Stage

def enter? (around : List Frame) (next : Stage) : Option Stage :=
  if around.length < depthLimit then some next else none

def startValue? (around : List Frame) : Token → Option Stage
  | .word v => some (after around v)
  | .text s => some (after around (.string s))
  | .mark '[' => enter? around (firstItem around)
  | .mark '\x7b' => enter? around (firstKey around)
  | .mark _ => none

def next? (stage : Stage) (token : Token) : Option Stage :=
  match stage, token with
  | value around, t => startValue? around t
  | firstItem around, .mark ']' => some (after around (.array []))
  | firstItem around, t => startValue? (.array [] :: around) t
  | firstKey around, .mark '\x7d' => some (after around (.object []))
  | firstKey around, .text k => some (colon around [] k)
  | key around read, .text k => some (colon around read k)
  | colon around read k, .mark ':' => some (value (.object read k :: around))
  | after (.array read :: around) v, .mark ',' => some (value (.array (v :: read) :: around))
  | after (.array read :: around) v, .mark ']' => some (after around (.array (v :: read).reverse))
  | after (.object read k :: around) v, .mark ',' => some (key around (Entries.insert k v read))
  | after (.object read k :: around) v, .mark '\x7d' =>
    some (after around (.object (Entries.insert k v read)))
  | _, _ => none

end Stage

def read? (text : String) : Option Json := do
  let tokens ← tokens? text
  match ← tokens.foldlM Stage.next? (.value []) with
  | .after [] v => return v
  | _ => none

end ShapeCheck.Json
