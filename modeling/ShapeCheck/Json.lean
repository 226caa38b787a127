import ShapeCheck.Value
import ShapeCheck.WrittenNumber

namespace ShapeCheck

inductive Json
  | null
  | bool (b : Bool)
  | number (n : WrittenNumber)
  | string (s : String)
  | array (items : List Json)
  | object (entries : List (String × Json))
  deriving Inhabited

namespace Json

mutual

def toValue : Json → Fresh Value
  | null => return .null
  | bool b => return .bool b
  | number n => return .number n.toBinary64
  | string s => return .string s
  | array items => do Value.newArray (← toValues items)
  | object entries => do Value.newObject Class.object (← toEntries entries)

def toValues : List Json → Fresh (List Value)
  | [] => return []
  | j :: rest => return (← j.toValue) :: (← toValues rest)

def toEntries : List (String × Json) → Fresh (List (String × Value))
  | [] => return []
  | (key, j) :: rest => return (key, ← j.toValue) :: (← toEntries rest)

end

end Json
end ShapeCheck
