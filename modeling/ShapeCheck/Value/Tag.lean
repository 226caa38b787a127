import ShapeCheck.Value

namespace ShapeCheck

inductive Tag
  | string
  | number
  | boolean
  | bigint
  | symbol
  | null
  | undefined
  | date
  | regexp
  | array
  | object
  | error
  | function
  deriving DecidableEq, Repr

namespace Tag

def all : List Tag :=
  [string, number, boolean, bigint, symbol, null, undefined, date, regexp, array, object, error,
   function]

def name : Tag → String
  | string => "String"
  | number => "Number"
  | boolean => "Boolean"
  | bigint => "BigInt"
  | symbol => "Symbol"
  | null => "Null"
  | undefined => "Undefined"
  | date => "Date"
  | regexp => "RegExp"
  | array => "Array"
  | object => "Object"
  | error => "Error"
  | function => "Function"

def named? (name : String) : Option Tag :=
  all.find? (·.name == name)

def toText (t : Tag) : String :=
  "[object " ++ t.name ++ "]"

end Tag

def Value.tag : Value → Tag
  | undefined => .undefined
  | null => .null
  | bool _ => .boolean
  | number _ => .number
  | bigint _ => .bigint
  | string _ => .string
  | symbol _ _ => .symbol
  | date _ _ => .date
  | regexp _ _ => .regexp
  | array _ _ => .array
  | object _ _ _ => .object
  | error _ _ _ _ => .error
  | function _ _ => .function

end ShapeCheck
