import ShapeCheck.Identity

namespace ShapeCheck

/-- A runtime class: the root, or a numbered and named extension of a parent. -/
inductive Class
  | object
  | extending (id : Nat) (name : String) (parent : Class)
  deriving DecidableEq, Repr, Inhabited

namespace Class

def id : Class → Nat
  | object => 0
  | extending id _ _ => id

def name : Class → String
  | object => "Object"
  | extending _ name _ => name

def parent? : Class → Option Class
  | object => none
  | extending _ _ parent => some parent

def ancestors : Class → List Class
  | object => [object]
  | c@(extending _ _ parent) => c :: ancestors parent

def same (c d : Class) : Bool :=
  c.id == d.id

def isA (c d : Class) : Bool :=
  c.ancestors.any (same · d)

def descendsFrom (c d : Class) : Bool :=
  match c.parent? with
  | none => false
  | some p => p.isA d

def array : Class := extending 1 "Array" object
def function : Class := extending 2 "Function" object
def string : Class := extending 3 "String" object
def number : Class := extending 4 "Number" object
def boolean : Class := extending 5 "Boolean" object
def bigint : Class := extending 6 "BigInt" object
def symbol : Class := extending 7 "Symbol" object
def date : Class := extending 8 "Date" object
def regexp : Class := extending 9 "RegExp" object
def error : Class := extending 10 "Error" object
def typeError : Class := extending 11 "TypeError" error
def rangeError : Class := extending 12 "RangeError" error
def syntaxError : Class := extending 13 "SyntaxError" error
def referenceError : Class := extending 14 "ReferenceError" error

def assertionError : Class := extending 15 "AssertionError" error

def standard : List Class :=
  [object, array, function, string, number, boolean, bigint, symbol, date, regexp, error,
   typeError, rangeError, syntaxError, referenceError, assertionError]

def named? (name : String) : Option Class :=
  standard.find? (·.name == name)

def firstFree : Nat := 16

def isError (c : Class) : Bool :=
  c.isA error

def extend (name : String) (parent : Class) : Fresh Class :=
  return extending (← fresh) name parent

def declare (name : String) : Fresh Class :=
  extend name object

end Class
end ShapeCheck
