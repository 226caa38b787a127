import ShapeCheck.Binary64
import ShapeCheck.Class
import ShapeCheck.Entries
import ShapeCheck.Identity
import ShapeCheck.Instant
import ShapeCheck.Pattern

/-!
# Dynamic values

A value is a scalar, which is what it says, or a reference value, which also has an identity of
its own. The entries of objects and errors are in order and have distinct keys when they are
built by `Value.newObject` and `Value.newError`.
-/

namespace ShapeCheck

/-- What a function value tells about itself. Its code is of no concern here. -/
structure FunctionInfo where
  name : String
  arity : Nat
  constructs : Option Class := none
  deriving DecidableEq, Repr, Inhabited

inductive Value
  | undefined
  | null
  | bool (b : Bool)
  | number (x : Binary64)
  | bigint (n : Int)
  | string (s : String)
  | symbol (id : Identity) (description : Option String)
  | date (id : Identity) (instant : Instant)
  | regexp (id : Identity) (pattern : Pattern)
  | array (id : Identity) (items : List Value)
  | object (id : Identity) (cls : Class) (entries : List (String × Value))
  | error (id : Identity) (cls : Class) (message : String) (entries : List (String × Value))
  | function (id : Identity) (info : FunctionInfo)
  deriving Inhabited

namespace Value

def newSymbol (description : Option String) : Fresh Value :=
  return symbol (← fresh) description

def newDate (instant : Instant) : Fresh Value :=
  return date (← fresh) instant

def newRegexp (pattern : Pattern) : Fresh Value :=
  return regexp (← fresh) pattern

def newArray (items : List Value) : Fresh Value :=
  return array (← fresh) items

/-- An instance of a class. Of entries with the same key the first place and the last value count.
-/
def newObject (cls : Class) (entries : List (String × Value)) : Fresh Value :=
  return object (← fresh) cls (Entries.ofList entries)

def newError (cls : Class) (message : String) (entries : List (String × Value)) : Fresh Value :=
  return error (← fresh) cls message (Entries.ofList entries)

def newFunction (info : FunctionInfo) : Fresh Value :=
  return function (← fresh) info

def newConstructor (cls : Class) : Fresh Value :=
  newFunction { name := cls.name, arity := 0, constructs := some cls }

def isNull : Value → Bool
  | null => true
  | _ => false

def isUndefined : Value → Bool
  | undefined => true
  | _ => false

def isNullish (v : Value) : Bool :=
  v.isNull || v.isUndefined

/-- The class that the value is an instance of; scalars count as instances of their own classes. -/
def class? : Value → Option Class
  | undefined | null => none
  | bool _ => some Class.boolean
  | number _ => some Class.number
  | bigint _ => some Class.bigint
  | string _ => some Class.string
  | symbol _ _ => some Class.symbol
  | date _ _ => some Class.date
  | regexp _ _ => some Class.regexp
  | array _ _ => some Class.array
  | function _ _ => some Class.function
  | object _ cls _ => some cls
  | error _ cls _ _ => some cls

def isInstanceOf (v : Value) (cls : Class) : Bool :=
  v.class?.any (·.isA cls)

end Value
end ShapeCheck
