import ShapeCheck.Value
import ShapeCheck.Verdict

/-!
# Rules

A rule says what a value has to be. Rules are trees that can be looked into; only the predicates and
the custom rules that a program brings along are functions. What a rule accepts is defined in
`ShapeCheck.Rule.Check`.
-/

namespace ShapeCheck

abbrev Predicate := Value → Except Payload Bool

inductive OnBreak
  | propagate
  | fail
  deriving DecidableEq, Repr

inductive Kind
  | string
  | number
  | boolean
  | bigint
  | date
  | regexp
  | null
  | undefined
  deriving DecidableEq, Repr

inductive Rule
  | anything
  | kind (k : Kind)
  | nullishValue
  | pattern (p : Pattern)
  | predicate (test : Predicate) (message : String) (onBreak : OnBreak)
  | literal (expected : Value)
  | identical (expected : Value)
  | length (n : Nat)
  | objectShape (props : List (String × Rule))
  | objectLike (props : List (String × Rule))
  | tuple (items : List Rule)
  | arrayOf (item : Rule)
  | instanceOf (cls : Class)
  | instanceOfWith (cls : Class) (props : List (String × Rule))
  | prototypedBy (cls : Class)
  | allOf (rules : List Rule)
  | oneOf (rules : List Rule)
  | anyOf (rules : List Rule)
  | noneOf (rules : List Rule)
  | not (rule : Rule)
  | nullable (rule : Rule)
  | nullish (rule : Rule)
  | optional (rule : Rule)
  | custom (label : String) (test : Value → Verdict)
  deriving Inhabited

namespace Kind

def ruleName : Kind → String
  | string => "a_string"
  | number => "a_number"
  | boolean => "a_boolean"
  | bigint => "a_bigint"
  | date => "a_date"
  | regexp => "a_regexp"
  | null => "a_null"
  | undefined => "an_undefined"

def noun : Kind → String
  | string => "a string"
  | number => "a number"
  | boolean => "a boolean"
  | bigint => "a bigint"
  | date => "a date"
  | regexp => "a regexp"
  | null => "null"
  | undefined => "undefined"

end Kind

def Rule.name : Rule → String
  | anything => "anything"
  | kind k => k.ruleName
  | nullishValue => "a_nullish"
  | pattern _ => "re"
  | predicate _ _ _ => "predicate"
  | literal _ => "literal"
  | identical _ => "strict_equal"
  | length _ => "length"
  | objectShape _ => "object_shape"
  | objectLike _ => "object_like"
  | tuple _ => "tuple"
  | arrayOf _ => "array_of"
  | instanceOf _ => "instance_of"
  | instanceOfWith _ _ => "instance_of_with"
  | prototypedBy _ => "is_prototyped_by"
  | allOf _ => "all_of"
  | oneOf _ => "one_of"
  | anyOf _ => "any_of"
  | noneOf _ => "none_of"
  | not _ => "not"
  | nullable _ => "nullable"
  | nullish _ => "nullish"
  | optional _ => "optional"
  | custom label _ => label

def Rule.debugText (r : Rule) : String :=
  "Rule(" ++ r.name ++ ")"

end ShapeCheck
