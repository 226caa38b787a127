import ShapeCheck.Rule
import ShapeCheck.Value.Equality
import ShapeCheck.Value.Text

namespace ShapeCheck

def Kind.tag : Kind → Tag
  | string => .string
  | number => .number
  | boolean => .boolean
  | bigint => .bigint
  | date => .date
  | regexp => .regexp
  | null => .null
  | undefined => .undefined

namespace Verdict

def ofKind (k : Kind) (v : Value) : Verdict :=
  require (v.tag = k.tag) ("expected " ++ k.noun ++ ", got " ++ v.tag.toText)

def ofNullish (v : Value) : Verdict :=
  require v.isNullish ("expected null or undefined, got " ++ v.tag.toText)

def ofPattern (p : Pattern) : Value → Verdict
  | .string s =>
    require (p.isMatch s) ("expected " ++ p.toText ++ ", got " ++ (Value.string s).toText)
  | v => failing ("expected string, got " ++ v.tag.toText)

def ofPredicate (test : Predicate) (message : String) (onBreak : OnBreak) (v : Value) : Verdict :=
  match test v, onBreak with
  | .ok passed, _ =>
    -- An empty message counts as none.
    require passed (if message.isEmpty then "predicate failed for " ++ v.toText else message)
  | .error payload, .propagate => breaks payload
  | .error payload, .fail =>
    failing ("predicate panicked: " ++ payload.getD "non-string panic payload")

def ofLiteral (expected v : Value) : Verdict :=
  require (expected.sameLiteral v) ("expected " ++ expected.toText ++ ", got " ++ v.toText)

def ofIdentical (expected v : Value) : Verdict :=
  require (expected.identical v)
    ("expected strict equals " ++ expected.toText ++ ", got " ++ v.toText)

/-- The length is compared as a double-precision number. -/
def ofLength (n : Nat) (v : Value) : Verdict :=
  let actual := v.get "length"
  let equal := match actual with
    | .number x => x.equals (.ofNat n)
    | _ => false
  require equal ("expected length to be " ++ toString n ++ ", got " ++ actual.lengthText)

def classLabel (v : Value) : String :=
  (v.class?.map Class.name).getD v.toText

def ofInstance (cls : Class) (v : Value) : Verdict :=
  require (v.isInstanceOf cls)
    ("expected instanceof " ++ cls.name ++ " got instanceof " ++ classLabel v)

/-- A function goes by the class that it constructs, which has to be a proper descendant; any other
value goes by its own class. -/
def ofPrototype (cls : Class) (v : Value) : Verdict :=
  let passed := match v with
    | .function _ info => info.constructs.any (·.descendsFrom cls)
    | v => v.isInstanceOf cls
  require passed ("expected object prototyped by " ++ cls.name ++ " got " ++ classLabel v)

def ofObject (v : Value) : Verdict :=
  require (v.tag = .object) ("expected object, got " ++ v.toText)

def ofPresent (v : Value) : Verdict :=
  require (!v.isNullish) ("expected non null value, got " ++ v.toText)

def underPositions (index : Nat) : List Verdict → List Verdict
  | [] => []
  | v :: rest => v.under (toString index) :: underPositions (index + 1) rest

end Verdict

namespace Rule

mutual

def check : Rule → Value → Verdict
  | anything, _ => .conforms
  | kind k, v => .ofKind k v
  | nullishValue, v => .ofNullish v
  | pattern p, v => .ofPattern p v
  | predicate test message onBreak, v => .ofPredicate test message onBreak v
  | literal expected, v => .ofLiteral expected v
  | identical expected, v => .ofIdentical expected v
  | length n, v => .ofLength n v
  | objectShape props, v => (Verdict.ofObject v).andThen (.all (checkProps props v))
  | objectLike props, v => (Verdict.ofPresent v).andThen (.all (checkProps props v))
  | tuple rules, v =>
    match v with
    | .array _ items =>
      if items.length = rules.length then
        .all (Verdict.underPositions 0 (checkItems rules items))
      else .failing ("expected tuple of " ++ toString rules.length ++ " items, got " ++
        toString items.length)
    | v => .failing ("expected tuple, got " ++ v.tag.toText)
  | arrayOf rule, v =>
    match v with
    | .array _ items => .all (Verdict.underPositions 0 (items.map (rule.check ·)))
    | v => .failing ("expected array, got " ++ v.tag.toText)
  | instanceOf cls, v => .ofInstance cls v
  | instanceOfWith cls props, v =>
    ((Verdict.ofInstance cls v).andThen (.ofPresent v)).andThen (.all (checkProps props v))
  | prototypedBy cls, v => .ofPrototype cls v
  | allOf rules, v => .all (checkEach rules v)
  | oneOf rules, v => .one (checkEach rules v)
  | anyOf rules, v => .any (checkEach rules v)
  | noneOf rules, v => .none (checkEach rules v)
  | not rule, v => (rule.check v).not
  | nullable rule, v => if v.isNull then .conforms else rule.check v
  | nullish rule, v => if v.isNullish then .conforms else rule.check v
  | optional rule, v => if v.isUndefined then .conforms else rule.check v
  | custom _ test, v => test v

def checkEach : List Rule → Value → List Verdict
  | [], _ => []
  | rule :: rest, v => rule.check v :: checkEach rest v

def checkItems : List Rule → List Value → List Verdict
  | rule :: rules, v :: items => rule.check v :: checkItems rules items
  | _, _ => []

def checkProps : List (String × Rule) → Value → List Verdict
  | [], _ => []
  | (key, rule) :: rest, v => (rule.check (v.get key)).under key :: checkProps rest v

end

end Rule
end ShapeCheck
