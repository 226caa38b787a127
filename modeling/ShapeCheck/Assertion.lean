import ShapeCheck.Rule.Check
import ShapeCheck.Schema.Compile

namespace ShapeCheck

def Schema.validate (s : Schema) (v : Value) : Except Schema.Error Verdict :=
  return (← s.compile).check v

structure AssertionError where
  message : String
  actual : Value
  expected : String := message

namespace AssertionError

def toValue (e : AssertionError) : Fresh Value :=
  Value.newError Class.assertionError e.message
    [("actual", e.actual), ("expected", .string e.expected), ("name", .string "AssertionError")]

end AssertionError

structure Dissent where
  message : String
  actual : Value
  schema : Schema

inductive Assertion (ε : Type)
  | holds
  | malformed (error : Schema.Error)
  | fails (error : AssertionError)
  | failsWith (error : ε)
  | breaks (payload : Payload)

namespace Assertion

variable {ε : Type}

def withError (v : Value) (s : Schema) (onMismatch : Dissent → Option ε) : Assertion ε :=
  match s.compile with
  | .error e => malformed e
  | .ok rule =>
    match rule.check v with
    | .conforms => holds
    | .breaks payload => breaks payload
    | .fails m =>
      match onMismatch { message := m.message, actual := v, schema := s } with
      | some e => failsWith e
      | none => fails { message := m.message, actual := v }

def plain (v : Value) (s : Schema) : Assertion Empty :=
  withError v s fun _ => none

end Assertion
end ShapeCheck
