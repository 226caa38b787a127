import ShapeCheck.Rule
import ShapeCheck.Value.Tag

/-!
# Schemas

A schema describes what a value has to be: by a rule, by a value that serves as an example, by a
list of schemas for the items of an array, or by schemas for the properties of an object. To build a
schema checks nothing; `ShapeCheck.Schema.Compile` makes a rule of it or tells what is wrong with
it.
-/

namespace ShapeCheck

inductive Schema
  | rule (rule : Rule)
  | value (model : Value)
  | tuple (items : List Schema)
  | shape (entries : List (String × Schema))
  deriving Inhabited

inductive Combinator
  | all
  | one
  | any
  | none
  deriving DecidableEq, Repr

namespace Combinator

def combine : Combinator → List Rule → Rule
  | all => .allOf
  | one => .oneOf
  | any => .anyOf
  | none => .noneOf

def name (c : Combinator) : String :=
  (c.combine []).name

end Combinator

namespace Schema

inductive Error
  | unsupported (tag : Tag)
  | tooFewRules (combinator : Combinator) (given : Nat)
  | pattern (error : Pattern.Error)

/-- The message about an error. Why a pattern cannot be read is told by who reads it, so there is no
message of it here. -/
def Error.message? : Error → Option String
  | unsupported tag => some ("unsupported schema shape: " ++ tag.toText)
  | tooFewRules combinator _ => some (combinator.name ++ " requires at least two arguments")
  | pattern (.flag e) => some e.message
  | pattern (.unreadable _ _) => none

/-- A list of schemas under keys; of schemas under the same key the first place and the last schema
count. -/
def ofEntries (entries : List (String × Schema)) : Schema :=
  shape (Entries.ofList entries)

def examples (entries : Entries Value) : Entries Schema :=
  entries.map fun (key, v) => (key, value v)

def form : Schema → String
  | rule _ => "rule"
  | value _ => "value"
  | tuple _ => "tuple"
  | shape _ => "shape"

end Schema
end ShapeCheck
