import ShapeCheck.Assertion
import ShapeCheck.Document

namespace ShapeCheck

structure DocumentCheck where
  schemaPath : String
  documentPath : String

namespace DocumentCheck

inductive Error
  | document (error : Document.Error)
  | schema (path : String) (error : Schema.Error)

def Error.message : Error → String
  | document e => e.message
  | schema path _ => "invalid schema in " ++ path

def Error.cause? : Error → Option String
  | document e => e.cause?
  | schema _ e => e.message?

def verdict (schema document : Json) : Except Schema.Error Verdict :=
  let values : Fresh (Value × Value) := do
    let schema ← schema.toValue
    let document ← document.toValue
    return (schema, document)
  let (schema, document) := (values.run Class.firstFree).1
  (Schema.value schema).validate document

def run (files : Document.Files) (c : DocumentCheck) : Except Error Verdict := do
  let schema ← (Document.load files c.schemaPath).mapError .document
  let document ← (Document.load files c.documentPath).mapError .document
  (verdict schema document).mapError (.schema c.schemaPath)

end DocumentCheck
end ShapeCheck
