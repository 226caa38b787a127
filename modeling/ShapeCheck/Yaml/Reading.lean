import ShapeCheck.Yaml.Node.Reading
import ShapeCheck.Yaml.Tokens

namespace ShapeCheck.Yaml

def read? (text : String) : Option Yaml := do
  let tokens ← tokens? text
  let root ← Node.ofTokens? tokens
  root.value?

end ShapeCheck.Yaml
