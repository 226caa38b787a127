namespace ShapeCheck.Yaml

/-- The text of a tag. A character is missing where escapes stand for no character. -/
abbrev TagText := List (Option Char)

inductive Token
  | version (major minor : Nat)
  | handle (name : String) (meaning : TagText)
  | documentStart
  | documentEnd
  | blockSequenceStart
  | blockMappingStart
  | blockEnd
  | flowSequenceStart
  | flowSequenceEnd
  | flowMappingStart
  | flowMappingEnd
  | blockEntry
  | flowEntry
  | key
  | value
  | aliasOf (name : String)
  | anchor (name : String)
  | tag (handle : String) (suffix : TagText)
  | scalar (text : String) (plain : Bool)
  deriving DecidableEq

end ShapeCheck.Yaml
