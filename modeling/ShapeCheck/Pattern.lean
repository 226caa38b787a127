import ShapeCheck.Pattern.AsciiClasses
import ShapeCheck.Pattern.Flag
import ShapeCheck.Pattern.Footprint
import ShapeCheck.Pattern.Reading

/-!
# Patterns

A pattern is a source text with flags. Both are kept as given, the flags in canonical order, and so
two patterns are equal as literals when their texts are; the tree that is read from them decides
which texts match. The flag `y` anchors every match at the start of the text, and `v` allows
brackets within brackets.
-/

namespace ShapeCheck

structure Pattern where
  source : String
  flags : List Pattern.Flag
  tree : Pattern.Tree

namespace Pattern

inductive Error
  | flag (error : Flag.Error)
  | unreadable (source : String) (flags : List Flag)

def modeOf (flags : List Flag) : Mode where
  ignoreCase := flags.contains .ignoreCase
  multiline := flags.contains .multiline
  dotAll := flags.contains .dotAll

def anchored (cs : List Char) : List Char :=
  "\\A(?:".toList ++ cs ++ [')']

/-- The text that is read for a source: ASCII classes are written out, and a sticky pattern is
anchored. -/
def effectiveText (source : String) (flags : List Flag) : List Char :=
  let body := asciiClasses (flags.contains .unicodeSets) 0 source.toList
  if flags.contains .sticky then anchored body else body

/-- What an engine allows of the pattern texts that it can read. -/
abbrev SizeLimit := Mode → List Char → Bool

def estimatedLimit : SizeLimit := fun mode text =>
  (readTree mode text).any fun tree => tree.footprint ≤ Tree.roomLimit

def treeOf? (limit : SizeLimit) (source : String) (flags : List Flag) : Option Tree := do
  let tree ← readTree (modeOf flags) (effectiveText source flags)
  if limit (modeOf flags) (effectiveText source flags) then some tree else none

def buildWithin (limit : SizeLimit) (source flagLetters : String) : Except Error Pattern :=
  match Flag.canonical flagLetters with
  | .error e => .error (.flag e)
  | .ok flags =>
    match treeOf? limit source flags with
    | none => .error (.unreadable source flags)
    | some tree => .ok { source, flags, tree }

def build (source flagLetters : String) : Except Error Pattern :=
  buildWithin estimatedLimit source flagLetters

def flagText (p : Pattern) : String :=
  Flag.toText p.flags

def toText (p : Pattern) : String :=
  "/" ++ p.source ++ "/" ++ p.flagText

def isMatch (p : Pattern) (text : String) : Bool :=
  p.tree.isMatch text.toList

def sameText (p q : Pattern) : Bool :=
  p.source == q.source && p.flags == q.flags

end Pattern
end ShapeCheck
