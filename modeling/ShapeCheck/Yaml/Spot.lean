namespace ShapeCheck.Yaml

/-- A character and its place: how many characters are before it in the text, the line, and how many
are before it in the line. -/
structure Spot where
  char : Char
  index : Nat
  line : Nat
  column : Nat

abbrev Spots := List Spot

def endMark : Char := '\x00'

def isBlank (c : Char) : Bool :=
  c == ' ' || c == '\t'

def isBreak (c : Char) : Bool :=
  c == '\n' || c == '\r' || c == '\u0085' || c == '\u2028' || c == '\u2029'

def isBreakOrEnd (c : Char) : Bool :=
  isBreak c || c == endMark

def isGap (c : Char) : Bool :=
  isBlank c || isBreakOrEnd c

def isNameChar (c : Char) : Bool :=
  c.isAlphanum || c == '_' || c == '-'

def isAllowed (c : Char) : Bool :=
  let code := c.toNat
  code == 0x09 || code == 0x0A || code == 0x0D || (0x20 ≤ code && code ≤ 0x7E) || code == 0x85 ||
    (0xA0 ≤ code && code ≤ 0xFFFD) || 0x10000 ≤ code

def plainBreak (c : Char) : Char :=
  if c == '\r' || c == '\u0085' then '\n' else c

def locateFrom (index line column : Nat) : List Char → Spots
  | [] => [⟨endMark, index, line, column⟩]
  | '\r' :: '\n' :: rest => ⟨'\n', index, line, column⟩ :: locateFrom (index + 2) (line + 1) 0 rest
  | c :: rest =>
    if isBreak c then
      ⟨plainBreak c, index, line, column⟩ :: locateFrom (index + 1) (line + 1) 0 rest
    else ⟨c, index, line, column⟩ :: locateFrom (index + 1) line (column + 1) rest

def locate? (text : String) : Option Spots :=
  if text.toList.all isAllowed then some (locateFrom 0 0 0 text.toList) else none

namespace Spots

def ahead (spots : Spots) (n : Nat) : Char :=
  match spots[n]? with
  | some s => s.char
  | none => endMark

def next (spots : Spots) : Char :=
  spots.ahead 0

def skip (spots : Spots) : Spots :=
  spots.drop 1

def takeWhile (isOfClass : Char → Bool) (spots : Spots) : List Char × Spots :=
  let (taken, rest) := spots.span fun s => isOfClass s.char
  (taken.map Spot.char, rest)

def isMarker (c : Char) (spots : Spots) : Bool :=
  match spots with
  | a :: b :: d :: rest =>
    a.column == 0 && a.char == c && b.char == c && d.char == c && isGap (next rest)
  | _ => false

def isDocumentMarker (spots : Spots) : Bool :=
  spots.isMarker '-' || spots.isMarker '.'

/-- What follows the blanks and the comment in the rest of a line, if nothing else is there. -/
def afterLine? (spots : Spots) : Option Spots :=
  let (_, rest) := spots.takeWhile isBlank
  let rest := if rest.next == '#' then (rest.takeWhile (!isBreakOrEnd ·)).2 else rest
  match rest with
  | [] => some []
  | s :: after =>
    if isBreak s.char then some after else if s.char == endMark then some (s :: after) else none

end Spots
end ShapeCheck.Yaml
