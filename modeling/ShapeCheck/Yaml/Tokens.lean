import ShapeCheck.Yaml.Layout
import ShapeCheck.Yaml.Properties
import ShapeCheck.Yaml.Scalar

namespace ShapeCheck.Yaml

/-- Skips blanks, line breaks and comments. Tabs are skipped only where they cannot be indentation.
In block style a key may stand in a new line. -/
def skipGaps (inFlow keyAllowed inComment : Bool) : Spots → Bool × Spots
  | [] => (keyAllowed, [])
  | s :: rest =>
    if isBreak s.char then skipGaps inFlow (keyAllowed || !inFlow) false rest
    else if inComment && s.char != endMark then skipGaps inFlow keyAllowed true rest
    else if s.char == '#' then skipGaps inFlow keyAllowed true rest
    else if s.char == ' ' || (s.char == '\t' && (inFlow || !keyAllowed)) ||
        (s.char == '\uFEFF' && s.index == 0) then
      skipGaps inFlow keyAllowed false rest
    else (keyAllowed, s :: rest)

def startsPlain (inFlow : Bool) (spots : Spots) : Bool :=
  let c := spots.next
  if c == '-' then !isBlank (spots.ahead 1)
  else if c == '?' || c == ':' then !inFlow && !isGap (spots.ahead 1)
  else !(isGap c || ",[]\x7b\x7d#&*!|>'\"%@\x60".toList.contains c)

abbrev Step := Option (Layout × Spots)

def blockStep? (literal : Bool) (l : Layout) (rest : Spots) : Step := do
  let l ← l.forget?
  let (text, after) ← readBlock? literal l.indent rest
  return ((l.allowKey true).push (.scalar text false), after)

def quotedStep? (s : Spot) (l : Layout) (rest : Spots) : Step := do
  let l ← l.remember? s
  let (text, after) ← readQuoted? s.char rest
  return ((l.allowKey false).push (.scalar text false), after)

def plainStep? (s : Spot) (l : Layout) (spots : Spots) : Step := do
  let l ← l.remember? s
  let (text, lineEnded, after) ← readPlain? { inFlow := l.inFlow, indent := l.indent + 1 } spots
  return ((l.allowKey lineEnded).push (.scalar text true), after)

def namedStep? (token : String → Token) (s : Spot) (l : Layout) (rest : Spots) : Step := do
  let (name, after) ← readName? rest
  let l ← l.property? (token name) s
  return (l, after)

def tagStep? (s : Spot) (l : Layout) (rest : Spots) : Step := do
  let (tag, after) ← readTag? l.inFlow rest
  let l ← l.property? tag s
  return (l, after)

def lineStep? (s : Spot) (l : Layout) (rest : Spots) : Option Step :=
  let spots := s :: rest
  if s.column == 0 && s.char == '%' then
    some do
      let (token, after) ← readDirective? rest
      let l ← l.atLineStart? token
      return (l, after)
  else if Spots.isMarker '-' spots then
    some ((l.atLineStart? .documentStart).map (·, spots.drop 3))
  else if Spots.isMarker '.' spots then
    some ((l.atLineStart? .documentEnd).map (·, spots.drop 3))
  else none

def step? (s : Spot) (l : Layout) (rest : Spots) : Step :=
  let before : Option Layout → Step := fun l => l.map (·, rest)
  let gapFollows := isGap (Spots.next rest)
  match lineStep? s l rest with
  | some step => step
  | none =>
    match s.char with
    | '[' => before (l.openFlow? .flowSequenceStart s)
    | '\x7b' => before (l.openFlow? .flowMappingStart s)
    | ']' => before (l.closeFlow? .flowSequenceEnd)
    | '\x7d' => before (l.closeFlow? .flowMappingEnd)
    | ',' => before l.separate?
    | '*' => namedStep? .aliasOf s l rest
    | '&' => namedStep? .anchor s l rest
    | '!' => tagStep? s l rest
    | '\'' => quotedStep? s l rest
    | '"' => quotedStep? s l rest
    | c =>
      if c == '-' && gapFollows then before (l.startItem? s)
      else if c == '?' && (l.inFlow || gapFollows) then before (l.startKey? s)
      else if c == ':' && (l.inFlow || gapFollows) then before (l.startValue? s)
      else if c == '|' && !l.inFlow then blockStep? true l rest
      else if c == '>' && !l.inFlow then blockStep? false l rest
      else if startsPlain l.inFlow (s :: rest) then plainStep? s l (s :: rest)
      else none

def tokensFrom? : Nat → Layout → Spots → Option (List Token)
  | 0, _, _ => none
  | steps + 1, l, spots =>
    match skipGaps l.inFlow l.keyAllowed false spots with
    | (_, []) => none
    | (keyAllowed, s :: rest) => do
      let l ← (l.allowKey keyAllowed).dropStale? s
      let l := l.unroll s.column
      if s.char = endMark then l.finish?
      else
        let (l, after) ← step? s l rest
        tokensFrom? steps l after

def tokens? (text : String) : Option (List Token) := do
  let spots ← locate? text
  tokensFrom? spots.length {} spots

end ShapeCheck.Yaml
