import ShapeCheck.Yaml.Spot
import ShapeCheck.Yaml.Token

/-!
# Layout

What the tokens so far tell about the next one: the columns of the block collections that are open,
how deep in flow collections it is, whether a key may stand here, and where the last token is that
turns out to be a key if a colon follows it. Such a candidate has to be followed by its colon on the
same line and within 1024 characters; where the column demands a key, a candidate without a colon is
an error.
-/

namespace ShapeCheck.Yaml

/-- A place that becomes a key if a colon follows. -/
structure Candidate where
  position : Nat
  spot : Spot
  required : Bool

namespace Candidate

def reach : Nat := 1024

/-- Drops a candidate that is too far from a spot, unless it had to become a key. -/
def keep? (s : Spot) : Option Candidate → Option (Option Candidate)
  | none => some none
  | some c =>
    if c.spot.line < s.line ∨ c.spot.index + reach < s.index then
      if c.required then none else some none
    else some (some c)

end Candidate

/-- The tokens so far, the last one first, and what they tell. -/
structure Layout where
  tokens : List Token := []
  /-- The column of the innermost open block collection, or `-1`. -/
  indent : Int := -1
  outerIndents : List Int := []
  keyAllowed : Bool := true
  candidate : Option Candidate := none
  outerCandidates : List (Option Candidate) := []

namespace Layout

def inFlow (l : Layout) : Bool :=
  !l.outerCandidates.isEmpty

def push (l : Layout) (t : Token) : Layout :=
  { l with tokens := t :: l.tokens }

def insertAt (l : Layout) (position : Nat) (ts : List Token) : Layout :=
  let later := l.tokens.length - position
  { l with tokens := l.tokens.take later ++ ts.reverse ++ l.tokens.drop later }

def dropStale? (s : Spot) (l : Layout) : Option Layout := do
  let candidate ← Candidate.keep? s l.candidate
  let outerCandidates ← l.outerCandidates.mapM (Candidate.keep? s)
  return { l with candidate, outerCandidates }

def forget? (l : Layout) : Option Layout :=
  if l.candidate.any (·.required) then none else some { l with candidate := none }

def remember? (s : Spot) (l : Layout) : Option Layout :=
  if l.keyAllowed then do
    let l ← l.forget?
    let required := !l.inFlow && l.indent == s.column
    return { l with candidate := some { position := l.tokens.length, spot := s, required } }
  else some l

def allowKey (allowed : Bool) (l : Layout) : Layout :=
  { l with keyAllowed := allowed }

def closeTo (column : Int) (tokens : List Token) (indent : Int) :
    List Int → List Token × Int × List Int
  | [] => (tokens, indent, [])
  | outer :: rest =>
    if column < indent then closeTo column (.blockEnd :: tokens) outer rest
    else (tokens, indent, outer :: rest)

def unroll (column : Int) (l : Layout) : Layout :=
  if l.inFlow then l
  else
    let (tokens, indent, outerIndents) := closeTo column l.tokens l.indent l.outerIndents
    { l with tokens, indent, outerIndents }

/-- Starts a block collection in a column, unless there is one already, where `position` tokens are
before it. -/
def roll (column : Int) (position : Nat) (start : Token) (l : Layout) : Layout :=
  if l.inFlow ∨ column ≤ l.indent then l
  else { l.insertAt position [start] with
    indent := column, outerIndents := l.indent :: l.outerIndents }

def enterFlow (l : Layout) : Layout :=
  { l with candidate := none, outerCandidates := l.candidate :: l.outerCandidates }

def leaveFlow (l : Layout) : Layout :=
  match l.outerCandidates with
  | [] => l
  | candidate :: outerCandidates => { l with candidate, outerCandidates }

def openFlow? (start : Token) (s : Spot) (l : Layout) : Option Layout := do
  let l ← l.remember? s
  return (l.enterFlow.allowKey true).push start

def closeFlow? (ending : Token) (l : Layout) : Option Layout := do
  let l ← l.forget?
  return (l.leaveFlow.allowKey false).push ending

def separate? (l : Layout) : Option Layout := do
  let l ← l.forget?
  return (l.allowKey true).push .flowEntry

def rollHere? (start : Token) (s : Spot) (l : Layout) : Option Layout :=
  if l.inFlow then some l
  else if l.keyAllowed then some (l.roll s.column l.tokens.length start)
  else none

def startItem? (s : Spot) (l : Layout) : Option Layout := do
  let l ← l.rollHere? .blockSequenceStart s
  let l ← l.forget?
  return (l.allowKey true).push .blockEntry

def startKey? (s : Spot) (l : Layout) : Option Layout := do
  let l ← l.rollHere? .blockMappingStart s
  let l ← l.forget?
  return (l.allowKey (!l.inFlow)).push .key

def startValue? (s : Spot) (l : Layout) : Option Layout :=
  match l.candidate with
  | some c =>
    let l := l.insertAt c.position [.key]
    let l := l.roll c.spot.column c.position .blockMappingStart
    some (({ l with candidate := none }.allowKey false).push .value)
  | none => do
    let l ← l.rollHere? .blockMappingStart s
    return (l.allowKey (!l.inFlow)).push .value

def property? (t : Token) (s : Spot) (l : Layout) : Option Layout := do
  let l ← l.remember? s
  return (l.allowKey false).push t

def atLineStart? (t : Token) (l : Layout) : Option Layout := do
  let l ← (l.unroll (-1)).forget?
  return (l.allowKey false).push t

def finish? (l : Layout) : Option (List Token) := do
  let l ← (l.unroll (-1)).forget?
  return l.tokens.reverse

end Layout
end ShapeCheck.Yaml
