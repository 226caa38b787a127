import ShapeCheck.Text.Hex
import ShapeCheck.Yaml.Spot

namespace ShapeCheck.Yaml

/-- The blanks and line breaks since the last word of a scalar; `blanks` and `further` are in
reverse. -/
structure Gap where
  blanks : List Char := []
  broken : Bool := false
  first : Option Char := none
  further : List Char := []

namespace Gap

def isEmpty (g : Gap) : Bool :=
  g.blanks.isEmpty && !g.broken

def add (g : Gap) (c : Char) : Gap :=
  if isBlank c then if g.broken then g else { g with blanks := c :: g.blanks }
  else if g.broken then { g with further := c :: g.further }
  else { broken := true, first := some c }

def folded (g : Gap) : List Char :=
  if !g.broken then g.blanks
  else
    match g.first with
    | some '\n' => if g.further.isEmpty then [' '] else g.further
    | some c => g.further ++ [c]
    | none => g.further

end Gap

structure PlainContext where
  inFlow : Bool
  indent : Int

def endsPlain (inFlow : Bool) (spots : Spots) : Bool :=
  (spots.next == ':' && isGap (spots.ahead 1)) ||
    (inFlow && ",[]\x7b\x7d".toList.contains spots.next)

def isStrayColon (inFlow : Bool) (spots : Spots) : Bool :=
  inFlow && spots.next == ':' && ",?[]\x7b\x7d".toList.contains (spots.ahead 1)

def endsAtGap (context : PlainContext) (s : Spot) : Bool :=
  s.char == '#' || (!context.inFlow && (s.column : Int) < context.indent)

def readPlainOn? (context : PlainContext) :
    Nat → List Char → Gap → Spots → Option (String × Bool × Spots)
  | steps + 1, read, gap, s :: rest =>
    let spots := s :: rest
    let ended := some (String.ofList read.reverse, gap.broken, spots)
    if isBlank s.char || isBreak s.char then
      if gap.broken && s.char == '\t' && (s.column : Int) < context.indent then none
      else readPlainOn? context steps read (gap.add s.char) rest
    else if s.char == endMark || Spots.isDocumentMarker spots then ended
    else if !gap.isEmpty && endsAtGap context s then ended
    else if isStrayColon context.inFlow spots then none
    else if endsPlain context.inFlow spots then ended
    else readPlainOn? context steps (s.char :: (gap.folded ++ read)) {} rest
  | _, _, _, _ => none

def readPlain? (context : PlainContext) (spots : Spots) : Option (String × Bool × Spots) :=
  readPlainOn? context spots.length [] {} spots

def shortEscape? (c : Char) : Option Char :=
  match c with
  | '0' => some '\x00'
  | 'a' => some '\x07'
  | 'b' => some '\x08'
  | 't' => some '\t'
  | '\t' => some '\t'
  | 'n' => some '\n'
  | 'v' => some '\x0b'
  | 'f' => some '\x0c'
  | 'r' => some '\r'
  | 'e' => some '\x1b'
  | ' ' => some ' '
  | '"' => some '"'
  | '/' => some '/'
  | '\\' => some '\\'
  | 'N' => some '\u0085'
  | '_' => some '\u00a0'
  | 'L' => some '\u2028'
  | 'P' => some '\u2029'
  | _ => none

def escapeDigits (c : Char) : Nat :=
  match c with
  | 'x' => 2
  | 'u' => 4
  | 'U' => 8
  | _ => 0

def readEscape? (spots : Spots) : Option (Char × Spots) :=
  let count := escapeDigits spots.next
  if count = 0 then (shortEscape? spots.next).map (·, spots.skip)
  else do
    let digits := (spots.skip.take count).map Spot.char
    let code ← Text.ofHex? digits
    if digits.length = count ∧ code.isValidChar then
      return (Char.ofNat code, spots.drop (count + 1))
    else none

def readQuotedOn? (mark : Char) : Nat → List Char → Gap → Spots → Option (String × Spots)
  | steps + 1, read, gap, s :: rest =>
    if s.char == endMark || Spots.isDocumentMarker (s :: rest) then none
    else if isBlank s.char || isBreak s.char then
      readQuotedOn? mark steps read (gap.add s.char) rest
    else
      let read := gap.folded ++ read
      let next := Spots.next rest
      if s.char == mark then
        if mark == '\'' && next == mark then
          readQuotedOn? mark steps (mark :: read) {} (Spots.skip rest)
        else some (String.ofList read.reverse, rest)
      else if mark == '"' && s.char == '\\' then
        if isBreak next then readQuotedOn? mark steps read { broken := true } (Spots.skip rest)
        else
          match readEscape? rest with
          | some (c, after) => readQuotedOn? mark steps (c :: read) {} after
          | none => none
      else readQuotedOn? mark steps (s.char :: read) {} rest
  | _, _, _, _ => none

def readQuoted? (mark : Char) (spots : Spots) : Option (String × Spots) :=
  readQuotedOn? mark spots.length [] {} spots

inductive Chomping
  | strip
  | clip
  | keep
  deriving DecidableEq

structure BlockHeader where
  chomping : Chomping := .clip
  indent : Nat := 0

def chomping? (c : Char) : Option Chomping :=
  match c with
  | '-' => some .strip
  | '+' => some .keep
  | _ => none

def readIndent? (spots : Spots) : Option (Nat × Spots) :=
  if !spots.next.isDigit then some (0, spots)
  else if spots.next = '0' then none
  else some (spots.next.toNat - '0'.toNat, spots.skip)

def readHeader? (spots : Spots) : Option (BlockHeader × Spots) := do
  match chomping? spots.next with
  | some chomping =>
    let (indent, rest) ← readIndent? spots.skip
    return ({ chomping, indent }, rest)
  | none =>
    let (indent, rest) ← readIndent? spots
    if indent = 0 then return ({}, rest)
    else
      match chomping? rest.next with
      | some chomping => return ({ chomping, indent }, rest.skip)
      | none => return ({ indent }, rest)

/-- Skips empty lines and the indentation of the next line: the greatest column met, the line breaks
skipped, in reverse, and what follows. -/
def skipEmptyLines? (indent widest : Nat) (breaks : List Char) :
    Spots → Option (Nat × List Char × Spots)
  | [] => none
  | s :: rest =>
    let inIndent := indent = 0 || s.column < indent
    if s.char == ' ' && inIndent then skipEmptyLines? indent widest breaks rest
    else
      let widest := max widest s.column
      if s.char == '\t' && inIndent then none
      else if isBreak s.char then skipEmptyLines? indent widest (s.char :: breaks) rest
      else some (widest, breaks, s :: rest)

/-- What has been read of a block. All texts are in reverse. -/
structure BlockText where
  read : List Char := []
  lineEnd : List Char := []
  breaks : List Char := []
  indented : Bool := false

def BlockText.join (literal indented : Bool) (t : BlockText) : List Char :=
  if !literal && t.lineEnd == ['\n'] && !t.indented && !indented then
    if t.breaks.isEmpty then ' ' :: t.read else t.breaks ++ t.read
  else t.breaks ++ t.lineEnd ++ t.read

def BlockText.finish (chomping : Chomping) (t : BlockText) : String :=
  let text := match chomping with
    | .strip => t.read
    | .clip => t.lineEnd ++ t.read
    | .keep => t.breaks ++ t.lineEnd ++ t.read
  String.ofList text.reverse

def readBlockLines? (literal : Bool) (indent : Nat) :
    Nat → BlockText → Spots → Option (BlockText × Spots)
  | steps + 1, t, s :: rest =>
    if s.column ≠ indent || s.char == endMark then some (t, s :: rest)
    else
      let indented := isBlank s.char
      let (line, after) := Spots.takeWhile (!isBreakOrEnd ·) (s :: rest)
      let read := line.reverse ++ t.join literal indented
      if isBreak after.next then
        match skipEmptyLines? indent 0 [] after.skip with
        | some (_, breaks, after') =>
          readBlockLines? literal indent steps
            { read, lineEnd := [after.next], breaks, indented } after'
        | none => none
      else some ({ read, indented }, after)
  | _, _, _ => none

def readBlock? (literal : Bool) (outer : Int) (spots : Spots) : Option (String × Spots) := do
  let (header, rest) ← readHeader? spots
  let rest ← rest.afterLine?
  let told := if header.indent = 0 then 0 else (max outer 0).toNat + header.indent
  let (widest, breaks, rest) ← skipEmptyLines? told 0 [] rest
  let indent := if told = 0 then max (max widest (outer + 1).toNat) 1 else told
  let (text, rest) ← readBlockLines? literal indent (rest.length + 1) { breaks } rest
  return (text.finish header.chomping, rest)

end ShapeCheck.Yaml
