import ShapeCheck.Entries
import ShapeCheck.Yaml.Node
import ShapeCheck.Yaml.Token

namespace ShapeCheck.Yaml

structure Reader where
  tokens : List Token
  anchors : Entries Nat := []
  handles : List (String × TagText) := []

abbrev Reading := StateT Reader Option

namespace Reading

def peek : Reading (Option Token) :=
  return (← get).tokens.head?

def advance : Reading Unit :=
  modify fun r => { r with tokens := r.tokens.drop 1 }

def nextIsOneOf (ts : List Token) : Reading Bool :=
  return (← peek).any ts.contains

def passed (t : Token) : Reading Bool := do
  if (← peek) = some t then
    advance
    return true
  else return false

def expect (t : Token) : Reading Unit := do
  if !(← passed t) then failure

def newAnchor (name : String) : Reading Nat :=
  modifyGet fun r =>
    let number := r.anchors.length
    (number, { r with anchors := Entries.insert name number r.anchors })

/-- The text of a tag. A local tag that stands for no text is none, and any other such tag is one
that means nothing. -/
def tagName (text : TagText) : Option String :=
  match text.mapM id with
  | some cs => some (String.ofList cs)
  | none => if text.head? = some (some '!') then none else some "\uFFFD"

def resolveTag (handle : String) (suffix : TagText) : Reading (Option String) := do
  if handle.isEmpty then return tagName suffix
  else
    match (← get).handles.lookup handle with
    | some meaning => return tagName (meaning ++ suffix)
    | none => failure

def anchor? : Reading (Option String) := do
  match ← peek with
  | some (.anchor name) => advance; return some name
  | _ => return none

def tag? : Reading (Option (String × TagText)) := do
  match ← peek with
  | some (.tag handle suffix) => advance; return some (handle, suffix)
  | _ => return none

def properties : Reading (Properties × Bool) := do
  let before ← anchor?
  let tag ← tag?
  let name ← if before.isSome then pure before else anchor?
  let tagName ← match tag with
    | some (handle, suffix) => resolveTag handle suffix
    | none => pure none
  let anchor ← match name with
    | some name => some <$> newAnchor name
    | none => pure none
  return ({ anchor, tag := tagName }, name.isSome || tag.isSome)

def writtenProperties (p : Properties) : Properties :=
  if p.tag = some "!" then { p with tag := none } else p

inductive Style
  | flow
  | block
  | inMapping
  deriving DecidableEq

mutual

def node (style : Style) : Nat → Reading Node
  | 0 => failure
  | steps + 1 => do
    if let some (.aliasOf name) ← peek then
      advance
      match Entries.find? name (← get).anchors with
      | some target => return .aliasOf target
      | none => failure
    let (p, any) ← properties
    match ← peek with
    | some (.scalar text plain) =>
      advance
      return .scalar (writtenProperties p) text plain
    | some .flowSequenceStart =>
      advance
      return .sequence p (← flowItems true steps)
    | some .flowMappingStart =>
      advance
      return .mapping p (← flowEntries true steps)
    | some .blockSequenceStart =>
      if style = .flow then absent p any
      else
        advance
        return .sequence p (← blockItems steps)
    | some .blockMappingStart =>
      if style = .flow then absent p any
      else
        advance
        return .mapping p (← blockEntries steps)
    | some .blockEntry =>
      if style = .inMapping then return .sequence p (← plainItems steps) else absent p any
    | _ => absent p any
where
  absent (p : Properties) (any : Bool) : Reading Node :=
    if any then return .scalar p "" true else failure

def nodeUnless (ends : List Token) (style : Style) : Nat → Reading Node
  | 0 => failure
  | steps + 1 => do
    if ← nextIsOneOf ends then return .empty else node style steps

def valueUnless (ends : List Token) (style : Style) : Nat → Reading Node
  | 0 => failure
  | steps + 1 => do
    if ← passed .value then nodeUnless ends style steps else return .empty

def blockItems : Nat → Reading (List Node)
  | 0 => failure
  | steps + 1 => do
    if ← passed .blockEnd then return []
    expect .blockEntry
    let item ← nodeUnless [.blockEntry, .blockEnd] .block steps
    return item :: (← blockItems steps)

def plainItems : Nat → Reading (List Node)
  | 0 => failure
  | steps + 1 => do
    if ← passed .blockEntry then
      let item ← nodeUnless [.blockEntry, .key, .value, .blockEnd] .block steps
      return item :: (← plainItems steps)
    else return []

def blockEntries : Nat → Reading (List (Node × Node))
  | 0 => failure
  | steps + 1 => do
    if ← passed .blockEnd then return []
    expect .key
    let key ← nodeUnless [.key, .value, .blockEnd] .inMapping steps
    let value ← valueUnless [.key, .value, .blockEnd] .inMapping steps
    return (key, value) :: (← blockEntries steps)

def flowItems (isFirst : Bool) : Nat → Reading (List Node)
  | 0 => failure
  | steps + 1 => do
    if ← passed .flowSequenceEnd then return []
    if !isFirst then expect .flowEntry
    if ← passed .flowSequenceEnd then return []
    let item ← if ← passed .key then flowPair steps else node .flow steps
    return item :: (← flowItems false steps)

/-- A mapping of one entry in a flow sequence, after the mark of its key. Where the key is missing,
the token that stands in its place is passed. -/
def flowPair : Nat → Reading Node
  | 0 => failure
  | steps + 1 => do
    let key ←
      if ← nextIsOneOf [.value, .flowEntry, .flowSequenceEnd] then
        advance
        pure .empty
      else node .flow steps
    let value ← valueUnless [.flowEntry, .flowSequenceEnd] .flow steps
    return .mapping {} [(key, value)]

def flowEntries (isFirst : Bool) : Nat → Reading (List (Node × Node))
  | 0 => failure
  | steps + 1 => do
    if ← passed .flowMappingEnd then return []
    if !isFirst then expect .flowEntry
    if ← passed .flowMappingEnd then return []
    let entry ←
      if ← passed .key then
        let key ← nodeUnless [.value, .flowEntry, .flowMappingEnd] .flow steps
        let value ← valueUnless [.flowEntry, .flowMappingEnd] .flow steps
        pure (key, value)
      else
        let key ← node .flow steps
        pure (key, .empty)
    return entry :: (← flowEntries false steps)

end

def standardHandles : List (String × TagText) :=
  [("!", [some '!']), ("!!", (coreTag.toList.map some))]

def directives (versioned : Bool) : List Token → Reading Unit
  | .version major minor :: rest => do
    if versioned || major ≠ 1 || (minor ≠ 1 && minor ≠ 2) then failure
    advance
    directives true rest
  | .handle name meaning :: rest => do
    if (← get).handles.any (·.1 = name) then failure
    modify fun r => { r with handles := r.handles ++ [(name, meaning)] }
    advance
    directives versioned rest
  | _ => return ()

def isBetweenDocuments : Option Token → Bool
  | none | some .documentStart | some .documentEnd => true
  | some (.version _ _) | some (.handle _ _) => true
  | _ => false

/-- The content of a document. Without directives it needs no mark at its start, but then there has
to be content. -/
def content (steps : Nat) : Reading Node := do
  let marked := isBetweenDocuments (← peek) && (← peek) != some .documentEnd
  directives false (← get).tokens
  modify fun r => { r with handles := r.handles ++ standardHandles }
  if marked then
    expect .documentStart
    if isBetweenDocuments (← peek) then return .empty
  node .block steps

def document (steps : Nat) : Reading Node := do
  let root ← content steps
  if (← get).tokens.all (· == .documentEnd) then return root else failure

end Reading

def Node.ofTokens? (tokens : List Token) : Option Node :=
  if tokens.isEmpty then some .empty
  else (Reading.document (2 * tokens.length + 4)).run' { tokens }

end ShapeCheck.Yaml
