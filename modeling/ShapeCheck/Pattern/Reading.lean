import ShapeCheck.Pattern.Bracket

namespace ShapeCheck.Pattern

open Unicode

/-! ## Leaves -/

def Primitive.tree? (mode : Mode) : Primitive → Option Tree
  | .character c byte =>
    if !mode.unicode && byte && 127 < c.toNat then none
    else if mode.unicode ∨ c.toNat ≤ 127 then
      some (.take (if mode.unicode then mode.foldSet (.single c)
        else .inter (mode.foldSet (.single c)) asciiSet))
    else some (.take (.single c))
  | .letterClass cls negated =>
    if mode.unicode then
      some (.take (if negated then .compl cls.unicode else cls.unicode))
    else if negated then none
    else some (.take cls.ascii)
  | p@(.property _ _) => (p.set? mode).map .take
  | .dot =>
    if !mode.unicode then none
    else if mode.dotAll then some (.take (.compl .empty))
    else if mode.crlf then some (.take (.compl (.ranges [(10, 10), (13, 13)])))
    else some (.take (.compl (.single '\n')))
  | .lineStart =>
    some (.ask (if !mode.multiline then .textStart
      else if mode.crlf then .lineStartCrlf else .lineStart))
  | .lineEnd =>
    some (.ask (if !mode.multiline then .textEnd
      else if mode.crlf then .lineEndCrlf else .lineEnd))
  | .textStart => some (.ask .textStart)
  | .textEnd => some (.ask .textEnd)
  | .wordBoundary => some (.ask (.wordBoundary mode.unicode))
  | .insideOrOutsideWord => some (.ask (.insideOrOutsideWord mode.unicode))
  | .wordStart => some (.ask (.wordStart mode.unicode))
  | .wordEnd => some (.ask (.wordEnd mode.unicode))

/-! ## Repetitions -/

abbrev Counts := Nat × Option Nat

def countLimit : Nat := 4294967295

def dropLazyMark : List Char → List Char
  -- Whether a text matches does not depend on which repetitions are tried first.
  | '?' :: rest => rest
  | cs => cs

theorem length_dropLazyMark_le (cs : List Char) : (dropLazyMark cs).length ≤ cs.length := by
  unfold dropLazyMark
  split <;> simp

def checkCounts? (counts : Counts) : Option Counts :=
  let (least, most) := counts
  if least ≤ countLimit && most.getD 0 ≤ countLimit && most.all (least ≤ ·) then some counts
  else none

def readCount (verbose : Bool) (cs : List Char) : Option Nat × List Char :=
  let (n, r) := readDecimal verbose none (cs.dropWhile isBlank)
  (n, r.dropWhile isBlank)

theorem readCount_le (verbose : Bool) (cs : List Char) :
    (readCount verbose cs).2.length ≤ cs.length :=
  Nat.le_trans (List.dropWhile_suffix _).length_le
    (Nat.le_trans (readDecimal_le _ _ _) (List.dropWhile_suffix _).length_le)

def finishCounts (verbose : Bool) (counts : Counts) : List Char → Option (Counts × List Char)
  | '\x7d' :: rest =>
    (checkCounts? counts).map fun counts => (counts, dropLazyMark (skip verbose rest))
  | _ => none

theorem finishCounts_le {verbose : Bool} {counts counts' : Counts} {cs r : List Char}
    (h : finishCounts verbose counts cs = some (counts', r)) : r.length ≤ cs.length := by
  unfold finishCounts at h
  split at h
  next rest =>
    obtain ⟨_, _, same⟩ := Option.map_eq_some_iff.1 h
    cases same
    exact Nat.le_succ_of_le (Nat.le_trans (length_dropLazyMark_le _) (length_skip_le _ _))
  · cases h

def readMost (verbose : Bool) (least : Nat) (cs : List Char) : Option (Counts × List Char) :=
  match cs with
  | '\x7d' :: _ => finishCounts verbose (least, none) cs
  | _ => do
    let (most, r) := readCount verbose cs
    finishCounts verbose (least, some (← most)) r

theorem readMost_le {verbose : Bool} {least : Nat} {counts : Counts} {cs r : List Char}
    (h : readMost verbose least cs = some (counts, r)) : r.length ≤ cs.length := by
  unfold readMost at h
  split at h
  · exact finishCounts_le h
  · obtain ⟨_, _, finished⟩ := Option.bind_eq_some_iff.1 h
    exact Nat.le_trans (finishCounts_le finished) (readCount_le _ _)

def readAfterLeast (verbose : Bool) (least : Nat) : List Char → Option (Counts × List Char)
  | ',' :: rest => readMost verbose least (skip verbose rest)
  | cs => finishCounts verbose (least, some least) cs

theorem readAfterLeast_le {verbose : Bool} {least : Nat} {counts : Counts} {cs r : List Char}
    (h : readAfterLeast verbose least cs = some (counts, r)) : r.length ≤ cs.length := by
  unfold readAfterLeast at h
  split at h
  · exact Nat.le_succ_of_le (Nat.le_trans (readMost_le h) (length_skip_le _ _))
  · exact finishCounts_le h

def readCounts (verbose : Bool) (cs : List Char) : Option (Counts × List Char) := do
  let (least, r) := readCount verbose (skip verbose cs)
  readAfterLeast verbose (← least) r

theorem readCounts_le {verbose : Bool} {counts : Counts} {cs r : List Char}
    (h : readCounts verbose cs = some (counts, r)) : r.length ≤ cs.length := by
  obtain ⟨_, _, read⟩ := Option.bind_eq_some_iff.1 h
  exact Nat.le_trans (readAfterLeast_le read)
    (Nat.le_trans (readCount_le _ _) (length_skip_le _ _))

/-! ## Groups -/

inductive GroupHead
  | group (mode : Mode) (name : Option (List Char))
  | settings (mode : Mode)

def isNameChar (first : Bool) (c : Char) : Bool :=
  if first then c = '_' || Property.alphabetic.contains c.toNat
  else c = '_' || c = '.' || c = '[' || c = ']' || Property.alphabetic.contains c.toNat ||
    (categories Category.numbers).contains c.toNat

def readName (name : List Char) : List Char → Option (List Char × List Char)
  | [] => none
  | c :: rest =>
    if c = '>' then if name.isEmpty then none else some (name.reverse, rest)
    else if isNameChar name.isEmpty c then readName (c :: name) rest
    else none

theorem readName_lt {name text cs r : List Char} (h : readName name cs = some (text, r)) :
    r.length < cs.length := by
  fun_induction readName name cs with
  | case1 => cases h
  | case2 => cases h
  | case3 =>
      cases h
      exact Nat.lt_succ_self _
  | case4 _ _ _ _ _ ih => exact Nat.lt_succ_of_lt (ih h)
  | case5 => cases h

def GroupHead.ofSettings? : Mode × Bool × Mode.GroupTail → Option GroupHead
  | (inner, bare, .close) => if bare then none else some (.settings inner)
  | (inner, _, .body) => some (.group inner none)

def readSwitches (mode : Mode) (cs : List Char) : Option (GroupHead × List Char) := do
  let (settings, r) ← mode.readSettings [] false false cs
  (GroupHead.ofSettings? settings).map fun head => (head, r)

theorem readSwitches_lt {mode : Mode} {head : GroupHead} {cs r : List Char}
    (h : readSwitches mode cs = some (head, r)) : r.length < cs.length := by
  obtain ⟨⟨settings, r'⟩, read, begun⟩ := Option.bind_eq_some_iff.1 h
  obtain ⟨_, _, same⟩ := Option.map_eq_some_iff.1 begun
  cases same
  exact Mode.readSettings_lt read

def readNamed (mode : Mode) (cs : List Char) : Option (GroupHead × List Char) :=
  (readName [] cs).map fun (name, r) => (.group mode (some name), r)

theorem readNamed_lt {mode : Mode} {head : GroupHead} {cs r : List Char}
    (h : readNamed mode cs = some (head, r)) : r.length < cs.length := by
  obtain ⟨_, read, same⟩ := Option.map_eq_some_iff.1 h
  cases same
  exact readName_lt read

def readMarked (mode : Mode) : List Char → Option (GroupHead × List Char)
  | 'P' :: '<' :: rest => readNamed mode rest
  | '<' :: rest => readNamed mode rest
  | cs => readSwitches mode cs

theorem readMarked_lt {mode : Mode} {head : GroupHead} {cs r : List Char}
    (h : readMarked mode cs = some (head, r)) : r.length < cs.length := by
  unfold readMarked at h
  split at h
  · exact Nat.lt_succ_of_lt (Nat.lt_succ_of_lt (readNamed_lt h))
  · exact Nat.lt_succ_of_lt (readNamed_lt h)
  · exact readSwitches_lt h

def readGroupHead (mode : Mode) : List Char → Option (GroupHead × List Char)
  | '?' :: rest => readMarked mode rest
  | cs => some (.group mode none, cs)

theorem readGroupHead_le {mode : Mode} {head : GroupHead} {cs r : List Char}
    (h : readGroupHead mode cs = some (head, r)) : r.length ≤ cs.length := by
  unfold readGroupHead at h
  split at h
  · exact Nat.le_succ_of_le (Nat.le_of_lt (readMarked_lt h))
  · cases h
    exact Nat.le_refl _

/-! ## Sequences and choices -/

/-- A part of a sequence. Settings are parts too: they cannot be repeated, and count as parts. -/
inductive Part
  | settings
  | tree (t : Nested Tree)

namespace Part

def depth : Part → Nat
  | settings => 0
  | tree t => t.depth

def tree? : Part → Option Tree
  | settings => none
  | tree t => some t.value

end Part

def sequence (parts : List Part) : Nested Tree :=
  let deepest := (parts.map Part.depth).foldl max 0
  ⟨Node.seqAll (parts.filterMap Part.tree?), if 1 < parts.length then deepest + 1 else deepest⟩

/-- An open group, or the whole pattern: the branches before the current one and the parts of the
current one, both in reverse, and the mode to return to when the group is closed. -/
structure OpenGroup where
  branches : List (Nested Tree) := []
  parts : List Part := []
  outerMode : Mode

namespace OpenGroup

def add (g : OpenGroup) (part : Part) : OpenGroup :=
  { g with parts := part :: g.parts }

def branch (g : OpenGroup) : OpenGroup :=
  { g with branches := sequence g.parts.reverse :: g.branches, parts := [] }

def close (g : OpenGroup) : Nested Tree :=
  let last := sequence g.parts.reverse
  match g.branches with
  | [] => last
  | branches =>
    let all := (last :: branches).reverse
    ⟨Node.altAll (all.map (·.value)), (all.map (·.depth)).foldl max 0 + 1⟩

def repeatLast? (g : OpenGroup) (counts : Counts) : Option OpenGroup :=
  match g.parts with
  | .tree t :: rest =>
    some { g with parts := .tree ⟨.times t.value counts.1 counts.2, t.depth + 1⟩ :: rest }
  | _ => none

end OpenGroup

/-! ## Tokens -/

inductive Token
  | head (head : GroupHead)
  | close
  | branch
  | repetition (counts : Counts)
  | tree (t : Nested Tree)

def readToken (mode : Mode) : List Char → Option (Token × List Char)
  | '(' :: rest =>
    (readGroupHead mode (skip mode.verbose rest)).map fun (head, r) => (.head head, r)
  | ')' :: rest => some (.close, rest)
  | '|' :: rest => some (.branch, rest)
  | '[' :: rest =>
    (readBracket mode rest).map fun (set, r) => (.tree ⟨.take set.value, set.depth⟩, r)
  | '?' :: rest => some (.repetition (0, some 1), dropLazyMark rest)
  | '*' :: rest => some (.repetition (0, none), dropLazyMark rest)
  | '+' :: rest => some (.repetition (1, none), dropLazyMark rest)
  | '\x7b' :: rest =>
    (readCounts mode.verbose rest).map fun (counts, r) => (.repetition counts, r)
  | cs => do
    let (primitive, r) ← readPrimitive mode.verbose cs
    (primitive.tree? mode).map fun tree => (.tree ⟨tree, 0⟩, r)

theorem readToken_lt {mode : Mode} {token : Token} {cs r : List Char}
    (h : readToken mode cs = some (token, r)) : r.length < cs.length := by
  unfold readToken at h
  split at h
  · obtain ⟨_, read, same⟩ := Option.map_eq_some_iff.1 h
    cases same
    exact Nat.lt_succ_of_le (Nat.le_trans (readGroupHead_le read) (length_skip_le _ _))
  · cases h
    exact Nat.lt_succ_self _
  · cases h
    exact Nat.lt_succ_self _
  · obtain ⟨_, read, same⟩ := Option.map_eq_some_iff.1 h
    cases same
    exact Nat.lt_succ_of_lt (readBracket_lt read)
  · cases h
    exact Nat.lt_succ_of_le (length_dropLazyMark_le _)
  · cases h
    exact Nat.lt_succ_of_le (length_dropLazyMark_le _)
  · cases h
    exact Nat.lt_succ_of_le (length_dropLazyMark_le _)
  · obtain ⟨_, read, same⟩ := Option.map_eq_some_iff.1 h
    cases same
    exact Nat.lt_succ_of_le (readCounts_le read)
  · obtain ⟨⟨primitive, r'⟩, read, planted⟩ := Option.bind_eq_some_iff.1 h
    obtain ⟨_, _, same⟩ := Option.map_eq_some_iff.1 planted
    cases same
    exact readPrimitive_lt read

/-! ## Reading -/

structure Reader where
  mode : Mode
  names : List (List Char) := []
  inner : OpenGroup
  outer : List OpenGroup := []

namespace Reader

def start (mode : Mode) : Reader where
  mode := mode
  inner := { outerMode := mode }

/-- What a word does to a reader. A group has to have a name of its own, and only an open group can
be closed. -/
def next? (s : Reader) : Token → Option Reader
  | .head (.settings mode) => some { s with mode, inner := s.inner.add .settings }
  | .head (.group mode name) =>
    let opened (names : List (List Char)) : Reader :=
      { mode, names, inner := { outerMode := s.mode }, outer := s.inner :: s.outer }
    match name with
    | none => some (opened s.names)
    | some n => if s.names.contains n then none else some (opened (n :: s.names))
  | .close =>
    match s.outer with
    | [] => none
    | outer :: others =>
      let group := s.inner.close
      some { s with
        mode := s.inner.outerMode
        inner := outer.add (.tree ⟨group.value, group.depth + 1⟩)
        outer := others }
  | .branch => some { s with inner := s.inner.branch }
  | .repetition counts => (s.inner.repeatLast? counts).map fun inner => { s with inner }
  | .tree t => some { s with inner := s.inner.add (.tree t) }

def read (s : Reader) (cs : List Char) : Option Reader :=
  if (skip s.mode.verbose cs).isEmpty then some s
  else
    match _read : readToken s.mode (skip s.mode.verbose cs) with
    | none => none
    | some (token, r) =>
      match s.next? token with
      | none => none
      | some s' => s'.read r
termination_by cs.length
decreasing_by exact Nat.lt_of_lt_of_le (readToken_lt ‹_›) (length_skip_le _ _)

end Reader

def readNested (mode : Mode) (cs : List Char) : Option (Nested Tree) := do
  let s ← (Reader.start mode).read cs
  if s.outer.isEmpty then some s.inner.close else none

def depthLimit : Nat := 250

def readTree (mode : Mode) (cs : List Char) : Option Tree := do
  let read ← readNested mode cs
  if read.depth ≤ depthLimit then some read.value else none

end ShapeCheck.Pattern
