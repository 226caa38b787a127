import ShapeCheck.Pattern.Lexical

namespace ShapeCheck.Pattern

open Unicode

structure Nested (α : Type) where
  value : α
  depth : Nat

/-! ## Sets under a mode -/

def asciiSet : CharSet := .ranges [(0, 127)]

/-- The set with the characters that differ from a member in case, where the mode ignores case.
Without Unicode only ASCII letters have case. -/
def Mode.foldSet (mode : Mode) (s : CharSet) : CharSet :=
  if mode.ignoreCase then
    if mode.unicode then .anyCase s else .union s (.inter (.anyCase s) asciiSet)
  else s

/-- The folded set or its complement. Without Unicode the set is one of bytes, and only a set of
ASCII bytes is a set of characters. -/
def Mode.finishSet? (mode : Mode) (negated : Bool) (s : CharSet) : Option CharSet :=
  let folded := mode.foldSet s
  let result := if negated then .compl folded else folded
  if mode.unicode then some result
  else if (List.range 128).all fun i => !result.contains (128 + i) then
    some (.inter result asciiSet)
  else none

def Primitive.set? (mode : Mode) : Primitive → Option CharSet
  | .character c byte =>
    if mode.unicode ∨ byte ∨ c.toNat ≤ 127 then some (.single c) else none
  | .letterClass cls negated =>
    if mode.unicode then
      some (if negated then .compl cls.unicode else cls.unicode)
    else if negated then none
    else some cls.ascii
  | .property set negated =>
    if mode.unicode then do
      let folded := mode.foldSet (← set)
      some (if negated then .compl folded else folded)
    else none
  | _ => none

/-! ## Unions and operations -/

inductive SetOperation
  | intersection
  | difference
  | symmetricDifference
  deriving DecidableEq

def SetOperation.apply : SetOperation → CharSet → CharSet → CharSet
  | .intersection => .inter
  | .difference => .diff
  | .symmetricDifference => .symmDiff

structure ItemUnion where
  set : CharSet := .empty
  count : Nat := 0
  depth : Nat := 0

def ItemUnion.add (u : ItemUnion) (item : Nested CharSet) : ItemUnion where
  set := if u.count = 0 then item.value else .union u.set item.value
  count := u.count + 1
  depth := max u.depth item.depth

def ItemUnion.close (u : ItemUnion) : Nested CharSet :=
  ⟨u.set, if 1 < u.count then u.depth + 1 else u.depth⟩

/-- An open bracket: whether it is negated, the left side of an operation that waits for its right
side, and the union being read. -/
structure OpenBracket where
  negated : Bool
  waiting : Option (SetOperation × Nested CharSet) := none
  items : ItemUnion := {}

namespace OpenBracket

def add (b : OpenBracket) (item : Nested CharSet) : OpenBracket :=
  { b with items := b.items.add item }

def combined (mode : Mode) (b : OpenBracket) : Nested CharSet :=
  let right := b.items.close
  match b.waiting with
  | none => right
  | some (operation, left) =>
    ⟨operation.apply (mode.foldSet left.value) (mode.foldSet right.value),
      max left.depth right.depth + 1⟩

def operate (mode : Mode) (operation : SetOperation) (b : OpenBracket) : OpenBracket :=
  { negated := b.negated, waiting := some (operation, b.combined mode) }

def close? (mode : Mode) (b : OpenBracket) : Option (Nested CharSet) :=
  let all := b.combined mode
  (mode.finishSet? b.negated all.value).map fun s => ⟨s, all.depth + 1⟩

end OpenBracket

/-! ## Tokens -/

def readDashes (verbose : Bool) (items : ItemUnion) : List Char → ItemUnion × List Char
  | [] => (items, [])
  | c :: rest =>
    if c = '-' then readDashes verbose (items.add ⟨.single '-', 0⟩) (skip verbose rest)
    else (items, c :: rest)
termination_by cs => cs.length
decreasing_by exact Nat.lt_succ_of_le (length_skip_le verbose rest)

theorem readDashes_le (verbose : Bool) (items : ItemUnion) (cs : List Char) :
    (readDashes verbose items cs).2.length ≤ cs.length := by
  fun_induction readDashes verbose items cs with
  | case1 => exact Nat.le_refl _
  | case2 _ rest ih =>
      have := length_skip_le verbose rest
      simp only [List.length_cons]
      omega
  | case3 => exact Nat.le_refl _

def readSign (verbose : Bool) : List Char → Bool × List Char
  | '^' :: rest => (true, skip verbose rest)
  | cs => (false, cs)

theorem readSign_le (verbose : Bool) (cs : List Char) :
    (readSign verbose cs).2.length ≤ cs.length := by
  unfold readSign
  split
  · exact Nat.le_succ_of_le (length_skip_le _ _)
  · exact Nat.le_refl _

def readFirstClosing (verbose : Bool) (items : ItemUnion) : List Char → ItemUnion × List Char
  | ']' :: rest =>
    if items.count = 0 then (items.add ⟨.single ']', 0⟩, skip verbose rest)
    else (items, ']' :: rest)
  | cs => (items, cs)

theorem readFirstClosing_le (verbose : Bool) (items : ItemUnion) (cs : List Char) :
    (readFirstClosing verbose items cs).2.length ≤ cs.length := by
  unfold readFirstClosing
  split
  next rest =>
    split
    · exact Nat.le_succ_of_le (length_skip_le verbose rest)
    · exact Nat.le_refl _
  · exact Nat.le_refl _

def readOpening (verbose : Bool) (cs : List Char) : OpenBracket × List Char :=
  let (negated, afterSign) := readSign verbose (skip verbose cs)
  let (dashes, afterDashes) := readDashes verbose {} afterSign
  let (items, r) := readFirstClosing verbose dashes afterDashes
  ({ negated, items }, r)

theorem readOpening_le (verbose : Bool) (cs : List Char) :
    (readOpening verbose cs).2.length ≤ cs.length :=
  Nat.le_trans (readFirstClosing_le _ _ _)
    (Nat.le_trans (readDashes_le _ _ _) (Nat.le_trans (readSign_le _ _) (length_skip_le _ _)))

def readAsciiName (negated : Bool) (cs : List Char) : Option (Bool × CodeRanges × List Char) :=
  match cs.dropWhile (· != ':') with
  | ':' :: ']' :: r =>
    (asciiClass? (cs.takeWhile (· != ':'))).map fun ranges => (negated, ranges, r)
  | _ => none

def readAsciiClass : List Char → Option (Bool × CodeRanges × List Char)
  | ':' :: '^' :: rest => readAsciiName true rest
  | ':' :: rest => readAsciiName false rest
  | _ => none

theorem readAsciiName_lt {negated neg : Bool} {ranges : CodeRanges} {cs r : List Char}
    (h : readAsciiName negated cs = some (neg, ranges, r)) : r.length < cs.length := by
  have dropped : (cs.dropWhile (· != ':')).length ≤ cs.length :=
    (List.dropWhile_suffix _).length_le
  rw [readAsciiName] at h
  split at h
  next r' eq =>
    obtain ⟨_, _, same⟩ := Option.map_eq_some_iff.1 h
    cases same
    simp only [eq, List.length_cons] at dropped
    omega
  · cases h

theorem readAsciiClass_lt {neg : Bool} {ranges : CodeRanges} {cs r : List Char}
    (h : readAsciiClass cs = some (neg, ranges, r)) : r.length < cs.length := by
  unfold readAsciiClass at h
  split at h
  · exact Nat.lt_succ_of_lt (Nat.lt_succ_of_lt (readAsciiName_lt h))
  · exact Nat.lt_succ_of_lt (readAsciiName_lt h)
  · cases h

def readItem (verbose : Bool) : List Char → Option (Primitive × List Char)
  | [] => none
  | c :: rest =>
    if c = '\\' then readEscape verbose rest else some (.character c false, rest)

theorem readItem_lt {verbose : Bool} {p : Primitive} {cs r : List Char}
    (h : readItem verbose cs = some (p, r)) : r.length < cs.length := by
  cases cs with
  | nil => cases h
  | cons c rest =>
      simp only [readItem] at h
      split at h
      · exact Nat.lt_succ_of_lt (readEscape_lt h)
      · cases h
        exact Nat.lt_succ_self _

/-- Whether a dash before this text is no sign of a range. -/
def endsItem (verbose : Bool) (cs : List Char) : Bool :=
  let next := nextVisible verbose cs
  next == some ']' || next == some '-'

def rangeOf? (mode : Mode) (first last : Primitive) : Option CharSet :=
  match first, last with
  | .character a _, .character b _ => do
    let _ ← first.set? mode
    let _ ← last.set? mode
    if a ≤ b then some (.ranges [(a.toNat, b.toNat)]) else none
  | _, _ => none

def itemAlone (mode : Mode) (item : Primitive) (cs : List Char) : Option (CharSet × List Char) :=
  (item.set? mode).map fun set => (set, cs)

def readRangeEnd (mode : Mode) (first : Primitive) (cs : List Char) :
    Option (CharSet × List Char) :=
  match cs with
  | '-' :: rest =>
    if endsItem mode.verbose rest then itemAlone mode first cs
    else do
      let (last, r) ← readItem mode.verbose (skip mode.verbose rest)
      (rangeOf? mode first last).map fun set => (set, r)
  | _ => itemAlone mode first cs

theorem itemAlone_le {mode : Mode} {item : Primitive} {set : CharSet} {cs r : List Char}
    (h : itemAlone mode item cs = some (set, r)) : r.length ≤ cs.length := by
  obtain ⟨_, _, same⟩ := Option.map_eq_some_iff.1 h
  cases same
  exact Nat.le_refl _

theorem readRangeEnd_le {mode : Mode} {first : Primitive} {set : CharSet} {cs r : List Char}
    (h : readRangeEnd mode first cs = some (set, r)) : r.length ≤ cs.length := by
  unfold readRangeEnd at h
  split at h
  next rest =>
    split at h
    · exact itemAlone_le h
    · obtain ⟨⟨last, r'⟩, read, ranged⟩ := Option.bind_eq_some_iff.1 h
      obtain ⟨_, _, same⟩ := Option.map_eq_some_iff.1 ranged
      cases same
      have := readItem_lt read
      have := length_skip_le mode.verbose rest
      simp only [List.length_cons]
      omega
  · exact itemAlone_le h

def readRange (mode : Mode) (cs : List Char) : Option (CharSet × List Char) := do
  let (first, r) ← readItem mode.verbose cs
  readRangeEnd mode first (skip mode.verbose r)

theorem readRange_lt {mode : Mode} {set : CharSet} {cs r : List Char}
    (h : readRange mode cs = some (set, r)) : r.length < cs.length := by
  simp only [readRange, Option.bind_eq_bind, Option.bind_eq_some_iff, Prod.exists] at h
  obtain ⟨first, r', item, range⟩ := h
  exact Nat.lt_of_le_of_lt (Nat.le_trans (readRangeEnd_le range) (length_skip_le _ _))
    (readItem_lt item)

inductive BracketToken
  | opening (bracket : OpenBracket)
  | closing
  | operation (operation : SetOperation)
  | asciiClass (negated : Bool) (ranges : CodeRanges)
  | range (set : CharSet)

def readInnerBracket (verbose : Bool) (cs : List Char) : BracketToken × List Char :=
  match readAsciiClass cs with
  | some (negated, ranges, r) => (.asciiClass negated ranges, r)
  | none =>
    let (bracket, r) := readOpening verbose cs
    (.opening bracket, r)

theorem readInnerBracket_le (verbose : Bool) (cs : List Char) :
    (readInnerBracket verbose cs).2.length ≤ cs.length := by
  unfold readInnerBracket
  split
  next read => exact Nat.le_of_lt (readAsciiClass_lt read)
  · exact readOpening_le verbose cs

def readOperation : List Char → Option (SetOperation × List Char)
  | '&' :: '&' :: rest => some (.intersection, rest)
  | '-' :: '-' :: rest => some (.difference, rest)
  | '~' :: '~' :: rest => some (.symmetricDifference, rest)
  | _ => none

theorem readOperation_lt {operation : SetOperation} {cs r : List Char}
    (h : readOperation cs = some (operation, r)) : r.length < cs.length := by
  unfold readOperation at h
  split at h
  · cases h
    exact Nat.lt_succ_of_lt (Nat.lt_succ_self _)
  · cases h
    exact Nat.lt_succ_of_lt (Nat.lt_succ_self _)
  · cases h
    exact Nat.lt_succ_of_lt (Nat.lt_succ_self _)
  · cases h

def readBracketToken (mode : Mode) (cs : List Char) : Option (BracketToken × List Char) :=
  match cs with
  | '[' :: rest => some (readInnerBracket mode.verbose rest)
  | ']' :: rest => some (.closing, rest)
  | _ =>
    match readOperation cs with
    | some (operation, r) => some (.operation operation, r)
    | none => (readRange mode cs).map fun (set, r) => (.range set, r)

theorem readBracketToken_lt {mode : Mode} {token : BracketToken} {cs r : List Char}
    (h : readBracketToken mode cs = some (token, r)) : r.length < cs.length := by
  unfold readBracketToken at h
  split at h
  next rest =>
    have := readInnerBracket_le mode.verbose rest
    rw [Option.some.inj h] at this
    exact Nat.lt_succ_of_le this
  · cases h
    exact Nat.lt_succ_self _
  · split at h
    next read =>
      cases h
      exact readOperation_lt read
    · obtain ⟨_, read, same⟩ := Option.map_eq_some_iff.1 h
      cases same
      exact readRange_lt read

/-! ## Reading -/

structure OpenBrackets where
  inner : OpenBracket
  outer : List OpenBracket := []

namespace OpenBrackets

def add (b : OpenBrackets) (item : Nested CharSet) : OpenBrackets :=
  { b with inner := b.inner.add item }

def next? (mode : Mode) (b : OpenBrackets) :
    BracketToken → Option (OpenBrackets ⊕ Nested CharSet)
  | .opening bracket => some (.inl ⟨bracket, b.inner :: b.outer⟩)
  | .closing => do
    let set ← b.inner.close? mode
    match b.outer with
    | [] => some (.inr set)
    | outer :: others => some (.inl ⟨outer.add set, others⟩)
  | .operation operation => some (.inl { b with inner := b.inner.operate mode operation })
  | .asciiClass negated ranges => do
    let set ← mode.finishSet? negated (.ranges ranges)
    some (.inl (b.add ⟨set, 0⟩))
  | .range set => some (.inl (b.add ⟨set, 0⟩))

end OpenBrackets

def readBrackets (mode : Mode) (b : OpenBrackets) (cs : List Char) :
    Option (Nested CharSet × List Char) :=
  match _read : readBracketToken mode (skip mode.verbose cs) with
  | none => none
  | some (token, r) =>
    match b.next? mode token with
    | none => none
    | some (.inr set) => some (set, r)
    | some (.inl b') => readBrackets mode b' r
termination_by cs.length
decreasing_by exact Nat.lt_of_lt_of_le (readBracketToken_lt ‹_›) (length_skip_le _ _)

theorem readBrackets_lt {mode : Mode} {b : OpenBrackets} {set : Nested CharSet}
    {cs r : List Char} (h : readBrackets mode b cs = some (set, r)) : r.length < cs.length := by
  fun_induction readBrackets mode b cs with
  | case1 => cases h
  | case2 => cases h
  | case3 _ cs _ _ read =>
      cases h
      exact Nat.lt_of_lt_of_le (readBracketToken_lt read) (length_skip_le _ _)
  | case4 _ cs _ _ read _ _ ih =>
      exact Nat.lt_trans (ih h) (Nat.lt_of_lt_of_le (readBracketToken_lt read) (length_skip_le _ _))

def readBracket (mode : Mode) (cs : List Char) : Option (Nested CharSet × List Char) :=
  let (bracket, r) := readOpening mode.verbose cs
  readBrackets mode { inner := bracket } r

theorem readBracket_lt {mode : Mode} {set : Nested CharSet} {cs r : List Char}
    (h : readBracket mode cs = some (set, r)) : r.length < cs.length :=
  Nat.lt_of_lt_of_le (readBrackets_lt h) (readOpening_le _ _)

end ShapeCheck.Pattern
