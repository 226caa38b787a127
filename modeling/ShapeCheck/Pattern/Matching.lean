import ShapeCheck.Pattern.Node
import ShapeCheck.Unicode.Property

/-!
# Trying a pattern on a text

A text of `n` characters has the positions `0` to `n`. A set of positions is a natural number whose
bit `i` tells whether `i` belongs to it. `Node.reach` takes the set of positions at which a pattern
may start to the set of positions at which it may end, so all ways to match are followed at once and
the work does not depend on their number.
-/

namespace ShapeCheck.Pattern

open Unicode

/-- A set of positions, one bit each. -/
abbrev Positions := Nat

namespace Positions

def ofAnswers : List Bool → Positions
  | [] => 0
  | b :: rest => b.toNat + 2 * ofAnswers rest

def without (s t : Positions) : Positions :=
  s ^^^ (s &&& t)

def iterate (f : Positions → Positions) : Nat → Positions → Positions
  | 0, s => s
  | n + 1, s =>
    let t := f s
    if t = s then s else iterate f n t

/-- `seen` with all that up to `rounds` applications of `f` reach from `border`. -/
def close (f : Positions → Positions) : Nat → Positions → Positions → Positions
  | 0, seen, _ => seen
  | rounds + 1, seen, border =>
    let found := without (f border) seen
    if found = 0 then seen else close f rounds (seen ||| found) found

end Positions

/-- The positions at which a pattern over position sets may end when it starts in `s`. A text with
`limit` positions needs at most `limit` rounds of any repetition. -/
def Node.reach (limit : Nat) : Node Positions Positions → Positions → Positions
  | .empty, s => s
  | .take before, s => (s &&& before) <<< 1
  | .ask here, s => s &&& here
  | .seq a b, s => b.reach limit (a.reach limit s)
  | .alt a b, s => a.reach limit s ||| b.reach limit s
  | .times a least most, s =>
    let start := Positions.iterate (a.reach limit) least s
    let rounds := match most with
      | none => limit
      | some m => m - least
    Positions.close (a.reach limit) rounds start start

def surroundings (previous : Option Char) : List Char → List (Option Char × Option Char)
  | [] => [(previous, none)]
  | c :: rest => (previous, some c) :: surroundings (some c) rest

def asciiWord : CodeRanges := [(48, 57), (65, 90), (95, 95), (97, 122)]

def unicodeWord : CharSet :=
  .union (.union Property.alphabetic Property.joinControl)
    (categories [.nonspacingMark, .spacingMark, .enclosingMark, .decimalNumber,
      .connectorPunctuation])

def isWord (unicode : Bool) (c : Option Char) : Bool :=
  match c with
  | none => false
  | some c => if unicode then unicodeWord.contains c.toNat else asciiWord.contains c.toNat

def Place.holds (before after : Option Char) : Place → Bool
  | .textStart => before.isNone
  | .textEnd => after.isNone
  | .lineStart => before.isNone || before == some '\n'
  | .lineEnd => after.isNone || after == some '\n'
  | .lineStartCrlf =>
    before.isNone || before == some '\n' || (before == some '\r' && after != some '\n')
  | .lineEndCrlf =>
    after.isNone || after == some '\r' || (after == some '\n' && before != some '\r')
  | .wordBoundary u => isWord u before != isWord u after
  | .insideOrOutsideWord u => isWord u before == isWord u after
  | .wordStart u => !isWord u before && isWord u after
  | .wordEnd u => isWord u before && !isWord u after

def Tree.on (text : List Char) (tree : Tree) : Node Positions Positions :=
  tree.map
    (fun s => Positions.ofAnswers (text.map fun c => s.contains c.toNat))
    (fun place => Positions.ofAnswers ((surroundings none text).map fun p => place.holds p.1 p.2))

def Tree.ends (tree : Tree) (text : List Char) (s : Positions) : Positions :=
  (tree.on text).reach (text.length + 1) s

def Tree.isMatch (tree : Tree) (text : List Char) : Bool :=
  tree.ends text (1 <<< (text.length + 1) - 1) != 0

end ShapeCheck.Pattern
