import ShapeCheck.Pattern.Node

/-!
# The footprint of a pattern

An engine refuses a pattern that is too large once its repetitions are written out. The footprint is
an estimate of that size: a room for each state that the written-out pattern has on UTF-8. The exact
limit is the engine's own.
-/

namespace ShapeCheck.Pattern

open Unicode

/-- The code points at which membership in a set may change, case aside: those at which ranges start
and those that follow their ends. -/
def borders : CharSet → List Nat
  | .ranges rs => rs.flatMap fun r => [r.1, r.2 + 1]
  | .compl s => 0 :: borders s
  | .anyCase s => borders s
  | .union s t | .inter s t | .diff s t | .symmDiff s t => borders s ++ borders t

def ignoresCase : CharSet → Bool
  | .ranges _ => false
  | .compl s => ignoresCase s
  | .anyCase _ => true
  | .union s t | .inter s t | .diff s t | .symmDiff s t => ignoresCase s || ignoresCase t

def rangeCount (s : CharSet) : Nat :=
  let starts := (borders s).eraseDups.filter fun code =>
    s.contains code && (code == 0 || !s.contains (code - 1))
  if ignoresCase s then 2 * starts.length else starts.length

def isAscii (s : CharSet) : Bool :=
  (borders s).all (· ≤ 128) && [0x17F, 0x212A, 0x10FFFF].all fun code => !s.contains code

def stateRoom : Nat := 32

namespace Tree

def takesNothing : Tree → Bool
  | .empty | .ask _ => true
  | .take _ => false
  | .seq a b | .alt a b => takesNothing a && takesNothing b
  | .times a _ most => most == some 0 || takesNothing a

/-- The room for a pattern. A part that takes nothing is never written out more than once. -/
def footprint : Tree → Nat
  | .empty | .ask _ => stateRoom
  | .take s =>
    match s with
    | .ranges [(a, b)] => if a = b then (Char.ofNat a).utf8Size * stateRoom else stateRoom
    | s => if isAscii s then stateRoom + 8 * rangeCount s else stateRoom + 2 * stateRoom * rangeCount s
  | .seq a b => footprint a + footprint b
  | .alt a b => footprint a + footprint b + stateRoom
  | .times a least most =>
    let copies := match most with
      | none => max least 1
      | some m => m
    let written := if takesNothing a then min copies 1 else copies
    written * (footprint a) + stateRoom

def roomLimit : Nat := 10485760

end Tree
end ShapeCheck.Pattern
