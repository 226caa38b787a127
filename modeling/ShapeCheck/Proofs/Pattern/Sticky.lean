import ShapeCheck.Proofs.Pattern.Anchored
import ShapeCheck.Proofs.Pattern.Flag
import ShapeCheck.Proofs.Pattern.Spans

/-!
# Sticky patterns

A sticky pattern is read from its source in a group after the start of the text. `build_sticky` says
what that changes: which sources can be read, and that both patterns of a source that can be read
with and without the flag match alike from the start of a text.
-/

namespace ShapeCheck.Pattern

open ShapeCheck.Pattern.Flag

theorem buildWithin_eq_ok {limit : SizeLimit} {source letters : String} {flags : List Flag}
    (accepted : canonical letters = .ok flags) {p : Pattern} :
    buildWithin limit source letters = .ok p ↔ ∃ tree, treeOf? limit source flags = some tree ∧
      p = { source, flags, tree } := by
  simp only [buildWithin, accepted]
  cases treeOf? limit source flags with
  | none => simp
  | some tree => simp [eq_comm]

theorem readTree_eq_some {mode : Mode} {text : List Char} {tree : Tree} :
    readTree mode text = some tree ↔
      ∃ n, readNested mode text = some n ∧ n.depth ≤ depthLimit ∧ n.value = tree := by
  simp only [readTree, Option.bind_eq_bind, Option.bind_eq_some_iff, Option.ite_none_right_eq_some,
    Option.some.injEq]

theorem treeOf?_eq_some {limit : SizeLimit} {source : String} {flags : List Flag} {tree : Tree} :
    treeOf? limit source flags = some tree ↔
      ∃ n, readNested (modeOf flags) (effectiveText source flags) = some n ∧
        n.depth ≤ depthLimit ∧ n.value = tree ∧
        limit (modeOf flags) (effectiveText source flags) = true := by
  simp only [treeOf?, Option.bind_eq_bind, Option.bind_eq_some_iff, Option.ite_none_right_eq_some,
    Option.some.injEq, readTree_eq_some]
  constructor
  · rintro ⟨tree', ⟨n, read, shallow, rfl⟩, allowed, rfl⟩
    exact ⟨n, read, shallow, rfl, allowed⟩
  · rintro ⟨n, read, shallow, rfl, allowed⟩
    exact ⟨n.value, ⟨n, read, shallow, rfl⟩, allowed, rfl⟩

theorem estimatedLimit_of_readNested {mode : Mode} {text : List Char} {n : Nested Tree}
    (read : readNested mode text = some n) (shallow : n.depth ≤ depthLimit)
    (small : n.value.footprint ≤ Tree.roomLimit) : estimatedLimit mode text = true := by
  rw [estimatedLimit, readTree_eq_some.2 ⟨n, read, shallow, rfl⟩]
  exact decide_eq_true small

theorem isMatch_anchored (tree : Tree) (text : List Char) :
    Tree.isMatch (.seq (.ask .textStart) tree) text = true ↔ ∃ j, tree.Spans text 0 j := by
  rw [Tree.isMatch_iff]
  constructor
  · intro given
    obtain ⟨i, inside, j, k, ⟨_, start, same⟩, spans⟩ := given
    subst same
    cases k with
    | zero => exact ⟨j, spans⟩
    | succ k =>
        have there : text[k]? = some text[k] := List.getElem?_eq_getElem inside
        simp [Place.holds, before, there] at start
  · intro given
    obtain ⟨j, spans⟩ := given
    exact ⟨0, Nat.zero_le _, j, 0, ⟨Nat.zero_le _, rfl, rfl⟩, spans⟩

theorem isMatch_anchored_twice (tree : Tree) (text : List Char) :
    Tree.isMatch (.seq (.ask .textStart) (.seq (.ask .textStart) tree)) text =
      Tree.isMatch (.seq (.ask .textStart) tree) text := by
  refine Bool.eq_iff_iff.2 ?_
  rw [isMatch_anchored, isMatch_anchored]
  constructor
  · rintro ⟨j, k, ⟨-, -, rfl⟩, rest⟩
    exact ⟨j, rest⟩
  · rintro ⟨j, rest⟩
    exact ⟨j, 0, ⟨Nat.zero_le _, rfl, rfl⟩, rest⟩

theorem build_of_readNested {source letters : String} {flags : List Flag} {body : List Char}
    {tree : Tree} {depth : Nat} (accepted : canonical letters = .ok flags)
    (written : asciiClasses (flags.contains unicodeSets) 0 source.toList = body)
    (read : readNested (modeOf flags) body = some ⟨.seq (.ask .textStart) tree, depth⟩)
    (closed : readNested (modeOf flags) (body ++ [')']) = none) (shallow : depth + 2 ≤ depthLimit)
    (room : tree.footprint + stateRoom + stateRoom ≤ Tree.roomLimit) :
    ∃ p, build source letters = .ok p ∧
      ∀ text : String, p.isMatch text = true ↔ ∃ j, tree.Spans text.toList 0 j := by
  have size (t : Tree) : Tree.footprint (.seq (.ask .textStart) t) = stateRoom + t.footprint := rfl
  have built {n : Nested Tree} (reads : readNested (modeOf flags) (effectiveText source flags) =
      some n) (flat : n.depth ≤ depthLimit) (small : n.value.footprint ≤ Tree.roomLimit) :
      build source letters = .ok { source, flags, tree := n.value } :=
    (buildWithin_eq_ok accepted).2 ⟨_, treeOf?_eq_some.2
      ⟨n, reads, flat, rfl, estimatedLimit_of_readNested reads flat small⟩, rfl⟩
  by_cases anchoring : flags.contains sticky = true
  · have grouped := readNested_anchored rfl read
    rw [if_pos closed] at grouped
    have reads : readNested (modeOf flags) (effectiveText source flags) = some
        ⟨.seq (.ask .textStart) (.seq (.ask .textStart) tree), depth + 2⟩ := by
      rw [effectiveText, if_pos anchoring, written, grouped]
    refine ⟨_, built reads shallow (by simp only [size]; omega), fun text => ?_⟩
    rw [Pattern.isMatch, isMatch_anchored_twice, isMatch_anchored]
  · have reads : readNested (modeOf flags) (effectiveText source flags) = some
        ⟨.seq (.ask .textStart) tree, depth⟩ := by
      rw [effectiveText, if_neg anchoring, written, read]
    exact ⟨_, built reads (Nat.le_of_add_right_le shallow) (by simp only [size]; omega),
      fun text => isMatch_anchored _ _⟩

end ShapeCheck.Pattern
