import ShapeCheck.Pattern
import ShapeCheck.Proofs.Pattern.Reader

namespace ShapeCheck.Pattern

open Reader

def anchor (mode : Mode) : OpenGroup where
  parts := [.tree ⟨.ask .textStart, 0⟩]
  outerMode := mode

variable {mode : Mode} {cs : List Char}

theorem read_anchored (plain : mode.verbose = false) (cs : List Char) :
    (start mode).read (anchored cs) = ((start mode).within [anchor mode]).read (cs ++ [')']) := by
  have skips (r : List Char) : skip mode.verbose r = r := by
    rw [plain]
    rfl
  have text : anchored cs = '\\' :: 'A' :: '(' :: '?' :: ':' :: (cs ++ [')']) := rfl
  have anchoring : readToken mode (skip mode.verbose (anchored cs)) =
      some (.tree ⟨.ask .textStart, 0⟩, '(' :: '?' :: ':' :: (cs ++ [')'])) := by
    rw [skips]
    rfl
  have opening : readToken mode (skip mode.verbose ('(' :: '?' :: ':' :: (cs ++ [')']))) =
      some (.head (.group mode none), cs ++ [')']) := by
    simp only [skips, readToken, readGroupHead]
    rfl
  rw [read_of_readToken (s := start mode) anchoring, next?, Option.bind_some, read_of_readToken opening]
  rfl

theorem close_anchor (mode : Mode) (n : Nested Tree) :
    ((anchor mode).add (.tree ⟨n.value, n.depth + 1⟩)).close =
      ⟨.seq (.ask .textStart) n.value, n.depth + 2⟩ := by
  simp [anchor, OpenGroup.add, OpenGroup.close, sequence, Part.depth, Part.tree?, Node.seqAll]

theorem readNested_eq_some {n : Nested Tree} :
    readNested mode cs = some n ↔
      ∃ t, (start mode).read cs = some t ∧ t.outer = [] ∧ t.inner.close = n := by
  simp [readNested, Option.bind_eq_some_iff]

theorem readNested_anchored (plain : mode.verbose = false) {n : Nested Tree}
    (h : readNested mode cs = some n) :
    readNested mode (anchored cs) =
      if readNested mode (cs ++ [')']) = none then
        some ⟨.seq (.ask .textStart) n.value, n.depth + 2⟩
      else none := by
  obtain ⟨t, alone, closed, rfl⟩ := readNested_eq_some.1 h
  rcases read_append_close alone with closes | swallowed
  · have stuck : readNested mode (cs ++ [')']) = none := by
      have := closes []
      rw [within_nil, within_nil, next?, closed] at this
      rw [readNested, this]
      rfl
    rw [if_pos stuck, readNested, read_anchored plain, closes [anchor mode]]
    simp only [next?, within, closed, List.nil_append]
    exact congrArg some (close_anchor mode t.inner.close)
  · have found : readNested mode (cs ++ [')']) ≠ none := by
      have := swallowed []
      rw [within_nil, within_nil] at this
      simp [readNested, this, closed]
    rw [if_neg found, readNested, read_anchored plain, swallowed]
    simp [within_outer]

end ShapeCheck.Pattern
