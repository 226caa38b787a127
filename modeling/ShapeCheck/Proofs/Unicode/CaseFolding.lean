import Mathlib.Data.List.Chain
import ShapeCheck.Unicode.CharSet

namespace ShapeCheck.Unicode

theorem FoldRow.covers_iff {row : FoldRow} {code : Nat} :
    row.covers code = true ↔
      row.first ≤ code ∧ code ≤ row.last ∧ (code - row.first) % row.step = 0 := by
  simp only [covers, Bool.and_eq_true, decide_eq_true_eq, beq_iff_eq, and_assoc]

theorem foldRows_apart : foldRows.Pairwise fun row other => row.last < other.first := by
  let Before (row other : FoldRow) : Prop := row.first ≤ row.last ∧ row.last < other.first
  have chain : foldRows.IsChain Before := by decide +kernel
  have : Trans Before Before Before :=
    ⟨fun before after => ⟨before.1, before.2.trans_le (after.1.trans after.2.le)⟩⟩
  exact (List.isChain_iff_pairwise.1 chain).imp And.right

theorem foldRows_positive : ∀ row ∈ foldRows, 0 < row.first ∧ 0 ≤ row.first + row.shift := by
  decide +kernel

theorem foldRow_unique {row other : FoldRow} {code : Nat} (h : row ∈ foldRows)
    (h' : other ∈ foldRows) (covers : row.covers code = true) (covers' : other.covers code = true) :
    row = other := by
  let Apart (row other : FoldRow) : Prop := ¬(row.covers code = true ∧ other.covers code = true)
  have apart : foldRows.Pairwise Apart := by
    refine foldRows_apart.imp fun {row other} before both => ?_
    have := FoldRow.covers_iff.1 both.1
    have := FoldRow.covers_iff.1 both.2
    omega
  have : Std.Symm Apart := ⟨fun row other h both => h both.symm⟩
  refine Classical.byContradiction fun different => ?_
  exact apart.forall h h' different ⟨covers, covers'⟩

theorem foldCase_of_covers {row : FoldRow} {code : Nat} (h : row ∈ foldRows)
    (covers : row.covers code = true) : (foldCase code : Int) = code + row.shift := by
  have inside := FoldRow.covers_iff.1 covers
  have positive := foldRows_positive row h
  rw [foldCase]
  cases found : foldRows.find? (·.covers code) with
  | none => exact absurd covers (List.find?_eq_none.1 found row h)
  | some other =>
      have covers' := List.find?_some found
      obtain rfl := foldRow_unique h (List.mem_of_find?_eq_some found) covers covers'
      dsimp only
      omega

theorem foldCase_cases (code : Nat) :
    (foldCase code = code ∧ ∀ row ∈ foldRows, row.covers code = false) ∨
      ∃ row ∈ foldRows, row.covers code = true ∧ (foldCase code : Int) = code + row.shift := by
  cases found : foldRows.find? (·.covers code) with
  | none =>
      refine .inl ⟨by rw [foldCase, found], fun row h => ?_⟩
      exact Bool.eq_false_iff.2 (List.find?_eq_none.1 found row h)
  | some row =>
      have h := List.mem_of_find?_eq_some found
      have covers := List.find?_some found
      exact .inr ⟨row, h, covers, foldCase_of_covers h covers⟩

theorem mem_foldSources {v folded : Nat} :
    v ∈ foldSources folded ↔
      v = folded ∨ ∃ row ∈ foldRows, row.covers v = true ∧ (v : Int) + row.shift = folded := by
  simp only [foldSources, List.mem_cons, List.mem_filterMap, Option.ite_none_right_eq_some,
    Option.some.injEq]
  refine or_congr_right ⟨?_, ?_⟩
  · rintro ⟨row, h, covers, rfl⟩
    have inside := FoldRow.covers_iff.1 covers
    have positive := foldRows_positive row h
    exact ⟨row, h, covers, by omega⟩
  · rintro ⟨row, h, covers, same⟩
    have source : ((folded : Int) - row.shift).toNat = v := by omega
    exact ⟨row, h, by rwa [source], source⟩

theorem mem_caseVariants {v code : Nat} :
    v ∈ caseVariants code ↔ v = foldCase code ∨ foldCase v = foldCase code := by
  rw [caseVariants, mem_foldSources]
  constructor
  · rintro (same | ⟨row, h, covers, same⟩)
    · exact .inl same
    · have := foldCase_of_covers h covers
      exact .inr (by omega)
  · rintro (same | same)
    · exact .inl same
    · rcases foldCase_cases v with ⟨itself, -⟩ | ⟨row, h, covers, folded⟩
      · exact .inl (itself.symm.trans same)
      · exact .inr ⟨row, h, covers, by omega⟩

theorem CharSet.contains_anyCase {s : CharSet} {code : Nat} :
    (anyCase s).contains code = true ↔
      s.contains (foldCase code) = true ∨ ∃ v, s.contains v = true ∧ foldCase v = foldCase code := by
  simp only [contains, List.any_eq_true, mem_caseVariants]
  constructor
  · rintro ⟨v, rfl | same, member⟩
    · exact .inl member
    · exact .inr ⟨v, member, same⟩
  · rintro (member | ⟨v, member, same⟩)
    · exact ⟨_, .inl rfl, member⟩
    · exact ⟨v, .inr same, member⟩

theorem CharSet.contains_anyCase_iff {s : CharSet} {P : Nat → Prop}
    (stable : ∀ code, P (foldCase code) ↔ P code) (within : ∀ code, s.contains code = true → P code)
    (reached : ∀ code, P code → ∃ v, s.contains v = true ∧ foldCase v = foldCase code) {code : Nat} :
    (anyCase s).contains code = true ↔ P code := by
  rw [contains_anyCase]
  constructor
  · rintro (member | ⟨v, member, same⟩)
    · exact (stable code).1 (within _ member)
    · rw [← stable, ← same, stable]
      exact within v member
  · exact fun given => .inr (reached code given)

theorem foldRows_ascii : ∀ row ∈ foldRows,
    (row.first = 65 ∧ row.last = 90 ∧ row.shift = 32) ∨
      (row.first = 383 ∧ row.last = 383 ∧ row.shift = -268) ∨
      (row.first = 8490 ∧ row.last = 8490 ∧ row.shift = -8383) ∨
      128 ≤ row.first ∧ 128 ≤ row.first + row.shift ∧
        (row.last + row.shift < 383 ∨ 383 < row.first + row.shift) ∧
        (row.last + row.shift < 8490 ∨ 8490 < row.first + row.shift) := by
  decide +kernel

theorem foldCase_of_ascii {code : Nat} (ascii : code < 128) :
    foldCase code = if 65 ≤ code ∧ code ≤ 90 then code + 32 else code := by
  split
  next capital =>
    have capitals : (⟨65, 90, 1, 32⟩ : FoldRow) ∈ foldRows := List.mem_cons_self
    have folded := foldCase_of_covers capitals
      (FoldRow.covers_iff.2 ⟨capital.1, capital.2, Nat.mod_one _⟩)
    dsimp only at folded
    omega
  next small =>
    rcases foldCase_cases code with ⟨itself, -⟩ | ⟨row, h, covers, folded⟩
    · exact itself
    · have inside := FoldRow.covers_iff.1 covers
      have := foldRows_ascii row h
      omega

theorem foldCase_longS : foldCase 383 = 115 := by
  decide +kernel

theorem foldCase_kelvin : foldCase 8490 = 107 := by
  decide +kernel

theorem foldCase_of_not_ascii {code : Nat} (large : 128 ≤ code) (notLongS : code ≠ 383)
    (notKelvin : code ≠ 8490) :
    128 ≤ foldCase code ∧ foldCase code ≠ 383 ∧ foldCase code ≠ 8490 := by
  rcases foldCase_cases code with ⟨itself, -⟩ | ⟨row, h, covers, folded⟩
  · omega
  · have inside := FoldRow.covers_iff.1 covers
    have := foldRows_ascii row h
    omega

end ShapeCheck.Unicode
