import Mathlib.Data.Finset.Card
import Mathlib.Data.Finset.Range
import ShapeCheck.Pattern.Footprint

namespace ShapeCheck.Pattern

open Unicode

theorem nodup_eraseDups {α : Type} [BEq α] [LawfulBEq α] (as : List α) : as.eraseDups.Nodup := by
  induction size : as.length using Nat.strongRecOn generalizing as with
  | _ n ih =>
      cases as with
      | nil => exact List.nodup_nil
      | cons a as =>
          have fewer : (as.filter fun b => !b == a).length < n := by
            have := List.length_filter_le (fun b => !b == a) as
            rw [← size, List.length_cons]
            omega
          rw [List.eraseDups_cons, List.nodup_cons]
          refine ⟨fun member => ?_, ih _ fewer _ rfl⟩
          simp [List.mem_eraseDups] at member

theorem rangeCount_le {set : CharSet} {last : Nat} (within : ∀ code ∈ borders set, code ≤ last) :
    rangeCount set ≤ 2 * (last + 1) := by
  have few : (borders set).eraseDups.length ≤ last + 1 := by
    have inside : (borders set).eraseDups.toFinset ⊆ Finset.range (last + 1) := by
      intro code member
      rw [List.mem_toFinset, List.mem_eraseDups] at member
      exact Finset.mem_range.2 (Nat.lt_succ_of_le (within code member))
    have counted := Finset.card_le_card inside
    rwa [List.toFinset_card_of_nodup (nodup_eraseDups _), Finset.card_range] at counted
  have starts := (List.length_filter_le (fun code => set.contains code &&
    (code == 0 || !set.contains (code - 1))) (borders set).eraseDups).trans few
  simp only [rangeCount]
  split <;> omega

theorem footprint_take_le (set : CharSet) :
    Tree.footprint (.take set) ≤ 4 * stateRoom + 2 * stateRoom * rangeCount set := by
  unfold Tree.footprint
  split
  next a b =>
    have := Char.utf8Size_le_four (Char.ofNat a)
    simp only [stateRoom]
    split <;> omega
  · simp only [stateRoom]
    split <;> omega

end ShapeCheck.Pattern
