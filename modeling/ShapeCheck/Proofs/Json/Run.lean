import ShapeCheck.Json
import ShapeCheck.Proofs.Value.Run

namespace ShapeCheck.Json
open Value (Run Making)

mutual

theorem run_toValue (j : Json) {hand : List Value} {next : Identity} (run : Run hand next) :
    ∃ more, Run (more ++ hand) (j.toValue.run next).2 ∧ (j.toValue.run next).1 ∈ more := by
  cases j with
  | array items =>
      obtain ⟨more, inner, made⟩ := run_toValues items run
      have members : ∀ v ∈ ((toValues items).run next).1, v ∈ more ++ hand :=
        fun v member => List.mem_append_left hand (made v member)
      exact ⟨_ :: more, inner.make (.array members) rfl, List.mem_cons_self⟩
  | object entries =>
      obtain ⟨more, inner, made⟩ := run_toEntries entries run
      have members : ∀ p ∈ ((toEntries entries).run next).1, p.2 ∈ more ++ hand :=
        fun p member => List.mem_append_left hand (made p member)
      exact ⟨_ :: more, inner.make (.object .object members) rfl, List.mem_cons_self⟩
  | null | bool | number | string =>
      exact ⟨[_], run.make (.scalar rfl) rfl, List.mem_cons_self⟩

theorem run_toValues (items : List Json) {hand : List Value} {next : Identity}
    (run : Run hand next) :
    ∃ more, Run (more ++ hand) ((toValues items).run next).2 ∧
      ∀ v ∈ ((toValues items).run next).1, v ∈ more := by
  cases items with
  | nil => exact ⟨[], run, fun v member => absurd member List.not_mem_nil⟩
  | cons j rest =>
      obtain ⟨first, inner, head⟩ := run_toValue j run
      obtain ⟨others, outer, tail⟩ := run_toValues rest inner
      rw [← List.append_assoc] at outer
      refine ⟨others ++ first, outer, fun v member => ?_⟩
      rcases List.mem_cons.1 member with rfl | member
      · exact List.mem_append_right others head
      · exact List.mem_append_left first (tail v member)

theorem run_toEntries (entries : List (String × Json)) {hand : List Value} {next : Identity}
    (run : Run hand next) :
    ∃ more, Run (more ++ hand) ((toEntries entries).run next).2 ∧
      ∀ p ∈ ((toEntries entries).run next).1, p.2 ∈ more := by
  cases entries with
  | nil => exact ⟨[], run, fun p member => absurd member List.not_mem_nil⟩
  | cons p rest =>
      obtain ⟨key, j⟩ := p
      obtain ⟨first, inner, head⟩ := run_toValue j run
      obtain ⟨others, outer, tail⟩ := run_toEntries rest inner
      rw [← List.append_assoc] at outer
      refine ⟨others ++ first, outer, fun p member => ?_⟩
      rcases List.mem_cons.1 member with rfl | member
      · exact List.mem_append_right others head
      · exact List.mem_append_left first (tail p member)

end

end ShapeCheck.Json
