import ShapeCheck.Proofs.Schema.Rewriting
import ShapeCheck.Proofs.Schema.Unsupported

namespace ShapeCheck

variable {ε α γ : Type}

theorem allOk_stops (f : γ → Except ε α) (xs : List γ) :
    StopsAtFirst (fun x => error? (f x)) xs (allOk (xs.map f)) := by
  have each := @stopsAtFirst_allOk _ _ _ _ _ _ f xs fun x _ => .single f x
  rwa [List.flatMap_singleton'] at each

namespace Schema

def FirstFault (schemas : List Schema) (e : Error) : Prop :=
  ∃ before s after, schemas = before ++ s :: after ∧ (∀ t ∈ before, t.Compiles) ∧ s.compile = .error e

theorem allOk_eq_error_iff {schemas : List Schema} {e : Error} :
    allOk (schemas.map compile) = .error e ↔ FirstFault schemas e := by
  rw [(allOk_stops compile schemas).error_iff]
  simp only [error?_eq_none, error?_eq_some, FirstFault, Compiles, and_comm]

theorem length_of_allOk {schemas : List Schema} {rules : List Rule}
    (each : allOk (schemas.map compile) = .ok rules) : rules.length = schemas.length :=
  (List.forall₂_map_left_iff.1 (allOk_eq_ok.1 each)).length_eq.symm

theorem combine_of_firstFault {schemas : List Schema} {e : Error} (first : FirstFault schemas e)
    (c : Combinator) : combine c schemas = .error e := by
  rw [combine_eq, allOk_eq_error_iff.2 first]
  rfl

theorem combine_of_compiles {schemas : List Schema} (each : ∀ s ∈ schemas, s.Compiles)
    (c : Combinator) :
    ∃ rules, combine c schemas =
      if schemas.length < 2 then .error (.tooFewRules c schemas.length) else .ok (c.combine rules) := by
  obtain ⟨rules, all⟩ := exists_allOk_iff.2 each
  refine ⟨rules, ?_⟩
  rw [combine_eq, all, ← length_of_allOk all]
  rfl

theorem compiles_or_firstFault (schemas : List Schema) :
    (∀ s ∈ schemas, s.Compiles) ∨ ∃ e, FirstFault schemas e := by
  rw [← exists_allOk_iff]
  cases all : allOk (schemas.map compile) with
  | ok rules => exact .inl ⟨rules, rfl⟩
  | error e => exact .inr ⟨e, allOk_eq_error_iff.1 all⟩

theorem FirstFault.not_compiles {schemas : List Schema} {e : Error} (first : FirstFault schemas e) :
    ¬∀ s ∈ schemas, s.Compiles := by
  intro each
  obtain ⟨rules, all⟩ := exists_allOk_iff.2 each
  cases all.symm.trans (allOk_eq_error_iff.2 first)

theorem FirstFault.unsupported {schemas : List Schema} {e : Error} (first : FirstFault schemas e) :
    ∃ tag, e = .unsupported tag := by
  obtain ⟨before, s, after, -, -, fault⟩ := first
  have told := compile_tells s
  unfold Tells at told
  split at told
  · obtain ⟨rule, compiled⟩ := told
    cases fault.symm.trans compiled
  · exact ⟨_, Except.error.inj (fault.symm.trans told)⟩

/-- A combination comes to the error of the first of its schemas that does not compile, however many
there are; to an error about their number when all of them compile and there are fewer than two; and
to a rule in all other cases. -/
theorem combine_error_iff_first (c : Combinator) (schemas : List Schema) :
    (combine c schemas = .error (.tooFewRules c schemas.length) ↔
      schemas.length < 2 ∧ ∀ s ∈ schemas, s.Compiles) ∧
    ((∃ rule, combine c schemas = .ok rule) ↔ 2 ≤ schemas.length ∧ ∀ s ∈ schemas, s.Compiles) ∧
    ∀ e, combine c schemas = .error e ↔
      FirstFault schemas e ∨
        e = .tooFewRules c schemas.length ∧ schemas.length < 2 ∧ ∀ s ∈ schemas, s.Compiles := by
  rcases compiles_or_firstFault schemas with each | ⟨e, first⟩
  · have sound (e : Error) : ¬FirstFault schemas e := fun first => first.not_compiles each
    obtain ⟨rules, combined⟩ := combine_of_compiles each c
    rw [combined]
    by_cases few : schemas.length < 2
    · simpa [few, sound, eq_comm] using each
    · simpa [few, sound, Nat.not_lt.1 few] using each
  · have faulty := first.not_compiles
    have combined := combine_of_firstFault first c
    obtain ⟨tag, rfl⟩ := first.unsupported
    have only (e : Error) : FirstFault schemas e ↔ .unsupported tag = e := by
      rw [← allOk_eq_error_iff, allOk_eq_error_iff.2 first, Except.error.injEq]
    simp [combined, faulty, only]

theorem combine_unsupported_alone :
    ¬∀ (c : Combinator) (schemas : List Schema), schemas.length < 2 →
      combine c schemas = .error (.tooFewRules c schemas.length) := by
  intro always
  cases always .all [value (.function 0 { name := "f", arity := 0 })] (by decide)

end Schema
end ShapeCheck
