import Mathlib.Data.List.Forall2
import ShapeCheck.Proofs.Combinator
import ShapeCheck.Proofs.Schema.Catching

namespace ShapeCheck

namespace Verdict

/-- Whether of two verdicts just one conforms, or both break down alike. -/
inductive Opposite : Verdict → Verdict → Prop
  | conforms (m : Mismatch) : Opposite conforms (fails m)
  | fails (m : Mismatch) : Opposite (fails m) conforms
  | breaks (payload : Payload) : Opposite (breaks payload) (breaks payload)

theorem not_not_eq_conforms {v : Verdict} : v.not.not = conforms ↔ v = conforms := by
  cases v <;> simp [not, failing]

theorem opposite_anyAfter_noneFrom (reasons : List String) (total index : Nat)
    (verdicts : List Verdict) :
    (anyAfter reasons verdicts).Opposite (noneFrom total index verdicts) := by
  induction verdicts generalizing reasons index with
  | nil => exact .fails _
  | cons v rest ih =>
      cases v with
      | conforms => exact .conforms _
      | fails m => exact ih _ _
      | breaks payload => exact .breaks payload

theorem opposite_any_none (verdicts : List Verdict) : (any verdicts).Opposite (none verdicts) :=
  opposite_anyAfter_noneFrom [] _ _ verdicts

theorem opposite_anyAfter_all_not (reasons : List String) (verdicts : List Verdict) :
    (anyAfter reasons verdicts).Opposite (all (verdicts.map not)) := by
  induction verdicts generalizing reasons with
  | nil => exact .fails _
  | cons v rest ih =>
      cases v with
      | conforms => exact .conforms _
      | fails m => exact ih _
      | breaks payload => exact .breaks payload

theorem Opposite.turned {u v w : Verdict} (first : u.Opposite v) (second : u.Opposite w) :
    v.Opposite w.not := by
  cases first with
  | conforms => cases second; exact .fails _
  | fails => cases second; exact .conforms _
  | breaks => cases second; exact .breaks _

theorem opposite_none_not_all_not (verdicts : List Verdict) :
    (none verdicts).Opposite (all (verdicts.map not)).not :=
  (opposite_any_none verdicts).turned (opposite_anyAfter_all_not [] verdicts)

variable {verdicts others : List Verdict}

theorem anyAfter_eq_conforms (steady : ∀ v ∈ verdicts, v.Steady) {reasons : List String} :
    anyAfter reasons verdicts = conforms ↔ conforms ∈ verdicts := by
  induction verdicts generalizing reasons with
  | nil => simp [anyAfter, failing]
  | cons v rest ih =>
      rw [List.forall_mem_cons] at steady
      cases v with
      | conforms => simp [anyAfter]
      | fails m => simp [anyAfter, ih steady.2]
      | breaks payload => exact absurd rfl (steady.1 payload)

theorem anyAfter_eq_conforms_iff (reasons : List String) :
    anyAfter reasons verdicts = conforms ↔ any verdicts = conforms := by
  have same (reasons' : List String) :
      anyAfter reasons verdicts = conforms ↔ anyAfter reasons' verdicts = conforms := by
    induction verdicts generalizing reasons reasons' with
    | nil => simp [anyAfter, failing]
    | cons v rest ih =>
        cases v with
        | fails m => exact ih _ _
        | conforms | breaks => exact Iff.rfl
  exact same []

theorem any_cons_eq_conforms {v : Verdict} (steady : v.Steady) :
    any (v :: verdicts) = conforms ↔ v = conforms ∨ any verdicts = conforms := by
  cases v with
  | conforms => exact iff_of_true rfl (.inl rfl)
  | fails m => exact (anyAfter_eq_conforms_iff [m.message]).trans (by simp)
  | breaks payload => exact absurd rfl (steady payload)

theorem any_singleton_eq_conforms {v : Verdict} : any [v] = conforms ↔ v = conforms := by
  cases v <;> simp [any, anyAfter, failing]

theorem noneFrom_eq_conforms {total index : Nat} :
    noneFrom total index verdicts = conforms ↔ ∀ v ∈ verdicts, ∃ m, v = fails m := by
  induction verdicts generalizing index with
  | nil => simp [noneFrom]
  | cons v rest ih =>
      rw [List.forall_mem_cons]
      cases v <;> simp [noneFrom, failing, ih]

theorem oneFrom_eq_conforms {total index : Nat} {matched : Bool} :
    oneFrom total index matched verdicts = conforms ↔
      (∀ v ∈ verdicts, v.Steady) ∧ verdicts.count conforms + matched.toNat = 1 := by
  induction verdicts generalizing index matched with
  | nil => cases matched <;> simp [oneFrom, require, failing]
  | cons v rest ih =>
      rw [List.forall_mem_cons]
      cases v with
      | conforms =>
          rw [List.count_cons_self, and_iff_right steady_conforms]
          cases matched with
          | false => simp [oneFrom, ih]
          | true => simp [oneFrom, failing]
      | fails m =>
          have other : fails m ≠ conforms := by simp
          rw [List.count_cons_of_ne other, oneFrom, ih, and_iff_right (steady_fails m)]
      | breaks payload =>
          exact iff_of_false (by simp [oneFrom]) fun told => told.1.1 payload rfl

theorem any_eq_conforms (steady : ∀ v ∈ verdicts, v.Steady) :
    any verdicts = conforms ↔ conforms ∈ verdicts :=
  anyAfter_eq_conforms steady

theorem none_eq_conforms : none verdicts = conforms ↔ ∀ v ∈ verdicts, ∃ m, v = fails m :=
  noneFrom_eq_conforms

theorem one_eq_conforms : one verdicts = conforms ↔
    (∀ v ∈ verdicts, v.Steady) ∧ verdicts.count conforms = 1 :=
  oneFrom_eq_conforms

theorem any_of_one (once : one verdicts = conforms) : any verdicts = conforms := by
  obtain ⟨steady, count⟩ := one_eq_conforms.1 once
  exact (any_eq_conforms steady).2 (List.count_pos_iff.1 (by omega))

theorem one_of_all (several : 2 ≤ verdicts.length) (each : all verdicts = conforms) :
    ∃ m, one verdicts = fails m := by
  obtain ⟨n, more⟩ := Nat.exists_eq_add_of_le' several
  have same : verdicts = List.replicate (n + 2) conforms :=
    List.eq_replicate_iff.2 ⟨more, all_eq_conforms.1 each⟩
  subst same
  exact ⟨_, rfl⟩

end Verdict

/-- Which rules conform decides, whatever their order. Only `any` may stop before a rule that breaks
down. -/
theorem Combinator.verdict_perm (c : Combinator) {verdicts others : List Verdict}
    (perm : verdicts.Perm others) (steady : c = any → ∀ v ∈ verdicts, v.Steady) :
    c.verdict verdicts = .conforms ↔ c.verdict others = .conforms := by
  cases c with
  | all => simp only [verdict, Verdict.all_eq_conforms, perm.mem_iff]
  | one => simp only [verdict, Verdict.one_eq_conforms, perm.mem_iff, perm.count_eq]
  | none => simp only [verdict, Verdict.none_eq_conforms, perm.mem_iff]
  | any =>
      have steady := steady rfl
      have steady' : ∀ v ∈ others, v.Steady := fun v member => steady v (perm.mem_iff.2 member)
      exact (Verdict.any_eq_conforms steady).trans
        (perm.mem_iff.trans (Verdict.any_eq_conforms steady').symm)

namespace Schema

def notAllNot (schemas : List Schema) : Except Error Rule := do
  let negated ← allOk (schemas.map not)
  let failed ← combine .all (negated.map rule)
  (rule failed).not

def notNot (s : Schema) : Except Error Rule := do
  (rule (← s.not)).not

theorem combine_of_compiled {schemas : List Schema} {rules : List Rule} (enough : 2 ≤ schemas.length)
    (compiled : List.Forall₂ (fun s rule => s.compile = .ok rule) schemas rules) (c : Combinator) :
    combine c schemas = .ok (c.combine rules) := by
  have each : allOk (compileAll schemas) = .ok rules := by
    rw [compileAll_eq_map, allOk_eq_ok, List.forall₂_map_left_iff]
    exact compiled
  rw [compiled.length_eq] at enough
  rw [combine, each]
  exact if_neg (Nat.not_lt.2 enough)

theorem not_of_compiled {s : Schema} {r : Rule} (compiled : s.compile = .ok r) :
    s.not = .ok (.not r) := by
  rw [not, compiled]
  rfl

theorem notAllNot_of_compiled {schemas : List Schema} {rules : List Rule}
    (enough : 2 ≤ schemas.length)
    (compiled : List.Forall₂ (fun s rule => s.compile = .ok rule) schemas rules) :
    notAllNot schemas = .ok (.not (.allOf (rules.map .not))) := by
  have negated : allOk (schemas.map not) = .ok (rules.map .not) := by
    rw [allOk_eq_ok, List.forall₂_map_left_iff, List.forall₂_map_right_iff]
    exact compiled.imp fun _ _ ok => not_of_compiled ok
  have again : List.Forall₂ (fun s rule => s.compile = .ok rule) ((rules.map Rule.not).map rule)
      (rules.map .not) :=
    List.forall₂_map_left_iff.2 (List.forall₂_same.2 fun _ _ => rfl)
  have several : 2 ≤ ((rules.map Rule.not).map rule).length := by
    rwa [List.length_map, List.length_map, ← compiled.length_eq]
  rw [notAllNot, negated]
  exact (congrArg (· >>= fun failed => (rule failed).not)
    (combine_of_compiled several again .all)).trans rfl

theorem notNot_of_compiled {s : Schema} {r : Rule} (compiled : s.compile = .ok r) :
    notNot s = .ok (.not (.not r)) := by
  rw [notNot, not_of_compiled compiled]
  rfl

theorem check_notAllNot (rules : List Rule) (v : Value) :
    (Rule.not (.allOf (rules.map .not))).check v =
      (Verdict.all ((rules.map (·.check v)).map .not)).not := by
  have negated : (rules.map Rule.not).map (·.check v) = (rules.map (·.check v)).map .not := by
    rw [List.map_map, List.map_map]
    exact List.map_congr_left fun rule _ => by rw [Function.comp_apply, Rule.check, Function.comp_apply]
  rw [Rule.check, ← negated]
  exact congrArg Verdict.not (Combinator.check_combine .all _ v)

theorem check_notNot (r : Rule) (v : Value) :
    (Rule.not (.not r)).check v = (r.check v).not.not := by
  rw [Rule.check, Rule.check]

theorem exists_combine_perm {schemas others : List Schema} {rules : List Rule}
    (enough : 2 ≤ schemas.length)
    (compiled : List.Forall₂ (fun s rule => s.compile = .ok rule) schemas rules)
    (perm : others.Perm schemas) (c : Combinator) :
    ∃ reordered : List Rule, rules.Perm reordered ∧
      combine c others = .ok (c.combine reordered) := by
  obtain ⟨reordered, compiled', perm'⟩ := List.perm_comp_forall₂ perm compiled
  exact ⟨reordered, perm'.symm, combine_of_compiled (perm.length_eq ▸ enough) compiled' c⟩

/-- To conform to some of several schemas is the opposite of conforming to none, and the same as not
failing each of them; a breakdown comes out of the three alike. What conforms to one conforms to
some, what conforms to all does not conform to one, and a schema negated twice accepts what it
accepted. The order of the schemas is of no account, except to `any` when some rule breaks down. -/
theorem combinations_dual {schemas : List Schema} {rules : List Rule} (enough : 2 ≤ schemas.length)
    (compiled : List.Forall₂ (fun s rule => s.compile = .ok rule) schemas rules) :
    ∃ any none all one dual : Rule,
      combine .any schemas = .ok any ∧ combine .none schemas = .ok none ∧
      combine .all schemas = .ok all ∧ combine .one schemas = .ok one ∧
      notAllNot schemas = .ok dual ∧
      (∀ v, (any.check v).Opposite (none.check v) ∧ (none.check v).Opposite (dual.check v) ∧
        (one.check v = .conforms → any.check v = .conforms) ∧
        (all.check v = .conforms → ∃ m, one.check v = .fails m)) ∧
      (∀ s ∈ schemas, ∃ rule double, s.compile = .ok rule ∧ notNot s = .ok double ∧
        ∀ v, double.check v = .conforms ↔ rule.check v = .conforms) ∧
      ∀ (c : Combinator) (others : List Schema), others.Perm schemas →
        ∃ rule reordered, combine c schemas = .ok rule ∧ combine c others = .ok reordered ∧
          ∀ v, (c = .any → ∀ r ∈ rules, (r.check v).Steady) →
            (rule.check v = .conforms ↔ reordered.check v = .conforms) := by
  have combined := combine_of_compiled enough compiled
  refine ⟨_, _, _, _, _, combined .any, combined .none, combined .all, combined .one,
    notAllNot_of_compiled enough compiled, fun v => ?_, fun s member => ?_, fun c others perm => ?_⟩
  · have several : 2 ≤ (rules.map (·.check v)).length := by
      rwa [List.length_map, ← compiled.length_eq]
    simp only [Combinator.check_combine, check_notAllNot]
    exact ⟨Verdict.opposite_any_none _, Verdict.opposite_none_not_all_not _, Verdict.any_of_one,
      Verdict.one_of_all several⟩
  · obtain ⟨rule, ok⟩ := exists_of_forall₂_of_mem compiled member
    refine ⟨rule, _, ok, notNot_of_compiled ok, fun v => ?_⟩
    rw [check_notNot, Verdict.not_not_eq_conforms]
  · obtain ⟨reordered, perm', combined'⟩ := exists_combine_perm enough compiled perm c
    refine ⟨_, _, combined c, combined', fun v steady => ?_⟩
    rw [Combinator.check_combine, Combinator.check_combine]
    refine c.verdict_perm (perm'.map _) fun any => ?_
    rw [List.forall_mem_map]
    exact steady any

theorem combinations_dual_broken :
    let test : Predicate := fun v => if v.isNull then .error (some "null!") else .ok false
    let schemas : List Schema := [.value (.string "x"), .rule (.predicate test "" .propagate)]
    2 ≤ schemas.length ∧ ∃ any dual, combine .any schemas = .ok any ∧ notAllNot schemas = .ok dual ∧
      any.check .null = .breaks (some "null!") ∧ dual.check .null = .breaks (some "null!") := by
  intro test schemas
  have enough : 2 ≤ schemas.length := Nat.le_refl 2
  obtain ⟨any, none, _, _, dual, combined, -, -, -, built, each, -⟩ :=
    @combinations_dual schemas _ enough (.cons rfl (.cons rfl .nil))
  obtain ⟨opposite, opposite', -⟩ := each .null
  have broken : any.check .null = .breaks (some "null!") := by
    rw [← Except.ok.inj combined]
    rfl
  refine ⟨enough, any, dual, combined, built, broken, ?_⟩
  rw [broken] at opposite
  generalize none.check .null = v at opposite opposite'
  generalize dual.check .null = w at opposite' ⊢
  cases opposite
  cases opposite'
  rfl

end Schema
end ShapeCheck
