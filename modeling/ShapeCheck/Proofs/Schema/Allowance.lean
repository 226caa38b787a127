import Mathlib.Order.Bounds.Basic
import ShapeCheck.Proofs.Combinator.Duality
import ShapeCheck.Proofs.Schema.Rewriting

namespace ShapeCheck

inductive Allowance
  | nullable
  | optional
  | nullish
  deriving DecidableEq, Repr

namespace Allowance

def passes : Allowance → Value → Bool
  | nullable, v => v.isNull
  | optional, v => v.isUndefined
  | nullish, v => v.isNullish

def wrapper : Allowance → Schema.Wrapper
  | nullable => .nullable
  | optional => .optional
  | nullish => .nullish

instance : PartialOrder Allowance where
  le a b := ∀ v, a.passes v = true → b.passes v = true
  le_refl _ _ pass := pass
  le_trans _ _ _ first second v pass := second v (first v pass)
  le_antisymm a b first second := by
    have null : a.passes .null = b.passes .null := Bool.eq_iff_iff.2 ⟨first .null, second .null⟩
    have undefined : a.passes .undefined = b.passes .undefined :=
      Bool.eq_iff_iff.2 ⟨first .undefined, second .undefined⟩
    cases a <;> cases b <;> simp_all [passes, Value.isNullish, Value.isNull, Value.isUndefined]

def join (a b : Allowance) : Allowance :=
  if a = b then a else nullish

theorem passes_join (a b : Allowance) (v : Value) :
    (a.join b).passes v = (a.passes v || b.passes v) := by
  cases a <;> cases b <;> cases v <;> rfl

instance : SemilatticeSup Allowance where
  sup := join
  le_sup_left a b v pass := by rw [passes_join, pass, Bool.true_or]
  le_sup_right a b v pass := by rw [passes_join, pass, Bool.or_true]
  sup_le a b c first second v pass := by
    rw [passes_join, Bool.or_eq_true] at pass
    exact pass.elim (first v) (second v)

theorem passes_sup (a b : Allowance) (v : Value) : (a ⊔ b).passes v = (a.passes v || b.passes v) :=
  passes_join a b v

theorem exists_isLUB (a : Allowance) (others : List Allowance) :
    ∃ b : Allowance, IsLUB {c | c ∈ a :: others} b ∧
      ∀ v, b.passes v = (a :: others).any (·.passes v) := by
  induction others generalizing a with
  | nil =>
      have alone : {c | c ∈ [a]} = {a} := by ext; simp
      exact ⟨a, alone ▸ isLUB_singleton, fun v => by simp⟩
  | cons a' others ih =>
      obtain ⟨b, least, passes⟩ := ih a'
      have more : {c | c ∈ a :: a' :: others} = insert a {c | c ∈ a' :: others} := by ext; simp
      refine ⟨a ⊔ b, more ▸ least.insert a, fun v => ?_⟩
      rw [passes_sup, passes, List.any_cons (l := a' :: others)]

theorem check_rule (a : Allowance) (r : Rule) (v : Value) :
    (a.wrapper.rule r).check v = if a.passes v then .conforms else r.check v := by
  cases a <;> rw [wrapper, Schema.Wrapper.rule, Rule.check, passes]

theorem apply_of_compiled (a : Allowance) {s : Schema} {r : Rule} (compiled : s.compile = .ok r) :
    a.wrapper.apply s = .ok (a.wrapper.rule r) := by
  rw [Schema.Wrapper.apply_eq, compiled]
  rfl

/-- The rule of a schema within several calls, of which the first is the outermost. -/
def tower (s : Schema) : List Allowance → Except Schema.Error Rule
  | [] => s.compile
  | a :: inner => do
    let r ← tower s inner
    a.wrapper.apply (.rule r)

theorem tower_of_compiled {s : Schema} {r : Rule} (compiled : s.compile = .ok r)
    (calls : List Allowance) :
    tower s calls = .ok (calls.foldr (fun a inner => a.wrapper.rule inner) r) := by
  induction calls with
  | nil => exact compiled
  | cons a inner ih =>
      rw [tower, ih]
      exact a.apply_of_compiled rfl

theorem check_tower (calls : List Allowance) (r : Rule) (v : Value) :
    (calls.foldr (fun a inner => a.wrapper.rule inner) r).check v =
      if calls.any (·.passes v) then .conforms else r.check v := by
  induction calls with
  | nil => rfl
  | cons a inner ih =>
      rw [List.foldr_cons, check_rule, ih, List.any_cons]
      cases a.passes v <;> rfl

end Allowance

namespace Schema

def Agree (x y : Except Error Rule) : Prop :=
  ∃ r r', x = .ok r ∧ y = .ok r' ∧ ∀ v, r.check v = r'.check v

theorem check_any_null_undefined {r : Rule} {v : Value} :
    (Combinator.any.combine [.literal .null, .literal .undefined, r]).check v = .conforms ↔
      v.isNullish = true ∨ r.check v = .conforms := by
  have steady (expected : Value) : ((Rule.literal expected).check v).Steady :=
    Verdict.steady_require _ _
  have null : Value.null.sameLiteral v = v.isNull := by cases v <;> rfl
  have undefined : Value.undefined.sameLiteral v = v.isUndefined := by cases v <;> rfl
  rw [Combinator.check_combine]
  simp only [List.map_cons, List.map_nil, Combinator.verdict,
    Verdict.any_cons_eq_conforms (steady _), Verdict.any_singleton_eq_conforms,
    Rule.check_literal_eq_conforms, null, undefined, Value.isNullish, Bool.or_eq_true, or_assoc]

/-- A schema that lets `null` and `undefined` pass is the same in whichever order they are let pass,
and no further wrapper changes it. It accepts what `null`, `undefined` or the schema accept. A tower
of wrappers comes to the least one that covers them all. -/
theorem wrappers_agree {s : Schema} (compiles : s.Compiles) :
    Agree (Allowance.tower s [.nullable, .optional]) s.nullish ∧
    Agree (Allowance.tower s [.optional, .nullable]) s.nullish ∧
    (∀ a : Allowance, Agree (Allowance.tower s [a, .nullish]) s.nullish) ∧
    (∃ nullish any, s.nullish = .ok nullish ∧
      combine .any [.rule (.literal .null), .rule (.literal .undefined), s] = .ok any ∧
      ∀ v, nullish.check v = .conforms ↔ any.check v = .conforms) ∧
    ∀ (a : Allowance) (others : List Allowance), ∃ b : Allowance, IsLUB {c | c ∈ a :: others} b ∧
      Agree (Allowance.tower s (a :: others)) (b.wrapper.apply s) := by
  obtain ⟨r, compiled⟩ := compiles
  have agree {calls : List Allowance} {b : Allowance}
      (passes : ∀ v, b.passes v = calls.any (·.passes v)) :
      Agree (Allowance.tower s calls) (b.wrapper.apply s) := by
    refine ⟨_, _, Allowance.tower_of_compiled compiled calls, b.apply_of_compiled compiled,
      fun v => ?_⟩
    rw [Allowance.check_tower, Allowance.check_rule, passes]
  refine ⟨agree (b := .nullish) fun v => ?_, agree (b := .nullish) fun v => ?_,
    fun a => agree (b := .nullish) fun v => ?_, ?_, fun a others => ?_⟩
  · cases v <;> rfl
  · cases v <;> rfl
  · cases a <;> cases v <;> rfl
  · refine ⟨_, _, Allowance.nullish.apply_of_compiled compiled,
      combine_of_compiled (by simp) (.cons rfl (.cons rfl (.cons compiled .nil))) .any, fun v => ?_⟩
    rw [Allowance.check_rule, check_any_null_undefined, Allowance.passes]
    cases v.isNullish <;> simp
  · obtain ⟨b, least, passes⟩ := Allowance.exists_isLUB a others
    exact ⟨b, least, agree passes⟩

theorem wrappers_agree_broken :
    let s : Schema := .rule (.predicate (fun _ => .error (some "boom")) "" .propagate)
    s.Compiles ∧ ∃ tower alone, Allowance.tower s [.nullable, .optional] = .ok tower ∧
      s.nullish = .ok alone ∧ tower.check .null = .conforms ∧ tower.check .undefined = .conforms ∧
      tower.check (.string "x") = .breaks (some "boom") := by
  intro s
  have compiles : s.Compiles := ⟨_, rfl⟩
  obtain ⟨⟨tower, alone, built, direct, same⟩, -⟩ := wrappers_agree compiles
  cases direct
  exact ⟨compiles, tower, _, built, rfl, same .null, same .undefined, same (.string "x")⟩

end Schema
end ShapeCheck
