import Mathlib.Data.List.Induction
import ShapeCheck.Proofs.Schema.Compile
import ShapeCheck.Proofs.Verdict

/-!
# Combinations of rules

The rules of a combination are asked in order, until one of them decides. `Combinator.Undecided` says
which verdicts leave the decision to later rules, and `Combinator.Ends` what verdicts come to in the
end.

* `verdict_eq_iff_ends`: each list of verdicts comes to one end, and that is what is computed.
* `verdict_append_of_decided`: verdicts after the one that decides have no influence.
* `check_combine_iff_ends`: both for the rule that combines some schemas.
-/

namespace ShapeCheck

namespace Combinator

def verdict : Combinator → List Verdict → Verdict
  | all => .all
  | one => .one
  | any => .any
  | none => .none

/-- Whether rules with these verdicts leave it to later ones what comes out. -/
def Undecided : Combinator → List Verdict → Prop
  | all, before => ∀ v ∈ before, v = .conforms
  | any, before | none, before => ∃ ms : List Mismatch, before = ms.map .fails
  | one, before => (∀ payload, .breaks payload ∉ before) ∧ before.count .conforms ≤ 1

/-- What verdicts come to. Where a rule decides, nothing is asked of the verdicts after it. -/
inductive Ends : Combinator → List Verdict → Verdict → Prop
  | breaks {c : Combinator} {before : List Verdict} {payload : Payload} (after : List Verdict)
      (undecided : c.Undecided before) :
      Ends c (before ++ .breaks payload :: after) (.breaks payload)
  | allHold {verdicts : List Verdict} (each : ∀ v ∈ verdicts, v = .conforms) :
      Ends all verdicts .conforms
  | firstFails {before : List Verdict} {m : Mismatch} (after : List Verdict)
      (each : ∀ v ∈ before, v = .conforms) : Ends all (before ++ .fails m :: after) (.fails m)
  | someHolds (ms : List Mismatch) (after : List Verdict) :
      Ends any (ms.map .fails ++ .conforms :: after) .conforms
  | allFail {ms : List Mismatch} (several : 2 ≤ ms.length) :
      Ends any (ms.map .fails) (.fails ⟨[], ",".intercalate (ms.map Mismatch.message)⟩)
  | noneHolds (ms : List Mismatch) : Ends none (ms.map .fails) .conforms
  | firstHolds {verdicts : List Verdict} (ms : List Mismatch) (after : List Verdict)
      (same : verdicts = ms.map .fails ++ .conforms :: after) :
      Ends none verdicts (.fails ⟨[], "expected none of " ++ toString verdicts.length ++
        " rules, got a match at index " ++ toString ms.length⟩)
  | onceHolds {verdicts : List Verdict} (unbroken : ∀ payload, .breaks payload ∉ verdicts)
      (once : verdicts.count .conforms = 1) : Ends one verdicts .conforms
  | neverHolds (ms : List Mismatch) :
      Ends one (ms.map .fails)
        (.fails ⟨[], "expected one of " ++ toString ms.length ++ " rules, got 0 matches"⟩)
  | secondHolds {verdicts before : List Verdict} (after : List Verdict)
      (same : verdicts = before ++ .conforms :: after)
      (unbroken : ∀ payload, .breaks payload ∉ before) (once : before.count .conforms = 1) :
      Ends one verdicts (.fails ⟨[], "expected one of " ++ toString verdicts.length ++
        " rules, got multiple matches at index " ++ toString before.length⟩)

end Combinator

/-! ## Verdicts before the one that decides -/

namespace Verdict

theorem all_append {before : List Verdict} (each : ∀ v ∈ before, v = conforms)
    (rest : List Verdict) : all (before ++ rest) = all rest := by
  induction before with
  | nil => rfl
  | cons v before ih =>
      rw [List.forall_mem_cons] at each
      rw [List.cons_append, all, each.1, andThen, ih each.2]

theorem anyAfter_append (reasons : List String) (ms : List Mismatch) (rest : List Verdict) :
    anyAfter reasons (ms.map fails ++ rest) =
      anyAfter ((ms.map Mismatch.message).reverse ++ reasons) rest := by
  induction ms generalizing reasons with
  | nil => rfl
  | cons m ms ih =>
      rw [List.map_cons, List.cons_append, anyAfter, ih, List.map_cons, List.reverse_cons,
        List.append_assoc, List.singleton_append]

theorem noneFrom_append (total index : Nat) (ms : List Mismatch) (rest : List Verdict) :
    noneFrom total index (ms.map fails ++ rest) = noneFrom total (index + ms.length) rest := by
  induction ms generalizing index with
  | nil => rfl
  | cons m ms ih =>
      rw [List.map_cons, List.cons_append, noneFrom, ih, List.length_cons, Nat.add_assoc,
        Nat.add_comm 1]

theorem oneFrom_append (total index : Nat) (matched : Bool) {before : List Verdict}
    (unbroken : ∀ payload, breaks payload ∉ before)
    (once : before.count conforms + matched.toNat ≤ 1) (rest : List Verdict) :
    oneFrom total index matched (before ++ rest) =
      oneFrom total (index + before.length) (before.count conforms + matched.toNat == 1) rest := by
  induction before generalizing index matched with
  | nil => cases matched <;> rfl
  | cons v before ih =>
      have tail : ∀ payload, breaks payload ∉ before :=
        fun payload member => unbroken payload (List.mem_cons_of_mem v member)
      have place : index + (before.length + 1) = index + 1 + before.length := by omega
      rw [List.length_cons, place, List.cons_append]
      cases v with
      | conforms =>
          rw [List.count_cons_self] at once ⊢
          cases matched with
          | true => simp at once
          | false =>
              rw [oneFrom, if_neg Bool.false_ne_true, ih (index + 1) true tail once]
              rfl
      | fails m =>
          have other : fails m ≠ conforms := nofun
          rw [List.count_cons_of_ne other] at once ⊢
          rw [oneFrom, ih (index + 1) matched tail once]
      | breaks payload => exact absurd List.mem_cons_self (unbroken payload)

end Verdict

namespace Combinator

variable {c : Combinator} {before verdicts : List Verdict} {out : Verdict}

theorem Ends.verdict_eq (ends : c.Ends verdicts out) : c.verdict verdicts = out := by
  cases ends with
  | breaks after undecided =>
      cases c with
      | all => exact Verdict.all_append undecided _
      | any => obtain ⟨ms, rfl⟩ := undecided; exact Verdict.anyAfter_append [] ms _
      | none => obtain ⟨ms, rfl⟩ := undecided; exact Verdict.noneFrom_append _ 0 ms _
      | one =>
          obtain ⟨unbroken, once⟩ := undecided
          exact Verdict.oneFrom_append _ 0 false unbroken once _
  | allHold each => exact Verdict.all_eq_conforms.2 each
  | firstFails after each => exact Verdict.all_append each _
  | someHolds ms after => exact Verdict.anyAfter_append [] ms _
  | @allFail ms several =>
      have asked := Verdict.anyAfter_append [] ms []
      rw [List.append_nil, List.append_nil, Verdict.anyAfter, List.reverse_reverse] at asked
      -- Two messages joined are not the empty reason, which would be replaced.
      obtain ⟨m, others, rfl⟩ := List.exists_cons_of_length_pos (Nat.zero_lt_of_lt several)
      obtain ⟨n, others, rfl⟩ := List.exists_cons_of_length_pos (Nat.lt_of_succ_lt_succ several)
      exact asked.trans (Verdict.failing_eq (by simp))
  | noneHolds ms =>
      have asked := Verdict.noneFrom_append (ms.map Verdict.fails).length 0 ms []
      rwa [List.append_nil] at asked
  | firstHolds ms after same =>
      subst same
      have asked := Verdict.noneFrom_append (ms.map Verdict.fails ++ Verdict.conforms :: after).length
        0 ms (.conforms :: after)
      rw [Nat.zero_add] at asked
      exact asked.trans (Verdict.failing_eq (by simp))
  | onceHolds unbroken once =>
      have asked := Verdict.oneFrom_append verdicts.length 0 false unbroken (Nat.le_of_eq once) []
      rw [List.append_nil, once] at asked
      exact asked
  | neverHolds ms =>
      have unbroken : ∀ payload, .breaks payload ∉ ms.map Verdict.fails := by simp
      have never : (ms.map Verdict.fails).count .conforms = 0 := List.count_eq_zero.2 (by simp)
      have asked := Verdict.oneFrom_append ms.length 0 false unbroken (never ▸ Nat.zero_le 1) []
      rw [List.append_nil, never] at asked
      rw [verdict, Verdict.one, List.length_map]
      exact asked.trans (Verdict.failing_eq (by simp))
  | @secondHolds _ first after same unbroken once =>
      subst same
      have asked := Verdict.oneFrom_append (first ++ .conforms :: after).length 0 false unbroken
        (Nat.le_of_eq once) (.conforms :: after)
      rw [Nat.zero_add, once] at asked
      exact asked.trans (Verdict.failing_eq (by simp))

/-! ## The verdict that decides -/

theorem undecided_or_decided (c : Combinator) (verdicts : List Verdict) :
    c.Undecided verdicts ∨ ∃ before v after, verdicts = before ++ v :: after ∧
      c.Undecided before ∧ ¬c.Undecided (before ++ [v]) := by
  induction verdicts using List.reverseRecOn with
  | nil =>
      refine .inl ?_
      cases c with
      | all => exact List.forall_mem_nil _
      | any | none => exact ⟨[], rfl⟩
      | one => exact ⟨fun _ => List.not_mem_nil, Nat.zero_le 1⟩
  | append_singleton verdicts v ih =>
      rcases ih with undecided | ⟨before, u, after, rfl, undecided, decided⟩
      · by_cases still : c.Undecided (verdicts ++ [v])
        · exact .inl still
        · exact .inr ⟨verdicts, v, [], rfl, undecided, still⟩
      · refine .inr ⟨before, u, after ++ [v], ?_, undecided, decided⟩
        rw [List.append_assoc, List.cons_append]

theorem exists_map_fails {verdicts : List Verdict} (unbroken : ∀ payload, .breaks payload ∉ verdicts)
    (never : .conforms ∉ verdicts) : ∃ ms : List Mismatch, verdicts = ms.map .fails := by
  induction verdicts with
  | nil => exact ⟨[], rfl⟩
  | cons v rest ih =>
      simp only [List.mem_cons, not_or] at unbroken never
      obtain ⟨ms, rfl⟩ := ih (fun payload => (unbroken payload).2) never.2
      cases v with
      | conforms => exact absurd rfl never.1
      | fails m => exact ⟨m :: ms, rfl⟩
      | breaks payload => exact absurd rfl (unbroken payload).1

theorem exists_ends_of_undecided (several : 2 ≤ verdicts.length) (undecided : c.Undecided verdicts) :
    ∃ out, c.Ends verdicts out := by
  cases c with
  | all => exact ⟨_, .allHold undecided⟩
  | any =>
      obtain ⟨ms, rfl⟩ := undecided
      exact ⟨_, .allFail (by rwa [List.length_map] at several)⟩
  | none => obtain ⟨ms, rfl⟩ := undecided; exact ⟨_, .noneHolds ms⟩
  | one =>
      obtain ⟨unbroken, once⟩ := undecided
      by_cases never : .conforms ∈ verdicts
      · have holds := List.count_pos_iff.2 never
        exact ⟨_, .onceHolds unbroken (by omega)⟩
      · obtain ⟨ms, rfl⟩ := exists_map_fails unbroken never
        exact ⟨_, .neverHolds ms⟩

theorem exists_ends_of_decided {v : Verdict} (undecided : c.Undecided before)
    (decided : ¬c.Undecided (before ++ [v])) (n : Nat) :
    ∃ out, ∀ after : List Verdict, c = all ∨ c = any ∨ after.length = n →
      c.Ends (before ++ v :: after) out := by
  cases v with
  | breaks payload => exact ⟨_, fun after _ => .breaks after undecided⟩
  | conforms =>
      cases c with
      | all =>
          refine absurd (fun w member => ?_) decided
          rcases List.mem_append.1 member with inside | last
          · exact undecided w inside
          · exact List.mem_singleton.1 last
      | any => obtain ⟨ms, rfl⟩ := undecided; exact ⟨_, fun after _ => .someHolds ms after⟩
      | none =>
          obtain ⟨ms, rfl⟩ := undecided
          -- The message counts the rules after as well, but tells nothing else of them.
          refine ⟨.fails ⟨[], "expected none of " ++ toString (ms.length + (n + 1)) ++
            " rules, got a match at index " ++ toString ms.length⟩, fun after same => ?_⟩
          have total : (ms.map Verdict.fails ++ .conforms :: after).length = ms.length + (n + 1) := by
            simpa using same
          rw [← total]
          exact .firstHolds ms after rfl
      | one =>
          obtain ⟨unbroken, once⟩ := undecided
          have holds : before.count .conforms = 1 := by
            by_contra other
            refine decided ⟨?_, ?_⟩
            · simpa using unbroken
            · rw [List.count_append, List.count_singleton_self]
              omega
          refine ⟨.fails ⟨[], "expected one of " ++ toString (before.length + (n + 1)) ++
            " rules, got multiple matches at index " ++ toString before.length⟩,
            fun after same => ?_⟩
          have total : (before ++ .conforms :: after).length = before.length + (n + 1) := by
            simpa using same
          rw [← total]
          exact .secondHolds after rfl unbroken holds
  | fails m =>
      cases c with
      | all => exact ⟨_, fun after _ => .firstFails after undecided⟩
      | any | none =>
          obtain ⟨ms, rfl⟩ := undecided
          exact absurd ⟨ms ++ [m], by simp⟩ decided
      | one =>
          obtain ⟨unbroken, once⟩ := undecided
          refine absurd ⟨?_, ?_⟩ decided
          · simpa using unbroken
          · rwa [List.count_append, List.count_singleton, if_neg (by simp)]

theorem verdict_eq_iff_ends (several : 2 ≤ verdicts.length) :
    c.verdict verdicts = out ↔ c.Ends verdicts out := by
  refine ⟨fun same => ?_, Ends.verdict_eq⟩
  rcases c.undecided_or_decided verdicts with undecided | ⟨before, v, after, rfl, undecided, decided⟩
  · obtain ⟨last, ends⟩ := exists_ends_of_undecided several undecided
    rwa [← same, ends.verdict_eq]
  · obtain ⟨last, ends⟩ := exists_ends_of_decided undecided decided after.length
    have ends := ends after (.inr (.inr rfl))
    rwa [← same, ends.verdict_eq]

theorem verdict_append_of_decided (decided : ¬c.Undecided before) {after others : List Verdict}
    (same : c = all ∨ c = any ∨ others.length = after.length) :
    c.verdict (before ++ after) = c.verdict (before ++ others) := by
  rcases c.undecided_or_decided before with undecided | ⟨first, v, between, rfl, undecided, stops⟩
  · exact absurd undecided decided
  · obtain ⟨out, ends⟩ := exists_ends_of_decided undecided stops (between ++ after).length
    rw [List.append_assoc, List.append_assoc, List.cons_append, List.cons_append,
      (ends (between ++ after) (.inr (.inr rfl))).verdict_eq,
      (ends (between ++ others) (by simpa using same)).verdict_eq]

/-! ## Rules that combine rules -/

theorem check_combine (c : Combinator) (rules : List Rule) (v : Value) :
    (c.combine rules).check v = c.verdict (rules.map (·.check v)) := by
  have asked : Rule.checkEach rules v = rules.map (·.check v) := by
    induction rules with
    | nil => rw [Rule.checkEach, List.map_nil]
    | cons rule rest ih => rw [Rule.checkEach, List.map_cons, ih]
  cases c <;> rw [combine, Rule.check, verdict, asked]

end Combinator

namespace Schema

/-- Two schemas or more that compile can be combined. The verdict of the combination is the end that
the verdicts of the rules come to, and once the rules `before` have decided, it is the same with any
other rules in the place of those `after`. Where messages tell the number of rules, there have to be
as many others. -/
theorem check_combine_iff_ends {schemas : List Schema} {rules : List Rule}
    (enough : 2 ≤ schemas.length)
    (compiled : List.Forall₂ (fun s rule => s.compile = .ok rule) schemas rules) (c : Combinator)
    (v : Value) :
    ∃ rule, combine c schemas = .ok rule ∧
      (∀ out, rule.check v = out ↔ c.Ends (rules.map (·.check v)) out) ∧
      ∀ before after others : List Rule, rules = before ++ after →
        ¬c.Undecided (before.map (·.check v)) →
        c = .all ∨ c = .any ∨ others.length = after.length →
        rule.check v = (c.combine (before ++ others)).check v := by
  have each : allOk (compileAll schemas) = .ok rules := by
    rw [compileAll_eq_map, allOk_eq_ok, List.forall₂_map_left_iff]
    exact compiled
  rw [compiled.length_eq] at enough
  refine ⟨c.combine rules, ?_, fun out => ?_, fun before after others whole decided same => ?_⟩
  · rw [combine, each]
    exact if_neg (Nat.not_lt.2 enough)
  · rw [Combinator.check_combine, Combinator.verdict_eq_iff_ends (by rwa [List.length_map])]
  · subst whole
    rw [Combinator.check_combine, Combinator.check_combine, List.map_append, List.map_append]
    exact Combinator.verdict_append_of_decided decided (by simpa using same)

theorem check_one_of_before_broken :
    ∃ rule, combine .one [.rule (.kind .string), .rule .anything, .value (.string "x"),
        .rule (.predicate (fun _ => .error (some "boom")) "" .propagate)] = .ok rule ∧
      rule.check (.string "x") =
        .fails ⟨[], "expected one of 4 rules, got multiple matches at index 1"⟩ := by
  obtain ⟨rule, combined, ends, -⟩ := @check_combine_iff_ends
    [.rule (.kind .string), .rule .anything, .value (.string "x"),
      .rule (.predicate (fun _ => .error (some "boom")) "" .propagate)] _
    (Nat.le_add_left 2 2) (.cons rfl (.cons rfl (.cons rfl (.cons rfl .nil)))) .one (.string "x")
  exact ⟨rule, combined, (ends _).2 (@Combinator.Ends.secondHolds _ [.conforms]
    [.conforms, .breaks (some "boom")] rfl (by simp) rfl)⟩

end Schema
end ShapeCheck
