import ShapeCheck.Proofs.Rule
import ShapeCheck.Proofs.Schema.Induction
import ShapeCheck.Proofs.Schema.Rewriting

/-!
# Catching predicates that break down

A predicate that breaks down takes the check with it, unless it is told to fail instead. When all
predicates of a rule are told so (`Rule.caught`), no check breaks down, and the checks that did not
do so before come out the same (`Rule.caughtAs_check`): no rule hides that one inside of it broke
down. It makes no difference whether the predicates are told in the rule or in the schema as it is
written (`Schema.Draft.compile_caught`).
-/

namespace ShapeCheck

namespace Verdict

def Steady (v : Verdict) : Prop :=
  ∀ payload, v ≠ breaks payload

/-- Whether a verdict is the other one, or some verdict in the place of one that breaks. -/
inductive CaughtAs : Verdict → Verdict → Prop
  | conforms : CaughtAs conforms conforms
  | fails (m : Mismatch) : CaughtAs (fails m) (fails m)
  | breaks (payload : Payload) {w : Verdict} (steady : w.Steady) : CaughtAs (breaks payload) w

theorem steady_conforms : conforms.Steady := nofun

theorem steady_fails (m : Mismatch) : (fails m).Steady := nofun

theorem steady_failing (reason : String) : (failing reason).Steady :=
  steady_fails _

theorem steady_require (condition : Bool) (reason : String) : (require condition reason).Steady :=
  require_ne_breaks

theorem Steady.under {v : Verdict} (steady : v.Steady) (step : String) : (v.under step).Steady := by
  cases v with
  | breaks payload => exact absurd rfl (steady payload)
  | conforms | fails => nofun

theorem Steady.andThen {v w : Verdict} (first : v.Steady) (second : w.Steady) :
    (v.andThen w).Steady := by
  cases v with
  | conforms => exact second
  | fails | breaks => exact first

variable {verdicts : List Verdict}

theorem steady_anyAfter (each : ∀ v ∈ verdicts, v.Steady) (reasons : List String) :
    (anyAfter reasons verdicts).Steady := by
  induction verdicts generalizing reasons with
  | nil => exact steady_failing _
  | cons v rest ih =>
      rw [List.forall_mem_cons] at each
      cases v with
      | conforms => exact steady_conforms
      | fails m => exact ih each.2 _
      | breaks payload => exact absurd rfl (each.1 payload)

theorem steady_noneFrom (each : ∀ v ∈ verdicts, v.Steady) (total index : Nat) :
    (noneFrom total index verdicts).Steady := by
  induction verdicts generalizing index with
  | nil => exact steady_conforms
  | cons v rest ih =>
      rw [List.forall_mem_cons] at each
      cases v with
      | conforms => exact steady_failing _
      | fails m => exact ih each.2 _
      | breaks payload => exact absurd rfl (each.1 payload)

theorem steady_oneFrom (each : ∀ v ∈ verdicts, v.Steady) (total index : Nat) (matched : Bool) :
    (oneFrom total index matched verdicts).Steady := by
  induction verdicts generalizing index matched with
  | nil => exact steady_require _ _
  | cons v rest ih =>
      rw [List.forall_mem_cons] at each
      cases v with
      | conforms =>
          cases matched with
          | true => exact steady_failing _
          | false => exact ih each.2 _ _
      | fails m => exact ih each.2 _ _
      | breaks payload => exact absurd rfl (each.1 payload)

namespace CaughtAs

variable {v w v' w' : Verdict} {vs ws : List Verdict}

theorem self (steady : v.Steady) : v.CaughtAs v := by
  cases v with
  | conforms => exact .conforms
  | fails m => exact .fails m
  | breaks payload => exact absurd rfl (steady payload)

theorem steady (h : v.CaughtAs w) : w.Steady := by
  cases h with
  | conforms | fails => nofun
  | breaks _ steady => exact steady

theorem eq (h : v.CaughtAs w) (steady : v.Steady) : w = v := by
  cases h with
  | conforms | fails => rfl
  | breaks payload => exact absurd rfl (steady payload)

theorem under (h : v.CaughtAs w) (step : String) : (v.under step).CaughtAs (w.under step) := by
  cases h with
  | conforms => exact .conforms
  | fails m => exact .fails (m.under step)
  | breaks payload steady => exact .breaks payload (steady.under step)

theorem andThen (first : v.CaughtAs w) (second : v'.CaughtAs w') :
    (v.andThen v').CaughtAs (w.andThen w') := by
  cases first with
  | conforms => exact second
  | fails m => exact .fails m
  | breaks payload steady => exact .breaks payload (steady.andThen second.steady)

theorem not (h : v.CaughtAs w) : v.not.CaughtAs w.not := by
  cases h with
  | conforms => exact .self (steady_failing _)
  | fails m => exact .conforms
  | breaks payload steady =>
      refine .breaks payload ?_
      cases w with
      | conforms => exact steady_failing _
      | fails m => exact steady_conforms
      | breaks payload => exact absurd rfl (steady payload)

theorem steady_of_mem (each : List.Forall₂ CaughtAs vs ws) : ∀ w ∈ ws, w.Steady := by
  induction each with
  | nil => nofun
  | cons head _ ih => exact List.forall_mem_cons.2 ⟨head.steady, ih⟩

theorem all (each : List.Forall₂ CaughtAs vs ws) : (all vs).CaughtAs (all ws) := by
  induction each with
  | nil => exact .conforms
  | cons head _ ih => exact head.andThen ih

theorem anyAfter (each : List.Forall₂ CaughtAs vs ws) (reasons : List String) :
    (anyAfter reasons vs).CaughtAs (anyAfter reasons ws) := by
  induction each generalizing reasons with
  | nil => exact .fails _
  | cons head tail ih =>
      have rest := steady_of_mem (tail.cons head)
      cases head with
      | conforms => exact .conforms
      | fails m => exact ih (m.message :: reasons)
      | breaks payload => exact .breaks payload (steady_anyAfter rest reasons)

theorem noneFrom (each : List.Forall₂ CaughtAs vs ws) (total index : Nat) :
    (noneFrom total index vs).CaughtAs (noneFrom total index ws) := by
  induction each generalizing index with
  | nil => exact .conforms
  | cons head tail ih =>
      have rest := steady_of_mem (tail.cons head)
      cases head with
      | conforms => exact .fails _
      | fails m => exact ih (index + 1)
      | breaks payload => exact .breaks payload (steady_noneFrom rest total index)

theorem oneFrom (each : List.Forall₂ CaughtAs vs ws) (total index : Nat) (matched : Bool) :
    (oneFrom total index matched vs).CaughtAs (oneFrom total index matched ws) := by
  induction each generalizing index matched with
  | nil => exact .self (steady_require _ _)
  | cons head tail ih =>
      have rest := steady_of_mem (tail.cons head)
      cases head with
      | conforms =>
          cases matched with
          | true => exact .fails _
          | false => exact ih (index + 1) true
      | fails m => exact ih (index + 1) matched
      | breaks payload => exact .breaks payload (steady_oneFrom rest total index matched)

theorem underPositions (each : List.Forall₂ CaughtAs vs ws) (index : Nat) :
    List.Forall₂ CaughtAs (underPositions index vs) (underPositions index ws) := by
  induction each generalizing index with
  | nil => exact .nil
  | cons head _ ih => exact .cons (head.under _) (ih (index + 1))

end CaughtAs
end Verdict

namespace Rule
open Verdict (CaughtAs steady_failing steady_require)

mutual

def caught : Rule → Rule
  | predicate test message _ => predicate test message .fail
  | objectShape props => objectShape (caughtProps props)
  | objectLike props => objectLike (caughtProps props)
  | tuple items => tuple (caughtAll items)
  | arrayOf item => arrayOf item.caught
  | instanceOfWith cls props => instanceOfWith cls (caughtProps props)
  | allOf rules => allOf (caughtAll rules)
  | oneOf rules => oneOf (caughtAll rules)
  | anyOf rules => anyOf (caughtAll rules)
  | noneOf rules => noneOf (caughtAll rules)
  | not rule => not rule.caught
  | nullable rule => nullable rule.caught
  | nullish rule => nullish rule.caught
  | optional rule => optional rule.caught
  | rule => rule

def caughtAll : List Rule → List Rule
  | [] => []
  | rule :: rest => rule.caught :: caughtAll rest

def caughtProps : List (String × Rule) → List (String × Rule)
  | [] => []
  | (key, rule) :: rest => (key, rule.caught) :: caughtProps rest

end

mutual

def CustomSteady : Rule → Prop
  | custom _ test => ∀ v, (test v).Steady
  | objectShape props | objectLike props | instanceOfWith _ props => CustomSteadyProps props
  | tuple rules | allOf rules | oneOf rules | anyOf rules | noneOf rules => CustomSteadyAll rules
  | arrayOf rule | not rule | nullable rule | nullish rule | optional rule => rule.CustomSteady
  | _ => True

def CustomSteadyAll : List Rule → Prop
  | [] => True
  | rule :: rest => rule.CustomSteady ∧ CustomSteadyAll rest

def CustomSteadyProps : List (String × Rule) → Prop
  | [] => True
  | (_, rule) :: rest => rule.CustomSteady ∧ CustomSteadyProps rest

end

theorem length_caughtAll (rules : List Rule) : (caughtAll rules).length = rules.length := by
  induction rules with
  | nil => rfl
  | cons rule rest ih => rw [caughtAll, List.length_cons, List.length_cons, ih]

theorem caughtAs_predicate (test : Predicate) (message : String) (onBreak : OnBreak) (v : Value) :
    (Verdict.ofPredicate test message onBreak v).CaughtAs
      (Verdict.ofPredicate test message .fail v) := by
  cases result : test v with
  | ok passed =>
      simp only [Verdict.ofPredicate, result]
      exact .self (steady_require _ _)
  | error payload =>
      simp only [Verdict.ofPredicate, result]
      cases onBreak with
      | propagate => exact .breaks payload (steady_failing _)
      | fail => exact .fails _

mutual

theorem caughtAs_check (rule : Rule) (steady : rule.CustomSteady) (v : Value) :
    (rule.check v).CaughtAs (rule.caught.check v) := by
  cases rule with
  | predicate test message onBreak => exact caughtAs_predicate test message onBreak v
  | custom label test => exact .self (steady v)
  | objectShape props =>
      exact .andThen (.self (steady_require _ _)) (.all (caughtAs_checkProps props steady v))
  | objectLike props =>
      exact .andThen (.self (steady_require _ _)) (.all (caughtAs_checkProps props steady v))
  | instanceOfWith cls props =>
      refine .andThen (.andThen (.self ?_) (.self ?_)) (.all (caughtAs_checkProps props steady v))
      · exact steady_require _ _
      · exact steady_require _ _
  | tuple rules =>
      cases v with
      | array id items =>
          rw [caught, check, check, length_caughtAll]
          split
          · exact .all (CaughtAs.underPositions (caughtAs_checkItems rules steady items) 0)
          · exact .self (steady_failing _)
      | _ => exact .self (steady_failing _)
  | arrayOf rule =>
      cases v with
      | array id items =>
          refine .all (CaughtAs.underPositions ?_ 0)
          rw [List.forall₂_map_left_iff, List.forall₂_map_right_iff, List.forall₂_same]
          exact fun v _ => caughtAs_check rule steady v
      | _ => exact .self (steady_failing _)
  | allOf rules => exact .all (caughtAs_checkEach rules steady v)
  | oneOf rules =>
      have each := caughtAs_checkEach rules steady v
      -- The message counts the rules, and catching leaves as many.
      rw [caught, check, check, Verdict.one, Verdict.one, ← each.length_eq]
      exact .oneFrom each _ _ _
  | anyOf rules => exact .anyAfter (caughtAs_checkEach rules steady v) []
  | noneOf rules =>
      have each := caughtAs_checkEach rules steady v
      rw [caught, check, check, Verdict.none, Verdict.none, ← each.length_eq]
      exact .noneFrom each _ _
  | not rule => exact (caughtAs_check rule steady v).not
  | nullable rule | nullish rule | optional rule =>
      rw [caught, check, check]
      split
      · exact .conforms
      · exact caughtAs_check rule steady v
  | anything => exact .conforms
  | pattern p =>
      cases v with
      | string => exact .self (steady_require _ _)
      | _ => exact .self (steady_failing _)
  | _ => exact .self (steady_require _ _)

theorem caughtAs_checkEach (rules : List Rule) (steady : CustomSteadyAll rules) (v : Value) :
    List.Forall₂ CaughtAs (checkEach rules v) (checkEach (caughtAll rules) v) := by
  cases rules with
  | nil => exact .nil
  | cons rule rest =>
      exact .cons (caughtAs_check rule steady.1 v) (caughtAs_checkEach rest steady.2 v)

theorem caughtAs_checkItems (rules : List Rule) (steady : CustomSteadyAll rules)
    (items : List Value) :
    List.Forall₂ CaughtAs (checkItems rules items) (checkItems (caughtAll rules) items) := by
  cases rules with
  | nil => exact .nil
  | cons rule rest =>
      cases items with
      | nil => exact .nil
      | cons v items =>
          exact .cons (caughtAs_check rule steady.1 v) (caughtAs_checkItems rest steady.2 items)

theorem caughtAs_checkProps (props : List (String × Rule)) (steady : CustomSteadyProps props)
    (v : Value) :
    List.Forall₂ CaughtAs (checkProps props v) (checkProps (caughtProps props) v) := by
  cases props with
  | nil => exact .nil
  | cons p rest =>
      exact .cons ((caughtAs_check p.2 steady.1 (v.get p.1)).under p.1)
        (caughtAs_checkProps rest steady.2 v)

end

theorem caughtAll_eq_map (rules : List Rule) : caughtAll rules = rules.map caught := by
  induction rules with
  | nil => rw [caughtAll, List.map_nil]
  | cons rule rest ih => rw [caughtAll, List.map_cons, ih]

theorem caughtProps_eq_map (props : List (String × Rule)) :
    caughtProps props = props.map fun p => (p.1, p.2.caught) := by
  induction props with
  | nil => rw [caughtProps, List.map_nil]
  | cons p rest ih => rw [caughtProps, List.map_cons, ih]

theorem caughtProps_of_forall {props : List (String × Rule)}
    (each : ∀ p ∈ props, p.2.caught = p.2) : caughtProps props = props := by
  have same (p : String × Rule) (member : p ∈ props) : (p.1, p.2.caught) = p := by
    rw [each p member]
  rw [caughtProps_eq_map, List.map_congr_left same, List.map_id']

end Rule

namespace Schema

theorem caught_of_compileValue {v : Value} {rule : Rule} (compiled : compileValue v = .ok rule) :
    rule.caught = rule := by
  induction v using Value.induct generalizing rule with
  | array id items ih =>
      obtain ⟨rules, each, rfl⟩ := compileValue_array.1 compiled
      have same := forall₂_imp_of_mem (S := fun _ rule => rule.caught = rule) each
        fun v member rule _ compiled => ih v member compiled
      have kept (rule : Rule) (member : rule ∈ rules) : rule.caught = rule := by
        obtain ⟨v, kept⟩ := exists_of_forall₂_of_mem same.flip member
        exact kept
      rw [Rule.caught, Rule.caughtAll_eq_map, List.map_congr_left kept, List.map_id']
  | object id cls entries ih =>
      obtain ⟨props, each, rfl⟩ := compileValue_object.1 compiled
      have kept := each.forall_of_mem (Q := fun _ rule => rule.caught = rule)
        fun p member rule compiled => ih p member compiled
      rw [Rule.caught, Rule.caughtProps_of_forall kept]
  | error id cls message entries ih =>
      obtain ⟨props, each, rfl⟩ := compileValue_error.1 compiled
      have kept := each.forall_of_mem (Q := fun _ rule => rule.caught = rule) <| by
        intro p member rule compiled
        rcases Entries.mem_of_mem_insertAll member with own | inside
        · rw [List.mem_singleton.1 own] at compiled
          cases compiled
          rfl
        · rw [compileEntries_eq_map] at inside
          obtain ⟨q, there, rfl⟩ := List.mem_map.1 inside
          exact ih q there compiled
      rw [Rule.caught, Rule.caughtProps_of_forall kept]
  | other v notArray notObject notError =>
      rw [compileValue_other notArray notObject notError compiled, Rule.caught]
      all_goals nofun

namespace Draft

mutual

def caught : Draft → Draft
  | rule r => rule r.caught
  | value v => value v
  | tuple items => tuple (caughtAll items)
  | shape entries => shape (caughtEntries entries)
  | wrap call item => wrap call item.caught
  | group call entries => group call (caughtEntries entries)
  | combine c items => combine c (caughtAll items)

def caughtAll : List Draft → List Draft
  | [] => []
  | d :: rest => d.caught :: caughtAll rest

def caughtEntries : List (String × Draft) → List (String × Draft)
  | [] => []
  | (key, d) :: rest => (key, d.caught) :: caughtEntries rest

end

theorem caught_wrapper (call : Wrapper) (r : Rule) : (call.rule r).caught = call.rule r.caught := by
  cases call <;> rfl

theorem caught_grouper (call : Grouper) (props : Entries Rule) :
    (call.rule props).caught = call.rule (props.map fun p => (p.1, p.2.caught)) := by
  cases call <;> simp only [Grouper.rule, Rule.caught, Rule.caughtProps_eq_map]

theorem combineRules_caught (c : Combinator) (rules : List Rule) :
    combineRules c (rules.map Rule.caught) = (combineRules c rules).map Rule.caught := by
  rw [combineRules, combineRules, List.length_map]
  split
  · rfl
  · cases c <;> simp only [Except.map, Combinator.combine, Rule.caught, Rule.caughtAll_eq_map]

theorem allEntriesOk_ofList_map {α β ε : Type} (f : α → β) (results : List (String × Except ε α)) :
    allEntriesOk (Entries.ofList (results.map fun p => (p.1, p.2.map f))) =
      (allEntriesOk (Entries.ofList results)).map (List.map fun p => (p.1, f p.2)) := by
  rw [Entries.ofList_map, allEntriesOk_map]

theorem outcome_value_caught (v : Value) :
    (value v).outcome = (value v).outcome.map (Except.map Rule.caught) := by
  change Except.ok (compileValue v) = .ok ((compileValue v).map Rule.caught)
  cases compiled : compileValue v with
  | error e => rfl
  | ok rule => rw [Except.map, caught_of_compileValue compiled]

mutual

theorem outcome_caught (d : Draft) :
    d.caught.outcome = d.outcome.map (Except.map Rule.caught) := by
  cases d with
  | rule r => rfl
  | value v => exact outcome_value_caught v
  | tuple items =>
      rw [caught, outcome_tuple, outcome_tuple, outcomes_caught, allOk_map]
      cases allOk (items.map outcome) with
      | error e => rfl
      | ok results =>
          simp only [Except.map, allOk_map]
          cases allOk results with
          | error e => rfl
          | ok rules => simp only [Rule.caught, Rule.caughtAll_eq_map]
  | shape entries =>
      rw [caught, outcome_shape, outcome_shape, outcomes_caughtEntries, allEntriesOk_map]
      cases allEntriesOk (entries.map fun p => (p.1, p.2.outcome)) with
      | error e => rfl
      | ok results =>
          -- Of results under one key the last counts, caught or not.
          have parts := allEntriesOk_ofList_map Rule.caught results
          simp only [Except.map] at parts ⊢
          rw [parts]
          cases allEntriesOk (Entries.ofList results) with
          | error e => rfl
          | ok props => simp only [Rule.caught, Rule.caughtProps_eq_map]
  | wrap call item =>
      rw [caught, outcome_wrap, outcome_wrap, outcome_caught]
      cases item.outcome with
      | error e => rfl
      | ok result =>
          cases result with
          | error e => rfl
          | ok r => simp only [Except.map, bind, Except.bind, caught_wrapper]
  | group call entries =>
      rw [caught, outcome_group, outcome_group, outcomes_caughtEntries, allEntriesOk_map]
      cases allEntriesOk (entries.map fun p => (p.1, p.2.outcome)) with
      | error e => rfl
      | ok results =>
          have parts := allEntriesOk_ofList_map Rule.caught results
          simp only [Except.map, bind, Except.bind] at parts ⊢
          rw [parts]
          cases allEntriesOk (Entries.ofList results) with
          | error e => rfl
          | ok props => simp only [caught_grouper]
  | combine c items =>
      rw [caught, outcome_combine, outcome_combine, outcomes_caught, allOk_map]
      cases allOk (items.map outcome) with
      | error e => rfl
      | ok results =>
          simp only [Except.map, bind, Except.bind, allOk_map]
          cases allOk results with
          | error e => rfl
          | ok rules =>
              simp only [combineRules_caught]
              cases combineRules c rules <;> rfl

theorem outcomes_caught (items : List Draft) :
    (caughtAll items).map outcome =
      (items.map outcome).map (Except.map (Except.map Rule.caught)) := by
  cases items with
  | nil => rfl
  | cons d rest =>
      rw [caughtAll, List.map_cons, List.map_cons, List.map_cons, outcome_caught, outcomes_caught]

theorem outcomes_caughtEntries (entries : List (String × Draft)) :
    ((caughtEntries entries).map fun p => (p.1, p.2.outcome)) =
      (entries.map fun p => (p.1, p.2.outcome)).map fun p =>
        (p.1, p.2.map (Except.map Rule.caught)) := by
  cases entries with
  | nil => rfl
  | cons p rest =>
      obtain ⟨key, d⟩ := p
      rw [caughtEntries, List.map_cons, List.map_cons, List.map_cons, outcome_caught,
        outcomes_caughtEntries]

end

theorem compile_caught (d : Draft) : d.caught.compile = d.compile.map Rule.caught := by
  rw [compile_eq, compile_eq, outcome_caught]
  cases d.outcome <;> rfl

/-- A draft compiles with its predicates caught when it compiles without, and fails alike when it
does not. No check of the rule breaks down then, and each that did not break down before comes out
the same. -/
theorem caught_refines (d : Draft) :
    (∀ e, d.compile = .error e ↔ d.caught.compile = .error e) ∧
      ∀ r, d.compile = .ok r → r.CustomSteady → ∃ s, d.caught.compile = .ok s ∧
        ∀ v, (s.check v).Steady ∧ ((r.check v).Steady → s.check v = r.check v) := by
  rw [compile_caught]
  refine ⟨fun e => ?_, fun r compiled steady => ⟨r.caught, ?_, fun v => ?_⟩⟩
  · cases d.compile <;> simp [Except.map]
  · rw [compiled]
    rfl
  · have caught := Rule.caughtAs_check r steady v
    exact ⟨caught.steady, caught.eq⟩

theorem caught_refines_not :
    let test : Predicate := fun v => if v.isNull then .ok true else .error (some "exploded")
    let item : Draft := wrap .not (rule (.predicate test "" .propagate))
    let d : Draft := combine .any [rule (.kind .string), wrap .arrayOf item]
    ∃ r s, d.compile = .ok r ∧ d.caught.compile = .ok s ∧
      r.check (.array 16 [.bool true]) = .breaks (some "exploded") ∧
      (s.check (.array 16 [.bool true])).Steady ∧
      s.check (.array 16 [.null]) = r.check (.array 16 [.null]) := by
  intro test item d
  obtain ⟨s, compiled, refines⟩ := (caught_refines d).2 _ rfl ⟨trivial, trivial, trivial⟩
  exact ⟨_, s, rfl, compiled, rfl, (refines _).1, (refines _).2 nofun⟩

end Draft
end Schema
end ShapeCheck
