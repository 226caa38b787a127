import Mathlib.Data.List.Forall2
import ShapeCheck.Proofs.Verdict

namespace ShapeCheck.Rule

theorem check_literal (expected v : Value) :
    (literal expected).check v = .ofLiteral expected v :=
  rfl

theorem check_objectShape (props : List (String × Rule)) (v : Value) :
    (objectShape props).check v = (Verdict.ofObject v).andThen (.all (checkProps props v)) :=
  rfl

theorem check_objectLike (props : List (String × Rule)) (v : Value) :
    (objectLike props).check v = (Verdict.ofPresent v).andThen (.all (checkProps props v)) :=
  rfl

theorem check_instanceOfWith (cls : Class) (props : List (String × Rule)) (v : Value) :
    (instanceOfWith cls props).check v =
      ((Verdict.ofInstance cls v).andThen (.ofPresent v)).andThen (.all (checkProps props v)) :=
  rfl

theorem check_tuple (rules : List Rule) (id : Identity) (items : List Value) :
    (tuple rules).check (.array id items) =
      if items.length = rules.length then .all (Verdict.underPositions 0 (checkItems rules items))
      else .failing ("expected tuple of " ++ toString rules.length ++ " items, got " ++
        toString items.length) :=
  rfl

theorem check_tuple_other {rules : List Rule} {v : Value} (notArray : v.tag ≠ .array) :
    (tuple rules).check v = .failing ("expected tuple, got " ++ v.tag.toText) := by
  cases v with
  | array => cases notArray rfl
  | _ => rfl

theorem check_arrayOf (rule : Rule) (id : Identity) (items : List Value) :
    (arrayOf rule).check (.array id items) =
      .all (Verdict.underPositions 0 (items.map (rule.check ·))) :=
  rfl

theorem check_objectShape_other {props : Entries Rule} {v : Value} (notObject : v.tag ≠ .object) :
    (objectShape props).check v = .failing ("expected object, got " ++ v.toText) := by
  rw [check_objectShape, Verdict.ofObject, Verdict.require_of_not (decide_eq_false notObject)]
  rfl

theorem checkItems_cons (rule : Rule) (rules : List Rule) (v : Value) (items : List Value) :
    checkItems (rule :: rules) (v :: items) = rule.check v :: checkItems rules items :=
  rfl

theorem checkProps_cons (p : String × Rule) (props : List (String × Rule)) (v : Value) :
    checkProps (p :: props) v = (p.2.check (v.get p.1)).under p.1 :: checkProps props v :=
  rfl

theorem checkProps_eq_map (props : List (String × Rule)) (v : Value) :
    checkProps props v = props.map fun p => (p.2.check (v.get p.1)).under p.1 := by
  induction props with
  | nil => rfl
  | cons p rest ih => rw [checkProps_cons, List.map_cons, ih]

def FailsUnder (props : List (String × Rule)) (v : Value) (m : Mismatch) : Prop :=
  ∃ p ∈ props, ∃ inner, p.2.check (v.get p.1) = .fails inner ∧ m = inner.under p.1

theorem failsUnder_of_all {props : List (String × Rule)} {v : Value} {m : Mismatch}
    (failed : Verdict.all (checkProps props v) = .fails m) : FailsUnder props v m := by
  have member := Verdict.mem_of_all_eq_fails failed
  rw [checkProps_eq_map] at member
  obtain ⟨p, inProps, here⟩ := List.mem_map.1 member
  exact ⟨p, inProps, Verdict.under_eq_fails.1 here⟩

theorem all_checkProps_eq_conforms {props : List (String × Rule)} {v : Value} :
    Verdict.all (checkProps props v) = .conforms ↔
      ∀ p ∈ props, p.2.check (v.get p.1) = .conforms := by
  rw [Verdict.all_eq_conforms, checkProps_eq_map, List.forall_mem_map]
  simp only [Verdict.under_eq_conforms]

theorem all_checkItems_eq_conforms {rules : List Rule} {items : List Value}
    (same : items.length = rules.length) :
    Verdict.all (Verdict.underPositions 0 (checkItems rules items)) = .conforms ↔
      List.Forall₂ (fun rule v => rule.check v = .conforms) rules items := by
  rw [Verdict.all_eq_conforms, Verdict.forall_underPositions]
  induction rules generalizing items with
  | nil => simp [List.length_eq_zero_iff.1 same, checkItems]
  | cons rule rules ih =>
      cases items with
      | nil => cases same
      | cons v items =>
          rw [checkItems_cons, List.forall_mem_cons, List.forall₂_cons, ih (Nat.succ.inj same)]

theorem check_literal_eq_conforms {expected v : Value} :
    (literal expected).check v = .conforms ↔ expected.sameLiteral v = true := by
  rw [check_literal, Verdict.ofLiteral, Verdict.require_eq_conforms]

theorem check_objectShape_eq_conforms {props : List (String × Rule)} {v : Value} :
    (objectShape props).check v = .conforms ↔
      v.tag = .object ∧ ∀ p ∈ props, p.2.check (v.get p.1) = .conforms := by
  rw [check_objectShape, Verdict.andThen_eq_conforms, Verdict.ofObject_eq_conforms,
    all_checkProps_eq_conforms]

theorem check_instanceOfWith_eq_conforms {cls : Class} {props : List (String × Rule)} {v : Value} :
    (instanceOfWith cls props).check v = .conforms ↔
      (v.isInstanceOf cls = true ∧ v.isNullish = false) ∧
        ∀ p ∈ props, p.2.check (v.get p.1) = .conforms := by
  rw [check_instanceOfWith, Verdict.andThen_eq_conforms, Verdict.andThen_eq_conforms,
    Verdict.ofInstance_eq_conforms, Verdict.ofPresent_eq_conforms, all_checkProps_eq_conforms]

theorem check_tuple_eq_conforms {rules : List Rule} {v : Value} :
    (tuple rules).check v = .conforms ↔
      ∃ id items, v = .array id items ∧
        List.Forall₂ (fun rule v => rule.check v = .conforms) rules items := by
  constructor
  · intro h
    cases v with
    | array id items =>
        rw [check_tuple] at h
        split at h
        · rename_i same
          exact ⟨id, items, rfl, (all_checkItems_eq_conforms same).1 h⟩
        · cases h
    | _ => cases h
  · intro given
    obtain ⟨id, items, rfl, each⟩ := given
    have same := each.length_eq.symm
    rw [check_tuple, if_pos same]
    exact (all_checkItems_eq_conforms same).2 each

end ShapeCheck.Rule
