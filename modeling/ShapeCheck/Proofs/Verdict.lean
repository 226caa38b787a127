import ShapeCheck.Rule.Check

namespace ShapeCheck

theorem Mismatch.message_under (m : Mismatch) (step : String) :
    (m.under step).message = "[" ++ step ++ "] " ++ m.message :=
  rfl

theorem Mismatch.message_eq_join (m : Mismatch) :
    m.message = String.join (m.path.map fun step => "[" ++ step ++ "] ") ++ m.reason := by
  obtain ⟨path, reason⟩ := m
  induction path with
  | nil => simp [message]
  | cons step path ih =>
      change "[" ++ step ++ "] " ++ message ⟨path, reason⟩ = _
      rw [ih, List.map_cons, String.join_cons]
      exact (String.append_assoc ..).symm

namespace Verdict

theorem failing_eq {reason : String} (described : reason.isEmpty = false) :
    failing reason = fails ⟨[], reason⟩ := by
  rw [failing, Mismatch.ofReason, if_neg (by simp [described])]

theorem require_of {condition : Bool} (h : condition = true) (reason : String) :
    require condition reason = conforms := by
  rw [require, if_pos h]

theorem require_of_not {condition : Bool} (h : condition = false) (reason : String) :
    require condition reason = failing reason := by
  rw [require, if_neg (by simp [h])]

theorem require_eq_conforms {condition : Bool} {reason : String} :
    require condition reason = conforms ↔ condition = true := by
  cases condition <;> simp [require, failing]

theorem require_ne_breaks {condition : Bool} {reason : String} (payload : Payload) :
    require condition reason ≠ breaks payload := by
  cases condition <;> nofun

theorem under_eq_conforms {step : String} {v : Verdict} : v.under step = conforms ↔ v = conforms := by
  cases v <;> simp [under]

theorem andThen_eq_conforms {v w : Verdict} : v.andThen w = conforms ↔ v = conforms ∧ w = conforms := by
  cases v <;> simp [andThen]

theorem andThen_assoc (u v w : Verdict) : (u.andThen v).andThen w = u.andThen (v.andThen w) := by
  cases u <;> rfl

theorem andThen_conforms (v : Verdict) : v.andThen conforms = v := by
  cases v <;> rfl

theorem under_eq_fails {step : String} {v : Verdict} {m : Mismatch} :
    v.under step = fails m ↔ ∃ inner, v = fails inner ∧ m = inner.under step := by
  cases v <;> simp [under, eq_comm]

theorem mem_of_all_eq_fails {verdicts : List Verdict} {m : Mismatch} (h : all verdicts = fails m) :
    fails m ∈ verdicts := by
  induction verdicts with
  | nil => cases h
  | cons v rest ih =>
      cases v with
      | conforms => exact List.mem_cons_of_mem _ (ih h)
      | fails => exact h ▸ List.mem_cons_self
      | breaks => cases h

theorem all_eq_conforms {verdicts : List Verdict} :
    all verdicts = conforms ↔ ∀ v ∈ verdicts, v = conforms := by
  induction verdicts with
  | nil => simp [all]
  | cons v rest ih => rw [all, andThen_eq_conforms, ih, List.forall_mem_cons]

theorem forall_underPositions {index : Nat} {verdicts : List Verdict} :
    (∀ v ∈ underPositions index verdicts, v = conforms) ↔ ∀ v ∈ verdicts, v = conforms := by
  induction verdicts generalizing index with
  | nil => simp [underPositions]
  | cons v rest ih =>
      rw [underPositions, List.forall_mem_cons, List.forall_mem_cons, under_eq_conforms, ih]

theorem ofObject_eq_conforms {v : Value} : ofObject v = conforms ↔ v.tag = .object := by
  rw [ofObject, require_eq_conforms, decide_eq_true_iff]

theorem ofPresent_eq_conforms {v : Value} : ofPresent v = conforms ↔ v.isNullish = false := by
  rw [ofPresent, require_eq_conforms, Bool.not_eq_true']

theorem ofInstance_eq_conforms {cls : Class} {v : Value} :
    ofInstance cls v = conforms ↔ v.isInstanceOf cls = true :=
  require_eq_conforms

end Verdict
end ShapeCheck
