import ShapeCheck.Value.Equality
import ShapeCheck.Value.Tag

namespace ShapeCheck.Value

theorem tag_eq_of_identical {v w : Value} (h : v.identical w = true) : v.tag = w.tag := by
  cases v <;> cases w <;> first | rfl | cases h

theorem tag_eq_of_sameLiteral {v w : Value} (h : v.sameLiteral w = true) : v.tag = w.tag := by
  unfold sameLiteral at h
  rw [Bool.or_eq_true] at h
  rcases h with identical | alike
  · exact tag_eq_of_identical identical
  · split at alike
    · rfl
    · rfl
    · rfl
    · cases alike

theorem sameLiteral_string {s : String} {v : Value} :
    (string s).sameLiteral v = true ↔ v = string s := by
  cases v with
  | string t =>
      simp only [sameLiteral, identical, Bool.or_false, beq_iff_eq, string.injEq]
      exact eq_comm
  | _ => simp [sameLiteral, identical]

theorem sameLiteral_self (v : Value) : v.sameLiteral v = true := by
  cases v with
  | number x => cases nan : x.isNaN <;> simp [sameLiteral, identical, Binary64.equals, nan]
  | _ => simp [sameLiteral, identical]

theorem isNullish_of_isInstanceOf {v : Value} {cls : Class} (h : v.isInstanceOf cls = true) :
    v.isNullish = false := by
  cases v <;> first | rfl | cases h

end ShapeCheck.Value
