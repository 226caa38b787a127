import ShapeCheck.Proofs.Binary64.Exact
import ShapeCheck.Proofs.Verdict
import ShapeCheck.Value.Property

namespace ShapeCheck

def Value.HasLength (v : Value) (n : Nat) : Prop :=
  ∃ x, v.get "length" = .number x ∧ x.value? = some (n : ℚ)

namespace Rule

theorem check_length_eq_conforms {n : Nat} {v : Value} :
    (length n).check v = .conforms ↔
      ∃ x, v.get "length" = .number x ∧ x.equals (.ofNat n) = true := by
  rw [check, Verdict.ofLength, Verdict.require_eq_conforms]
  cases v.get "length" <;> simp

/-- A length conforms when it is the nearest datum to the number, and this means that it is the
number for just the numbers of 53 binary places with zeros at their ends. -/
theorem check_length (n : UInt64) :
    (∀ v, (length n.toNat).check v = .conforms ↔
      ∃ x, v.get "length" = .number x ∧ x.StandsFor n.toNat) ∧
    ((∀ v, (length n.toNat).check v = .conforms ↔ v.HasLength n.toNat) ↔
      Binary64.FitsPlaces n.toNat) := by
  have finite := Binary64.isFinite_ofNat n.toNat_lt
  simp only [check_length_eq_conforms]
  refine ⟨fun v => ?_, fun always => ?_, fun fits v => ?_⟩
  · simp only [Binary64.equals_ofNat_iff finite]
  · let v : Value := .object Class.firstFree .object [("length", .number (.ofNat n.toNat))]
    obtain ⟨x, -, known⟩ := (always v).1 ⟨_, rfl, Binary64.equals_self finite⟩
    exact Binary64.fitsPlaces_of_value? known
  · simp only [Value.HasLength, Binary64.equals_iff_value? (Binary64.value?_ofNat fits finite)]

theorem check_length_rounded :
    let n : UInt64 := 9007199254740993
    let v : Value := .object 16 .object [("length", .number (.ofNat 9007199254740992))]
    (length n.toNat).check v = .conforms ∧ v.HasLength 9007199254740992 ∧
      ¬ v.HasLength n.toNat := by
  intro n v
  have fits : Binary64.FitsPlaces 9007199254740992 := ⟨9007199254740992, 0, by decide, by decide⟩
  have known := Binary64.value?_ofNat fits (Binary64.isFinite_ofNat (by decide))
  refine ⟨check_length_eq_conforms.2 ⟨_, rfl, by decide +kernel⟩, ⟨_, rfl, known⟩, ?_⟩
  rintro ⟨x, found, other⟩
  have same : Binary64.ofNat 9007199254740992 = x := Value.number.inj found
  rw [← same, known, Option.some.injEq, Nat.cast_inj] at other
  exact absurd other (by decide)

end Rule
end ShapeCheck
