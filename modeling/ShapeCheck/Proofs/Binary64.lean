import ShapeCheck.Binary64

namespace ShapeCheck.Binary64

variable {x y : Binary64}

theorem isFinite_of_isZero (zero : x.isZero = true) : x.isFinite = true := by
  rw [isZero, Bool.and_eq_true, beq_iff_eq] at zero
  rw [isFinite, zero.1]
  rfl

theorem isNaN_of_isFinite (finite : x.isFinite = true) : x.isNaN = false := by
  rw [isFinite, bne, Bool.not_eq_true'] at finite
  rw [isNaN, finite, Bool.false_and]

theorem equals_iff :
    x.equals y = true ↔
      x.isNaN = false ∧ y.isNaN = false ∧ (x = y ∨ x.isZero = true ∧ y.isZero = true) := by
  simp [equals, and_assoc]

def representative (x : Binary64) : Binary64 :=
  if x.isNaN then nan else if x.isZero then zero else x

theorem isNaN_representative (x : Binary64) : x.representative.isNaN = x.isNaN := by
  unfold representative
  split
  next isNaN => rw [isNaN]; rfl
  next number =>
    split
    · exact (Bool.eq_false_iff.2 number).symm
    · rfl

theorem isZero_representative (x : Binary64) : x.representative.isZero = x.isZero := by
  unfold representative
  split
  next isNaN =>
    cases isZero : x.isZero with
    | true => cases isNaN.symm.trans (isNaN_of_isFinite (isFinite_of_isZero isZero))
    | false => rfl
  next =>
    split
    next isZero => rw [isZero]; rfl
    next => rfl

theorem representative_eq_iff :
    x.representative = y.representative ↔ x.equals y = true ∨ x.isNaN = true ∧ y.isNaN = true := by
  rw [equals_iff]
  constructor
  · intro same
    have nans : x.isNaN = y.isNaN := by rw [← isNaN_representative, same, isNaN_representative]
    have zeros : x.isZero = y.isZero := by rw [← isZero_representative, same, isZero_representative]
    cases isNaN : y.isNaN with
    | true => exact .inr ⟨nans.trans isNaN, rfl⟩
    | false =>
        refine .inl ⟨nans.trans isNaN, rfl, ?_⟩
        cases isZero : y.isZero with
        | true => exact .inr ⟨zeros.trans isZero, rfl⟩
        | false => simpa [representative, nans, zeros, isNaN, isZero] using same
  · rintro (⟨numberX, numberY, rfl | ⟨zeroX, zeroY⟩⟩ | ⟨nanX, nanY⟩)
    · rfl
    · simp [representative, numberX, numberY, zeroX, zeroY]
    · simp [representative, nanX, nanY]

theorem equals_iff_representative :
    x.equals y = true ↔ x.isNaN = false ∧ x.representative = y.representative := by
  rw [representative_eq_iff]
  constructor
  · exact fun equal => ⟨(equals_iff.1 equal).1, .inl equal⟩
  · rintro ⟨number, equal | ⟨isNaN, -⟩⟩
    · exact equal
    · cases number.symm.trans isNaN

end ShapeCheck.Binary64
