import ShapeCheck.Proofs.Binary64
import ShapeCheck.Proofs.Binary64.Rounding

namespace ShapeCheck.Binary64

variable {x y : Binary64} {n : Nat}

def value? (x : Binary64) : Option ℚ :=
  if x.isFinite then some ((if x.negative then -1 else 1) * (x.magnitude / leastPerOne)) else none

theorem cast_leastPerOne_pos : (0 : ℚ) < leastPerOne :=
  Nat.cast_pos.2 leastPerOne_pos

/-! ## Magnitudes -/

theorem magnitude_eq_zero_iff : x.magnitude = 0 ↔ x.isZero = true := by
  constructor
  · intro none
    by_contra given
    have positive := significand_pos (Bool.eq_false_iff.2 given)
    rw [magnitude_eq, Nat.mul_eq_zero] at none
    rcases none with none | none
    · omega
    · exact absurd none (Nat.ne_of_gt x.step_pos)
  · intro zero
    rw [isZero, Bool.and_eq_true, beq_iff_eq, beq_iff_eq] at zero
    rw [magnitude, zero.1, zero.2]
    rfl

theorem around_magnitude (given : x.isZero = false) :
    x.neighbourhood.Around (x.magnitude / leastPerOne) := by
  refine Neighbourhood.around_of_eq_value (neighbourhood_low_lt given) (neighbourhood_value_lt x) ?_
  have value : x.neighbourhood.value = 4 * x.magnitude := rfl
  rw [unitsPerOne_eq, value, Nat.cast_mul, Nat.cast_ofNat, mul_left_comm,
    div_mul_cancel₀ _ (ne_of_gt cast_leastPerOne_pos)]

theorem eq_of_magnitude (same : x.magnitude = y.magnitude) (given : x.isZero = false) :
    x.exponent = y.exponent ∧ x.fraction = y.fraction := by
  have given' : y.isZero = false := by
    rw [← Bool.not_eq_true, ← magnitude_eq_zero_iff, ← same, magnitude_eq_zero_iff, given]
    exact Bool.false_ne_true
  exact eq_of_around (around_magnitude given) (same ▸ around_magnitude given')

/-! ## Natural numbers -/

theorem value?_eq_natCast_iff :
    x.value? = some (n : ℚ) ↔ x.isFinite = true ∧ x.magnitude = n * leastPerOne ∧
      (x.negative = true → n = 0) := by
  have size : (x.magnitude : ℚ) / leastPerOne = n ↔ x.magnitude = n * leastPerOne := by
    rw [div_eq_iff (ne_of_gt cast_leastPerOne_pos), ← Nat.cast_mul, Nat.cast_inj]
  rw [value?]
  split
  · rename_i finite
    rw [Option.some.injEq, and_iff_right finite]
    cases x.negative with
    | false => simp [size]
    | true =>
        rw [if_pos rfl, neg_one_mul]
        constructor
        · intro same
          have least : (0 : ℚ) ≤ x.magnitude / leastPerOne := by positivity
          have none : (n : ℚ) = 0 := by
            have natural : (0 : ℚ) ≤ n := Nat.cast_nonneg n
            linarith
          rw [← size]
          exact ⟨by linarith, fun _ => Nat.cast_eq_zero.1 none⟩
        · rintro ⟨same, none⟩
          rw [none rfl] at same ⊢
          simp [same]
  · rename_i infinite
    simp [infinite]

/-- Whether 53 binary places suffice for a number, but for zeros at its end. -/
def FitsPlaces (n : Nat) : Prop :=
  ∃ m k, m ≤ 2 ^ 53 ∧ n = m * 2 ^ k

theorem significand_lt (x : Binary64) : x.significand < 2 ^ 53 := by
  rw [significand]
  split <;> omega

theorem fitsPlaces_of_value? (known : x.value? = some (n : ℚ)) : FitsPlaces n := by
  obtain ⟨-, same, -⟩ := value?_eq_natCast_iff.1 known
  have bound := significand_lt x
  rw [magnitude_eq, step] at same
  generalize x.exponent.val - 1 = shift at same
  unfold leastPerOne at same
  generalize 1074 = places at same
  rcases Nat.le_total shift places with below | above
  · obtain ⟨k, total⟩ := Nat.exists_eq_add_of_le below
    rw [total, Nat.pow_add, Nat.mul_comm (2 ^ shift), ← Nat.mul_assoc] at same
    have cancelled := Nat.eq_of_mul_eq_mul_right (Nat.two_pow_pos shift) same
    have le : n ≤ x.significand := by
      rw [cancelled]
      exact Nat.le_mul_of_pos_right n (Nat.two_pow_pos k)
    exact ⟨n, 0, by omega, by rw [Nat.pow_zero, Nat.mul_one]⟩
  · obtain ⟨k, rfl⟩ := Nat.exists_eq_add_of_le above
    rw [Nat.pow_add, Nat.mul_comm (2 ^ places), ← Nat.mul_assoc] at same
    exact ⟨x.significand, k, by omega, (Nat.eq_of_mul_eq_mul_right (Nat.two_pow_pos _) same).symm⟩

theorem mul_two_pow_div_lt {num den a b : Nat} (positive : 0 < den) (small : num < 2 ^ a * den) :
    num * 2 ^ b / den < 2 ^ (a + b) := by
  rw [Nat.div_lt_iff_lt_mul positive, Nat.pow_add, Nat.mul_right_comm]
  exact Nat.mul_lt_mul_of_pos_right small (Nat.two_pow_pos b)

theorem two_pow_dvd {num m k : Nat} (le : m ≤ 2 ^ 53) (same : num = m * 2 ^ k) :
    2 ^ (Nat.log2 num - 52) ∣ num := by
  generalize shift : Nat.log2 num - 52 = lost
  by_cases few : lost ≤ k
  · rw [same]
    exact Dvd.dvd.mul_left (Nat.pow_dvd_pow 2 few) m
  · have given : num ≠ 0 := by
      rintro rfl
      exact few (shift ▸ Nat.zero_le k)
    have size : Nat.log2 num = lost + 52 := by omega
    have least : 2 ^ (lost + 52) ≤ num := size ▸ Nat.log2_self_le given
    have most : num ≤ 2 ^ (53 + k) := by
      rw [same, Nat.pow_add]
      exact Nat.mul_le_mul_right _ le
    have reach : 2 ^ (53 + k) ≤ 2 ^ (lost + 52) := Nat.pow_le_pow_right (by decide) (by omega)
    rw [Nat.le_antisymm (most.trans reach) least, Nat.pow_add]
    exact Nat.dvd_mul_right _ _

theorem value?_ofNat (fits : FitsPlaces n) (finite : (ofNat n).isFinite = true) :
    (ofNat n).value? = some (n : ℚ) := by
  rw [value?_eq_natCast_iff, finite]
  rw [ofNat] at finite ⊢
  rw [negative_ofRatio, magnitude_ofRatio Nat.one_pos finite]
  refine ⟨rfl, ?_, nofun⟩
  obtain ⟨m, k, le, rfl⟩ := fits
  have split : m * 2 ^ k * leastPerOne = m * 2 ^ (k + 1074) := by
    unfold leastPerOne
    rw [Nat.mul_assoc, Nat.pow_add]
  obtain ⟨c, whole⟩ := two_pow_dvd le split
  rw [roundToPrecision, Nat.div_one, Nat.one_shiftLeft]
  dsimp only [Nat.reduceSub]
  generalize Nat.log2 (m * 2 ^ k * leastPerOne) - 52 = lost at whole ⊢
  rw [whole, Nat.mul_comm (2 ^ lost), roundHalfEven_mul (Nat.two_pow_pos lost)]

/-! ## Equality -/

theorem value?_of_isZero (zero : x.isZero = true) : x.value? = some 0 := by
  rw [value?, if_pos (isFinite_of_isZero zero), magnitude_eq_zero_iff.2 zero]
  simp

theorem eq_of_fields (signs : x.negative = y.negative) (exponents : x.exponent = y.exponent)
    (fractions : x.fraction = y.fraction) : x = y := by
  cases x
  cases signs
  cases exponents
  cases fractions
  rfl

theorem abs_of_value? {q : ℚ} (known : x.value? = some q) : |q| = x.magnitude / leastPerOne := by
  rw [value?] at known
  split at known
  · have size : (0 : ℚ) ≤ x.magnitude / leastPerOne := by positivity
    cases known
    cases x.negative <;> simp [abs_of_nonneg size]
  · cases known

theorem isFinite_of_value? {q : ℚ} (known : x.value? = some q) : x.isFinite = true := by
  rw [value?] at known
  split at known
  · assumption
  · cases known

theorem magnitude_of_value? {q : ℚ} (known : x.value? = some q) (known' : y.value? = some q) :
    x.magnitude = y.magnitude := by
  have same := (abs_of_value? known).symm.trans (abs_of_value? known')
  rwa [div_left_inj' (ne_of_gt cast_leastPerOne_pos), Nat.cast_inj] at same

theorem eq_of_value? {q : ℚ} (known : x.value? = some q) (known' : y.value? = some q)
    (given : x.isZero = false) : x = y := by
  have sizes := magnitude_of_value? known known'
  obtain ⟨exponent, fraction⟩ := eq_of_magnitude sizes given
  have positive : (0 : ℚ) < y.magnitude / leastPerOne := by
    have nonzero : x.magnitude ≠ 0 := by
      rw [ne_eq, magnitude_eq_zero_iff, given]
      exact Bool.false_ne_true
    rw [← sizes]
    exact div_pos (Nat.cast_pos.2 (Nat.pos_of_ne_zero nonzero)) cast_leastPerOne_pos
  have signs : x.negative = y.negative := by
    have same := known.trans known'.symm
    rw [value?, value?, if_pos (isFinite_of_value? known), if_pos (isFinite_of_value? known'),
      Option.some.injEq, sizes, mul_left_inj' (ne_of_gt positive)] at same
    revert same
    cases x.negative <;> cases y.negative <;> norm_num
  exact eq_of_fields signs exponent fraction

theorem equals_iff_value? {q : ℚ} (known : y.value? = some q) :
    x.equals y = true ↔ x.value? = some q := by
  rw [equals_iff]
  constructor
  · rintro ⟨-, -, rfl | ⟨zero, zero'⟩⟩
    · exact known
    · rw [value?_of_isZero zero, ← value?_of_isZero zero', known]
  · intro same
    have finite := isFinite_of_value? same
    have finite' := isFinite_of_value? known
    refine ⟨isNaN_of_isFinite finite, isNaN_of_isFinite finite', ?_⟩
    cases zero : x.isZero with
    | false => exact .inl (eq_of_value? same known zero)
    | true =>
        refine .inr ⟨rfl, ?_⟩
        rw [← magnitude_eq_zero_iff] at zero ⊢
        rw [← magnitude_of_value? same known, zero]

/-! ## Conversion -/

theorem isFinite_ofRatio (negative : Bool) (small : n < 2 ^ 64) :
    (ofRatio negative n 1).isFinite = true := by
  have places : n * leastPerOne / 1 < 2 ^ (64 + 1074) := by
    unfold leastPerOne
    exact mul_two_pow_div_lt Nat.one_pos (by rwa [Nat.mul_one])
  rw [ofRatio_eq]
  apply isFinite_encode
  change Nat.log2 (n * leastPerOne / 1) - 52 + 2 < 2047
  by_cases none : n * leastPerOne / 1 = 0
  · rw [none]
    decide
  · have := (Nat.log2_lt none).2 places
    omega

theorem isFinite_ofNat (small : n < 2 ^ 64) : (ofNat n).isFinite = true :=
  isFinite_ofRatio false small

theorem around_ofNat (finite : (ofNat n).isFinite = true) : (ofNat n).neighbourhood.Around n := by
  have around := around_ofRatio Nat.one_pos finite
  rwa [Nat.cast_one, div_one] at around

theorem isZero_ofNat (finite : (ofNat n).isFinite = true) (positive : 0 < n) :
    (ofNat n).isZero = false := by
  have given : 0 < n * leastPerOne := Nat.mul_pos positive leastPerOne_pos
  obtain ⟨above, -, -⟩ := roundToPrecision_near 53 (n * leastPerOne) Nat.one_pos
  obtain ⟨-, fine⟩ := roundToPrecision_bounds (n * leastPerOne) Nat.one_pos
  rw [← Bool.not_eq_true, ← magnitude_eq_zero_iff, ofNat, magnitude_ofRatio Nat.one_pos finite,
    Nat.mul_eq_zero]
  generalize roundToPrecision 53 (n * leastPerOne) 1 = rounded at *
  rintro (none | none)
  · have whole : rounded.2 = 0 := fine.resolve_right (by omega)
    rw [none, whole] at above
    omega
  · exact absurd none (Nat.ne_of_gt (Nat.two_pow_pos _))

/-- Whether a datum stands for a natural number: it is that number, or the nearest one to it. -/
def StandsFor (x : Binary64) (n : Nat) : Prop :=
  x.value? = some (n : ℚ) ∨
    x.isFinite = true ∧ x.isZero = false ∧ x.negative = false ∧ x.neighbourhood.Around n

theorem equals_self (finite : x.isFinite = true) : x.equals x = true :=
  equals_iff.2 ⟨isNaN_of_isFinite finite, isNaN_of_isFinite finite, .inl rfl⟩

theorem equals_ofNat_iff (finite : (ofNat n).isFinite = true) :
    x.equals (ofNat n) = true ↔ x.StandsFor n := by
  constructor
  · intro equal
    rcases Nat.eq_zero_or_pos n with rfl | positive
    · have zero : FitsPlaces 0 := ⟨0, 0, Nat.zero_le _, rfl⟩
      exact .inl ((equals_iff_value? (value?_ofNat zero finite)).1 equal)
    · obtain ⟨-, -, rfl | ⟨-, zero⟩⟩ := equals_iff.1 equal
      · exact .inr
          ⟨finite, isZero_ofNat finite positive, negative_ofRatio _ _ _, around_ofNat finite⟩
      · rw [isZero_ofNat finite positive] at zero
        cases zero
  · rintro (known | ⟨-, -, sign, around⟩)
    · exact (equals_iff_value? (value?_ofNat (fitsPlaces_of_value? known) finite)).2 known
    · obtain ⟨exponent, fraction⟩ := eq_of_around around (around_ofNat finite)
      have same : x = ofNat n :=
        eq_of_fields (sign.trans (negative_ofRatio false n 1).symm) exponent fraction
      rw [same]
      exact equals_self finite

end ShapeCheck.Binary64
