import ShapeCheck.Binary64.Rounding
import ShapeCheck.Proofs.Binary64.Shortest

namespace ShapeCheck

theorem roundHalfEven_near (num : Nat) {den : Nat} (positive : 0 < den) :
    2 * num ≤ (2 * roundHalfEven num den + 1) * den ∧
      2 * roundHalfEven num den * den ≤ 2 * num + den ∧
      (roundHalfEven num den % 2 = 1 → 2 * num < (2 * roundHalfEven num den + 1) * den ∧
        2 * roundHalfEven num den * den < 2 * num + den) := by
  have parts := Nat.div_add_mod num den
  have rest := Nat.mod_lt num positive
  rw [roundHalfEven]
  generalize num / den = quotient at parts ⊢
  generalize num % den = remainder at parts rest ⊢
  have next (n : Nat) : (2 * n + 1) * den = 2 * (den * n) + den := by ring
  have twice (n : Nat) : 2 * n * den = 2 * (den * n) := by ring
  have carry : den * (quotient + 1) = den * quotient + den := Nat.mul_succ den quotient
  simp only [next, twice]
  rcases lt_trichotomy (2 * remainder) den with less | half | more
  · rw [if_pos less]
    omega
  · rw [if_neg (by omega), if_neg (by omega)]
    rcases Nat.mod_two_eq_zero_or_one quotient with even | odd
    · rw [even, Nat.add_zero]
      omega
    · rw [odd, carry]
      omega
  · rw [if_neg (by omega), if_pos more, carry]
    omega

theorem roundHalfEven_mul {den : Nat} (positive : 0 < den) (n : Nat) :
    roundHalfEven (n * den) den = n := by
  rw [roundHalfEven, Nat.mul_mod_left, Nat.mul_div_cancel _ positive, Nat.mul_zero, if_pos positive]

namespace Binary64

/-! ## Significands -/

theorem roundToPrecision_near (precision num : Nat) {den : Nat} (positive : 0 < den) :
    let rounded := roundToPrecision precision num den
    2 * num ≤ (2 * rounded.1 + 1) * (den * 2 ^ rounded.2) ∧
      2 * rounded.1 * (den * 2 ^ rounded.2) ≤ 2 * num + den * 2 ^ rounded.2 ∧
      (rounded.1 % 2 = 1 → 2 * num < (2 * rounded.1 + 1) * (den * 2 ^ rounded.2) ∧
        2 * rounded.1 * (den * 2 ^ rounded.2) < 2 * num + den * 2 ^ rounded.2) := by
  rw [roundToPrecision, Nat.shiftLeft_eq]
  exact roundHalfEven_near num (Nat.mul_pos positive (Nat.two_pow_pos _))

theorem roundToPrecision_bounds (num : Nat) {den : Nat} (positive : 0 < den) :
    (roundToPrecision 53 num den).1 ≤ 2 ^ 53 ∧
      ((roundToPrecision 53 num den).2 = 0 ∨ 2 ^ 52 ≤ (roundToPrecision 53 num den).1 ∧
        2 ^ 52 * (den * 2 ^ (roundToPrecision 53 num den).2) ≤ num) := by
  rw [roundToPrecision]
  dsimp only
  rw [Nat.shiftLeft_eq]
  generalize same : Nat.log2 (num / den) - (53 - 1) = shift
  have scaled : 0 < den * 2 ^ shift := Nat.mul_pos positive (Nat.two_pow_pos shift)
  obtain ⟨above, below, -⟩ := roundHalfEven_near num scaled
  have upper : num < 2 ^ 53 * (den * 2 ^ shift) := by
    have places : num / den < 2 ^ (53 + shift) :=
      Nat.lt_log2_self.trans_le (Nat.pow_le_pow_right (by decide) (by omega))
    rw [Nat.div_lt_iff_lt_mul positive, Nat.pow_add, Nat.mul_assoc] at places
    rwa [Nat.mul_comm den]
  constructor
  -- A greater significand would be farther from the ratio than half a unit.
  · by_contra large
    have more : 2 * (2 ^ 53 + 1) * (den * 2 ^ shift) ≤
        2 * roundHalfEven num (den * 2 ^ shift) * (den * 2 ^ shift) :=
      Nat.mul_le_mul_right _ (Nat.mul_le_mul_left 2 (by omega))
    omega
  · by_cases whole : shift = 0
    · exact .inl whole
    · have given : num / den ≠ 0 := by
        rintro none
        rw [none] at same
        exact whole same.symm
      have lower : 2 ^ 52 * (den * 2 ^ shift) ≤ num := by
        have places : 2 ^ (52 + shift) ≤ num / den := by
          have size : Nat.log2 (num / den) = 52 + shift := by omega
          rw [← size]
          exact Nat.log2_self_le given
        rw [Nat.le_div_iff_mul_le positive, Nat.pow_add, Nat.mul_assoc] at places
        rwa [Nat.mul_comm den]
      refine .inr ⟨?_, lower⟩
      by_contra small
      have less : (2 * roundHalfEven num (den * 2 ^ shift) + 1) * (den * 2 ^ shift) ≤
          (2 * (2 ^ 52 - 1) + 1) * (den * 2 ^ shift) :=
        Nat.mul_le_mul_right _ (by omega)
      omega

/-! ## Data of significands -/

structure Encodable (significand shift : Nat) : Prop where
  le : significand ≤ 2 ^ 53
  fine : shift = 0 ∨ 2 ^ 52 ≤ significand

variable {negative : Bool} {significand shift : Nat}

theorem isFinite_encode (below : shift + 2 < 2047) :
    (encode negative significand shift).isFinite = true := by
  have normal {exponent : Nat} (within : exponent < 2047) :
      (ofFields negative exponent significand).isFinite = true := by
    rw [isFinite, bne_iff_ne, ne_eq, Fin.ext_iff]
    change ¬exponent % 2048 = 2047
    omega
  rw [encode]
  split
  · rfl
  · dsimp only
    by_cases carried : significand = 1 <<< 53
    · rw [if_pos carried, if_pos below]
      exact normal below
    · rw [if_neg carried, if_pos (Nat.lt_of_succ_lt below)]
      exact normal (Nat.lt_of_succ_lt below)

theorem negative_encode : (encode negative significand shift).negative = negative := by
  rw [encode]
  split
  · rfl
  · dsimp only
    split <;> split <;> rfl

/-- The fields of a datum: of a subnormal one, of a normal one, and of one that the significand
carried into. -/
theorem encode_cases (given : Encodable significand shift)
    (finite : (encode negative significand shift).isFinite = true) :
    ∃ exponent fraction, encode negative significand shift = ⟨negative, exponent, fraction⟩ ∧
      (exponent.val = 0 ∧ shift = 0 ∧ fraction.val = significand ∨
        exponent.val = shift + 1 ∧ significand = 2 ^ 52 + fraction.val ∨
        exponent.val = shift + 2 ∧ fraction.val = 0 ∧ significand = 2 ^ 53) := by
  obtain ⟨le, fine⟩ := given
  rw [encode] at finite ⊢
  dsimp only [Nat.reduceShiftLeft] at finite ⊢
  by_cases subnormal : significand < 4503599627370496
  · rw [if_pos subnormal]
    exact ⟨_, _, rfl, .inl ⟨rfl, by omega, Nat.mod_eq_of_lt subnormal⟩⟩
  · rw [if_neg subnormal] at finite ⊢
    -- The carry makes the next power of two, with the next exponent and no fraction.
    by_cases carried : significand = 9007199254740992
    · rw [if_pos carried] at finite ⊢
      split at finite
      · rename_i within
        rw [if_pos within]
        refine ⟨_, _, rfl, .inr (.inr ⟨Nat.mod_eq_of_lt (by omega), ?_, by omega⟩)⟩
        rw [carried]
      · cases finite
    · rw [if_neg carried] at finite ⊢
      split at finite
      · rename_i within
        rw [if_pos within]
        refine ⟨_, _, rfl, .inr (.inl ⟨Nat.mod_eq_of_lt (by omega), ?_⟩)⟩
        change significand = 2 ^ 52 + significand % 4503599627370496
        omega
      · cases finite

/-- The significand and the step that a datum is encoded from are its own, unless the significand
carried: there the step is doubled. -/
theorem significand_encode (given : Encodable significand shift)
    (finite : (encode negative significand shift).isFinite = true) :
    let x := encode negative significand shift
    x.significand = significand ∧ x.step = 2 ^ shift ∧ x.fraction.val % 2 = significand % 2 ∧
        (x.fraction.val = 0 ∧ 1 < x.exponent.val → significand = 2 ^ 52 ∧ 0 < shift) ∨
      x.significand = 2 ^ 52 ∧ x.step = 2 * 2 ^ shift ∧ significand = 2 ^ 53 ∧
        x.fraction.val = 0 ∧ 1 < x.exponent.val := by
  obtain ⟨exponent, fraction, same, fields⟩ := encode_cases given finite
  dsimp only
  rw [same, Binary64.significand, step]
  dsimp only
  rcases fields with ⟨least, rfl, rfl⟩ | ⟨normal, rfl⟩ | ⟨carried, none, rfl⟩
  · rw [if_pos least, least]
    exact .inl ⟨rfl, rfl, rfl, by omega⟩
  · rw [if_neg (by omega), normal, Nat.add_sub_cancel]
    exact .inl ⟨rfl, rfl, by omega, by omega⟩
  · have double : 2 ^ (shift + 2 - 1) = 2 * 2 ^ shift := Nat.pow_succ'
    rw [if_neg (by omega), carried, none]
    exact .inr ⟨rfl, double, rfl, rfl, by omega⟩

theorem magnitude_encode (given : Encodable significand shift)
    (finite : (encode negative significand shift).isFinite = true) :
    (encode negative significand shift).magnitude = significand * 2 ^ shift := by
  rw [magnitude_eq]
  rcases significand_encode given finite with ⟨own, step, -⟩ | ⟨own, step, carried, -⟩
  · rw [own, step]
  · rw [own, step, carried]
    omega

/-- The neighbourhood of a datum in terms of its significand. Below a power of two it reaches less
far, but at least to that power. -/
theorem neighbourhood_encode (given : Encodable significand shift)
    (finite : (encode negative significand shift).isFinite = true) :
    let i := (encode negative significand shift).neighbourhood
    (i.low ≤ (4 * significand - 2) * 2 ^ shift ∨
        significand = 2 ^ 52 ∧ 0 < shift ∧ i.low ≤ 4 * 2 ^ 52 * 2 ^ shift) ∧
      (4 * significand + 2) * 2 ^ shift ≤ i.high ∧ (i.closed = true ↔ significand % 2 = 0) := by
  dsimp only
  rw [neighbourhood_low, neighbourhood_high, closed_iff]
  rcases significand_encode given finite with
    ⟨own, step, parity, power⟩ | ⟨own, step, carried, none, above⟩
  · rw [own, step, parity]
    refine ⟨?_, le_rfl, Iff.rfl⟩
    split
    · rename_i least
      obtain ⟨same, positive⟩ := power least
      exact .inr ⟨same, positive, Nat.mul_le_mul_right _ (by omega)⟩
    · exact .inl le_rfl
  · rw [own, step, none, if_pos ⟨rfl, above⟩, carried]
    refine ⟨.inl ?_, ?_, by decide⟩ <;> omega

/-! ## Ratios -/

@[irreducible]
def leastPerOne : Nat :=
  2 ^ 1074

theorem leastPerOne_pos : 0 < leastPerOne := by
  unfold leastPerOne
  positivity

theorem shiftLeft_least (n : Nat) : n <<< 1074 = n * leastPerOne := by
  unfold leastPerOne
  generalize 1074 = k
  exact Nat.shiftLeft_eq n k

theorem cast_two_pow (k : Nat) : ((2 ^ k : Nat) : ℚ) = 2 ^ k := by
  rw [Nat.cast_pow, Nat.cast_ofNat]

theorem unitsPerOne_eq : unitsPerOne = 4 * leastPerOne := by
  have four : (2 : ℚ) ^ 2 = 4 := by norm_num
  have split : unitsPerOne = 2 ^ 2 * 2 ^ 1074 := pow_add 2 2 1074
  unfold leastPerOne
  exact split.trans (congrArg₂ _ four (cast_two_pow 1074).symm)

theorem Neighbourhood.around_div {i : Neighbourhood} {num den : Nat} (positive : 0 < den)
    (low : i.low * den ≤ 4 * (num * leastPerOne)) (high : 4 * (num * leastPerOne) ≤ i.high * den)
    (strict : i.closed = false →
      i.low * den < 4 * (num * leastPerOne) ∧ 4 * (num * leastPerOne) < i.high * den) :
    i.Around (num / den) := by
  have positive : (0 : ℚ) < den := Nat.cast_pos.2 positive
  have scaled : (num : ℚ) / den * unitsPerOne = (4 * (num * leastPerOne) : Nat) / den := by
    rw [unitsPerOne_eq]
    push_cast
    ring
  rw [Around, scaled, le_div_iff₀ positive, div_le_iff₀ positive, lt_div_iff₀ positive,
    div_lt_iff₀ positive, ← Nat.cast_mul, ← Nat.cast_mul, Nat.cast_le, Nat.cast_le, Nat.cast_lt,
    Nat.cast_lt]
  split
  · exact ⟨low, high⟩
  · rename_i opened
    exact strict (Bool.eq_false_iff.2 opened)

theorem ofRatio_eq (negative : Bool) (num den : Nat) :
    ofRatio negative num den = encode negative (roundToPrecision 53 (num * leastPerOne) den).1
      (roundToPrecision 53 (num * leastPerOne) den).2 := by
  rw [ofRatio, shiftLeft_least]

theorem negative_ofRatio (negative : Bool) (num den : Nat) :
    (ofRatio negative num den).negative = negative := by
  rw [ofRatio_eq, negative_encode]

variable {num den : Nat}

theorem encodable_roundToPrecision (positive : 0 < den) :
    Encodable (roundToPrecision 53 num den).1 (roundToPrecision 53 num den).2 := by
  obtain ⟨le, fine⟩ := roundToPrecision_bounds num positive
  exact ⟨le, fine.imp_right And.left⟩

theorem magnitude_ofRatio (positive : 0 < den)
    (finite : (ofRatio negative num den).isFinite = true) :
    (ofRatio negative num den).magnitude = (roundToPrecision 53 (num * leastPerOne) den).1 *
      2 ^ (roundToPrecision 53 (num * leastPerOne) den).2 := by
  rw [ofRatio_eq] at finite ⊢
  exact magnitude_encode (encodable_roundToPrecision positive) finite

/-- A ratio that is near enough to a significand lies in the neighbourhood of its datum. Half way to
another significand only an even one counts as near. -/
theorem encode_reaches (given : Encodable significand shift)
    (fine : shift = 0 ∨ 2 ^ 52 ≤ significand ∧ 2 ^ 52 * (den * 2 ^ shift) ≤ num)
    (finite : (encode negative significand shift).isFinite = true)
    (above : 2 * num ≤ (2 * significand + 1) * (den * 2 ^ shift))
    (below : 2 * significand * (den * 2 ^ shift) ≤ 2 * num + den * 2 ^ shift)
    (odd : significand % 2 = 1 → 2 * num < (2 * significand + 1) * (den * 2 ^ shift) ∧
      2 * significand * (den * 2 ^ shift) < 2 * num + den * 2 ^ shift) :
    let i := (encode negative significand shift).neighbourhood
    i.low * den ≤ 4 * num ∧ 4 * num ≤ i.high * den ∧
      (i.closed = false → i.low * den < 4 * num ∧ 4 * num < i.high * den) := by
  obtain ⟨low, high, closed⟩ := neighbourhood_encode given finite
  dsimp only
  generalize (encode negative significand shift).neighbourhood = i at *
  have regroup (n : Nat) : n * 2 ^ shift * den = n * (den * 2 ^ shift) := by ring
  have upper : 2 * ((2 * significand + 1) * (den * 2 ^ shift)) ≤ i.high * den := by
    have reach := Nat.mul_le_mul_right den high
    have double : (4 * significand + 2) * (den * 2 ^ shift) =
        2 * ((2 * significand + 1) * (den * 2 ^ shift)) := by ring
    rwa [regroup, double] at reach
  -- Below a power of two the neighbourhood is shorter, but the ratio is not below that power.
  have lower : i.low * den ≤
        2 * (2 * significand * (den * 2 ^ shift)) - 2 * (den * 2 ^ shift) ∨
      significand = 2 ^ 52 ∧ i.low * den ≤ 4 * num := by
    rcases low with low | ⟨power, positive, low⟩
    · have reach := Nat.mul_le_mul_right den low
      have double : 4 * significand * (den * 2 ^ shift) =
          2 * (2 * significand * (den * 2 ^ shift)) := by ring
      rw [regroup, Nat.sub_mul, double] at reach
      exact .inl reach
    · have reach := Nat.mul_le_mul_right den low
      have fine := (fine.resolve_left (by omega)).2
      rw [regroup, Nat.mul_assoc] at reach
      exact .inr ⟨power, reach.trans (Nat.mul_le_mul_left 4 fine)⟩
  refine ⟨by omega, by omega, fun opened => ?_⟩
  have uneven : significand % 2 = 1 := by
    rw [← Nat.mod_two_ne_zero, ne_eq, ← closed, opened]
    exact Bool.false_ne_true
  have strict := odd uneven
  have whole : 2 * 1 * (den * 2 ^ shift) ≤ 2 * significand * (den * 2 ^ shift) :=
    Nat.mul_le_mul_right _ (by omega)
  omega

theorem around_ofRatio (positive : 0 < den) (finite : (ofRatio negative num den).isFinite = true) :
    (ofRatio negative num den).neighbourhood.Around (num / den) := by
  obtain ⟨-, fine⟩ := roundToPrecision_bounds (num * leastPerOne) positive
  obtain ⟨above, below, odd⟩ := roundToPrecision_near 53 (num * leastPerOne) positive
  rw [ofRatio_eq] at finite ⊢
  obtain ⟨low, high, strict⟩ :=
    encode_reaches (encodable_roundToPrecision positive) fine finite above below odd
  exact Neighbourhood.around_div positive low high strict

end Binary64
end ShapeCheck
