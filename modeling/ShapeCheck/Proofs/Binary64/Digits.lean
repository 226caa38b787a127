import ShapeCheck.Proofs.Binary64.Nearest

namespace ShapeCheck.Binary64

/-! ## The search -/

namespace Neighbourhood

variable {i : Neighbourhood} {u v w : ℚ}

theorem Around.between (around : i.Around u) (around' : i.Around w) (below : u ≤ v) (above : v ≤ w) :
    i.Around v := by
  have low := mul_le_mul_of_nonneg_right below unitsPerOne_pos.le
  have high := mul_le_mul_of_nonneg_right above unitsPerOne_pos.le
  rw [Around] at *
  split
  · rename_i closed
    rw [if_pos closed] at around around'
    exact ⟨around.1.trans low, high.trans around'.2⟩
  · rename_i opened
    rw [if_neg opened] at around around'
    exact ⟨around.1.trans_le low, high.trans_lt around'.2⟩

theorem floorOn_le (i : Neighbourhood) (exponent : Int) :
    (i.floorOn exponent : ℚ) * (10 : ℚ) ^ exponent * unitsPerOne ≤ i.value ∧
      (i.value : ℚ) < (i.floorOn exponent + 1 : Nat) * (10 : ℚ) ^ exponent * unitsPerOne := by
  obtain ⟨c, positive, scaled⟩ := exists_scale exponent
  obtain ⟨one, value⟩ := scaled 1 i.value
  rw [Nat.cast_one, one_mul] at one
  have point : 0 < (onScale exponent 1 i.value).1 := by
    rw [← Nat.cast_pos (α := ℚ), one]
    exact mul_pos (mul_pos (zpow_pos (by norm_num) _) unitsPerOne_pos) positive
  have least : i.floorOn exponent * (onScale exponent 1 i.value).1 ≤ (onScale exponent 1 i.value).2 :=
    Nat.div_mul_le_self _ _
  have most : (onScale exponent 1 i.value).2 <
      (onScale exponent 1 i.value).1 * (i.floorOn exponent + 1) := Nat.lt_mul_div_succ _ point
  rw [← Nat.cast_le (α := ℚ), Nat.cast_mul, one, value, ← mul_assoc,
    mul_le_mul_iff_of_pos_right positive, ← mul_assoc] at least
  rw [← Nat.cast_lt (α := ℚ), mul_comm, Nat.cast_mul, one, value, ← mul_assoc,
    mul_lt_mul_iff_of_pos_right positive, ← mul_assoc] at most
  exact ⟨least, most⟩

theorem not_around_of_onGrid?_eq_none (below : i.low < i.value) (above : i.value < i.high)
    {tie : TieRule} {exponent : Int} (missing : i.onGrid? tie exponent = none) (n : Nat) :
    ¬i.Around (n * (10 : ℚ) ^ exponent) := by
  have outside : i.contains exponent (i.floorOn exponent) = false ∧
      i.contains exponent (i.floorOn exponent + 1) = false := by
    unfold onGrid? at missing
    generalize i.floorOn exponent = floor at missing ⊢
    cases lower : i.contains exponent floor <;> cases upper : i.contains exponent (floor + 1) <;>
      simp only [lower, upper] at missing
    · exact ⟨rfl, rfl⟩
    · cases missing
    · cases missing
    · split at missing
      · cases missing
      · split at missing
        · cases missing
        · cases tie <;> cases missing
  obtain ⟨least, most⟩ := i.floorOn_le exponent
  have power : (0 : ℚ) ≤ 10 ^ exponent := zpow_nonneg (by norm_num) exponent
  have own : (i.value : ℚ) / unitsPerOne * unitsPerOne = i.value :=
    div_mul_cancel₀ _ unitsPerOne_pos.ne'
  have value : i.Around (i.value / unitsPerOne) := around_of_eq_value below above own
  -- A point farther off would bring in the one of these two that is on its side.
  intro around
  rcases Nat.lt_or_ge (i.floorOn exponent) n with after | before
  · have point : i.Around ((i.floorOn exponent + 1 : Nat) * (10 : ℚ) ^ exponent) := by
      refine value.between around ?_ (mul_le_mul_of_nonneg_right (Nat.cast_le.2 after) power)
      rw [div_le_iff₀ unitsPerOne_pos]
      exact most.le
    rw [← contains_iff, outside.2] at point
    cases point
  · have point : i.Around (i.floorOn exponent * (10 : ℚ) ^ exponent) := by
      refine around.between value (mul_le_mul_of_nonneg_right (Nat.cast_le.2 before) power) ?_
      rw [le_div_iff₀ unitsPerOne_pos]
      exact least
    rw [← contains_iff, outside.1] at point
    cases point

theorem le_exponent_search (below : i.low < i.value) (above : i.value < i.high) (tie : TieRule)
    {exponent e : Int} (finer : Nat) {n : Nat} (coarse : e ≤ exponent)
    (around : i.Around (n * (10 : ℚ) ^ e)) : e ≤ (i.search tie exponent finer).exponent := by
  -- The search does not pass over the grid of `e`.
  induction finer generalizing exponent with
  | zero => exact coarse
  | succ finer ih =>
      rw [search]
      split
      · exact coarse
      · rename_i missing
        have other : e ≠ exponent := by
          rintro rfl
          exact not_around_of_onGrid?_eq_none below above missing n around
        exact ih (by omega)

end Neighbourhood

/-! ## Numbers of digits -/

theorem lt_pow_decimalLength (n : Nat) : n < 10 ^ decimalLength n :=
  (Nat.length_toDigits_le_iff (by decide) Nat.length_toDigits_pos).1 (Nat.le_refl _)

theorem decimalLength_pos (n : Nat) : 0 < decimalLength n :=
  Nat.length_toDigits_pos

theorem pow_le_of_lt_decimalLength {n k : Nat} (positive : 0 < n) (less : k < decimalLength n) :
    10 ^ k ≤ n := by
  rcases Nat.eq_zero_or_pos k with rfl | given
  · exact positive
  · by_contra small
    have short := (Nat.length_toDigits_le_iff (by decide) given).2 (Nat.lt_of_not_le small)
    exact absurd less (Nat.not_lt.2 short)

/-! ## The coarsest power -/

variable {x : Binary64} {u : ℚ}

theorem le_of_around (given : x.isZero = false) (around : x.neighbourhood.Around u) :
    u ≤ 2 * (x.magnitude / leastPerOne) := by
  have reach := around.bounds.2
  have double : x.neighbourhood.high ≤ 4 * (2 * x.magnitude) := by
    have positive := significand_pos given
    rw [neighbourhood_high, magnitude_eq, ← Nat.mul_assoc, ← Nat.mul_assoc]
    exact Nat.mul_le_mul_right _ (by omega)
  have double : (x.neighbourhood.high : ℚ) ≤ 4 * (2 * x.magnitude) := by exact_mod_cast double
  rw [cast_mul_leastPerOne] at reach
  rw [← mul_div_assoc, le_div_iff₀ cast_leastPerOne_pos]
  linarith

theorem shiftRight_least (n : Nat) : n >>> 1074 = n / leastPerOne := by
  unfold leastPerOne
  generalize 1074 = k
  exact Nat.shiftRight_eq_div_pow n k

theorem lt_topExponent (given : x.isZero = false) :
    (x.magnitude / leastPerOne : ℚ) < 10 ^ x.topExponent := by
  have unit := cast_leastPerOne_pos
  rw [div_lt_iff₀ unit, topExponent, shiftRight_least, shiftLeft_least, Nat.one_mul]
  split
  · rename_i small
    have positive : 0 < x.magnitude := Nat.pos_of_ne_zero fun none => by
      rw [magnitude_eq_zero_iff, given] at none
      cases none
    have less : x.magnitude < leastPerOne := by
      rw [Nat.div_eq_zero_iff] at small
      exact small.resolve_left (Nat.ne_of_gt leastPerOne_pos)
    -- Of a datum below one the digits of its inverse tell the exponent.
    have inverse : 0 < leastPerOne / x.magnitude := Nat.div_pos less.le positive
    obtain ⟨l, length⟩ : ∃ l, decimalLength (leastPerOne / x.magnitude) = l + 1 :=
      ⟨_, (Nat.succ_pred_eq_of_pos (decimalLength_pos _)).symm⟩
    have power : 10 ^ l ≤ leastPerOne / x.magnitude :=
      pow_le_of_lt_decimalLength inverse (by omega)
    rw [Nat.le_div_iff_mul_le positive, ← Nat.cast_le (α := ℚ)] at power
    have exponent : ((2 : Nat) : Int) - (l + 1 : Nat) = 1 - (l : Int) := by omega
    have ten : (0 : ℚ) < 10 ^ l := by positivity
    push_cast at power
    rw [length, exponent, zpow_sub₀ (by norm_num), zpow_natCast, zpow_one, div_mul_eq_mul_div,
      lt_div_iff₀ ten]
    linarith
  · have most := lt_pow_decimalLength (x.magnitude / leastPerOne)
    rw [Nat.div_lt_iff_lt_mul leastPerOne_pos, ← Nat.cast_lt (α := ℚ)] at most
    push_cast at most
    rwa [zpow_natCast]

theorem le_topExponent (given : x.isZero = false) {n : Nat} {e : Int}
    (around : x.neighbourhood.Around (n * (10 : ℚ) ^ e)) : e ≤ x.topExponent := by
  have positive := pos_of_around given around
  have ten : (0 : ℚ) < 10 ^ e := zpow_pos (by norm_num) e
  have whole : (1 : ℚ) ≤ n := by
    have natural : 0 < n := Nat.pos_of_ne_zero fun none => by
      rw [none, Nat.cast_zero, zero_mul] at positive
      exact absurd positive (lt_irrefl 0)
    exact_mod_cast natural
  have below : (10 : ℚ) ^ e < 10 ^ (x.topExponent + 1) := by
    have most := le_of_around given around
    have top := lt_topExponent given
    rw [zpow_add_one₀ (by norm_num)]
    nlinarith
  rw [zpow_lt_zpow_iff_right₀ (by norm_num)] at below
  omega

theorem le_exponent_shortest (given : x.isZero = false) (tie : TieRule) {n : Nat} {e : Int}
    (around : x.neighbourhood.Around (n * (10 : ℚ) ^ e)) : e ≤ (x.shortest tie).exponent :=
  Neighbourhood.le_exponent_search (neighbourhood_low_lt given) (neighbourhood_value_lt x) tie _
    (le_topExponent given around) around

/-! ## Fewer digits -/

/-- Whether a number is a decimal of at most so many digits, up to zeros before or behind them. -/
def IsDecimal (digits : Nat) (q : ℚ) : Prop :=
  ∃ m e : Int, m.natAbs < 10 ^ digits ∧ q = m * (10 : ℚ) ^ e

theorem significand_shortest_pos (given : x.isZero = false) (tie : TieRule) :
    0 < (x.shortest tie).significand := by
  refine Nat.pos_of_ne_zero fun none => ?_
  have positive := pos_of_around given (around_shortest given tie)
  rw [ShortDecimal.value, none, Nat.cast_zero, zero_mul] at positive
  exact absurd positive (lt_irrefl 0)

theorem decimalLength_shortest_le (finite : x.isFinite = true) (given : x.isZero = false)
    (tie : TieRule) {digits : Nat} {q : ℚ} (decimal : IsDecimal digits q) (rounds : RoundsTo q x) :
    decimalLength (x.shortest tie).significand ≤ digits := by
  obtain ⟨m, e, few, rfl⟩ := decimal
  have around := around_of_roundsTo finite given rounds
  have ten (k : Int) : (0 : ℚ) < 10 ^ k := zpow_pos (by norm_num) k
  have size : x.sign * (m * (10 : ℚ) ^ e) = m.natAbs * (10 : ℚ) ^ e := by
    rw [← abs_of_pos (pos_of_around given around), abs_mul, abs_sign, one_mul, abs_mul,
      abs_of_pos (ten e), Nat.cast_natAbs, Int.cast_abs]
  rw [size] at around
  by_contra more
  have coarse := le_exponent_shortest given tie around
  have shortest := around_shortest given tie
  have least := pow_le_of_lt_decimalLength (significand_shortest_pos given tie) (not_le.1 more)
  rw [ShortDecimal.value] at shortest
  obtain ⟨d, same⟩ : ∃ d, x.shortest tie = d := ⟨_, rfl⟩
  rw [same] at coarse shortest least
  have power : (10 : ℚ) ^ ((digits : Int) + d.exponent) = 10 ^ digits * 10 ^ d.exponent := by
    rw [zpow_add₀ (by norm_num), zpow_natCast]
  -- Between a decimal of fewer digits and the shortest decimal is a power of ten, which is on a coarser
  -- grid than the shortest.
  have between : x.neighbourhood.Around ((1 : Nat) * (10 : ℚ) ^ ((digits : Int) + d.exponent)) := by
    rw [Nat.cast_one, one_mul, power]
    refine around.between shortest ?_ ?_
    · have low : (m.natAbs : ℚ) ≤ 10 ^ digits := by exact_mod_cast few.le
      exact mul_le_mul low (zpow_le_zpow_right₀ (by norm_num) coarse) (ten e).le (by positivity)
    · have high : (10 : ℚ) ^ digits ≤ d.significand := by exact_mod_cast least
      exact mul_le_mul_of_nonneg_right high (ten d.exponent).le
  have none : digits = 0 := by
    have coarsest := le_exponent_shortest given tie between
    rw [same] at coarsest
    omega
  have zero : m.natAbs = 0 := by
    rw [none, Nat.pow_zero] at few
    omega
  have positive := pos_of_around given around
  rw [zero, Nat.cast_zero, zero_mul] at positive
  exact absurd positive (lt_irrefl 0)

theorem exponent_shortest_nonneg (given : x.isZero = false) (tie : TieRule) {n : Nat}
    (own : (x.magnitude / leastPerOne : ℚ) = n) : 0 ≤ (x.shortest tie).exponent := by
  refine le_exponent_shortest given tie (n := n) ?_
  rw [zpow_zero, mul_one, ← own]
  exact around_magnitude given

/-! ## The order of shortest decimals -/

variable {y : Binary64}

theorem lt_of_place_lt {v w : ℚ} (before : x.place < y.place) (around : x.neighbourhood.Around v)
    (around' : y.neighbourhood.Around w) : v < w := by
  have fields : x.exponent.val < y.exponent.val ∨
      x.exponent.val = y.exponent.val ∧ x.fraction.val < y.fraction.val := by
    rw [place, place] at before
    omega
  obtain ⟨le, -⟩ := neighbourhood_high_le fields
  have le : (x.neighbourhood.high : ℚ) ≤ y.neighbourhood.low := Nat.cast_le.2 le
  have reach : v * unitsPerOne ≤ w * unitsPerOne :=
    around.bounds.2.trans (le.trans around'.bounds.1)
  refine lt_of_le_of_ne (le_of_mul_le_mul_right reach unitsPerOne_pos) ?_
  rintro rfl
  exact not_around_of_before fields around around'

theorem shortest_eq (exponents : x.exponent = y.exponent) (fractions : x.fraction = y.fraction)
    (tie : TieRule) : x.shortest tie = y.shortest tie := by
  cases x
  cases y
  cases exponents
  cases fractions
  rfl

theorem shortest_lt_iff (given : x.isZero = false) (given' : y.isZero = false) (tie : TieRule) :
    (x.shortest tie).value < (y.shortest tie).value ↔ x.magnitude < y.magnitude := by
  have around := around_shortest given tie
  have around' := around_shortest given' tie
  rw [← sizeAt_place, ← sizeAt_place, sizeAt_strictMono.lt_iff_lt]
  rcases Nat.lt_trichotomy x.place y.place with before | same | after
  · exact iff_of_true (lt_of_place_lt before around around') before
  · have exponent : x.exponent = y.exponent := Fin.ext (by rw [← place_div, ← place_div, same])
    have fraction : x.fraction = y.fraction := Fin.ext (by rw [← place_mod, ← place_mod, same])
    rw [shortest_eq exponent fraction]
    exact iff_of_false (lt_irrefl _) (Nat.not_lt.2 same.ge)
  · exact iff_of_false (lt_of_place_lt after around' around).le.not_gt (Nat.not_lt.2 after.le)

end ShapeCheck.Binary64
