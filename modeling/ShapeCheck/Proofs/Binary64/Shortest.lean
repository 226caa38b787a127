import Mathlib.Algebra.Order.Field.Rat
import Mathlib.Tactic.Linarith
import Mathlib.Tactic.Positivity
import Mathlib.Tactic.Ring
import ShapeCheck.Binary64.Shortest

namespace ShapeCheck

def ShortDecimal.value (d : ShortDecimal) : ℚ :=
  d.significand * (10 : ℚ) ^ d.exponent

namespace Binary64

def unitsPerOne : ℚ :=
  2 ^ 1076

theorem unitsPerOne_pos : 0 < unitsPerOne :=
  pow_pos two_pos 1076

theorem cast_shiftLeft (n k : Nat) : ((n <<< k : Nat) : ℚ) = n * 2 ^ k := by
  rw [Nat.shiftLeft_eq, Nat.cast_mul, Nat.cast_pow, Nat.cast_ofNat]

theorem cast_shiftLeft_units (n : Nat) : ((n <<< 1076 : Nat) : ℚ) = n * unitsPerOne :=
  cast_shiftLeft n 1076

theorem cast_pow_ten (k : Nat) : ((Nat.pow 10 k : Nat) : ℚ) = 10 ^ k := by
  rw [Nat.pow_eq, Nat.cast_pow, Nat.cast_ofNat]

namespace Neighbourhood

def Around (i : Neighbourhood) (v : ℚ) : Prop :=
  if i.closed then (i.low : ℚ) ≤ v * unitsPerOne ∧ v * unitsPerOne ≤ i.high
  else (i.low : ℚ) < v * unitsPerOne ∧ v * unitsPerOne < i.high

theorem Around.bounds {i : Neighbourhood} {v : ℚ} (around : i.Around v) :
    (i.low : ℚ) ≤ v * unitsPerOne ∧ v * unitsPerOne ≤ i.high := by
  rw [Around] at around
  split at around
  · exact around
  · exact ⟨around.1.le, around.2.le⟩

theorem exists_scale (exponent : Int) :
    ∃ c : ℚ, 0 < c ∧ ∀ n m : Nat,
      ((onScale exponent n m).1 : ℚ) = n * (10 : ℚ) ^ exponent * unitsPerOne * c ∧
      ((onScale exponent n m).2 : ℚ) = m * c := by
  by_cases whole : 0 ≤ exponent
  · obtain ⟨k, rfl⟩ := Int.eq_ofNat_of_zero_le whole
    refine ⟨1, one_pos, fun n m => ?_⟩
    rw [onScale, if_pos whole, cast_shiftLeft_units, Int.toNat_natCast, Nat.cast_mul, cast_pow_ten,
      zpow_natCast, mul_one, mul_one]
    exact ⟨rfl, rfl⟩
  · obtain ⟨k, same⟩ := Int.eq_ofNat_of_zero_le (a := -exponent) (by omega)
    have power : exponent = -(k : Int) := by omega
    have positive : (0 : ℚ) < 10 ^ k := by positivity
    refine ⟨10 ^ k, positive, fun n m => ?_⟩
    rw [onScale, if_neg whole, cast_shiftLeft_units, same, Int.toNat_natCast, Nat.cast_mul,
      cast_pow_ten, power, zpow_neg, zpow_natCast]
    refine ⟨?_, rfl⟩
    calc (n : ℚ) * unitsPerOne
        = n * ((10 ^ k)⁻¹ * 10 ^ k) * unitsPerOne := by
          rw [inv_mul_cancel₀ (ne_of_gt positive), mul_one]
      _ = n * (10 ^ k)⁻¹ * unitsPerOne * 10 ^ k := by ring

theorem contains_iff {i : Neighbourhood} {exponent : Int} {n : Nat} :
    i.contains exponent n = true ↔ i.Around (n * (10 : ℚ) ^ exponent) := by
  obtain ⟨c, positive, scaled⟩ := exists_scale exponent
  have le (m : Nat) : (onScale exponent n m).2 ≤ (onScale exponent n m).1 ↔
      (m : ℚ) ≤ n * (10 : ℚ) ^ exponent * unitsPerOne := by
    rw [← Nat.cast_le (α := ℚ), (scaled n m).1, (scaled n m).2, mul_le_mul_iff_of_pos_right positive]
  have ge (m : Nat) : (onScale exponent n m).1 ≤ (onScale exponent n m).2 ↔
      n * (10 : ℚ) ^ exponent * unitsPerOne ≤ (m : ℚ) := by
    rw [← Nat.cast_le (α := ℚ), (scaled n m).1, (scaled n m).2, mul_le_mul_iff_of_pos_right positive]
  rw [contains, Around]
  cases i.closed with
  | true => simp only [if_true, Bool.and_eq_true, decide_eq_true_iff, le, ge]
  | false =>
      simp only [Bool.false_eq_true, if_false, Bool.and_eq_true, decide_eq_true_iff, ← not_le, le, ge]

variable {i : Neighbourhood}

theorem around_of_eq_value (below : i.low < i.value) (above : i.value < i.high) {v : ℚ}
    (same : v * unitsPerOne = i.value) : i.Around v := by
  have low : (i.low : ℚ) < i.value := Nat.cast_lt.2 below
  have high : (i.value : ℚ) < i.high := Nat.cast_lt.2 above
  rw [Around, same]
  split
  · exact ⟨le_of_lt low, le_of_lt high⟩
  · exact ⟨low, high⟩

theorem floorOn_eq {exponent : Int} (fine : exponent ≤ -1076) :
    (i.floorOn exponent : ℚ) * (10 : ℚ) ^ exponent * unitsPerOne = i.value := by
  obtain ⟨c, positive, scaled⟩ := exists_scale exponent
  obtain ⟨one, value⟩ := scaled 1 i.value
  have divides : (onScale exponent 1 i.value).1 ∣ (onScale exponent 1 i.value).2 := by
    rw [onScale, if_neg (by omega)]
    refine Dvd.dvd.mul_left ?_ _
    rw [Nat.shiftLeft_eq, Nat.one_mul, Nat.pow_eq]
    exact (pow_dvd_pow_of_dvd (by decide) 1076).trans (pow_dvd_pow 10 (by omega))
  have quotient : i.floorOn exponent * (onScale exponent 1 i.value).1 =
      (onScale exponent 1 i.value).2 := Nat.div_mul_cancel divides
  have cast := congrArg (Nat.cast (R := ℚ)) quotient
  rw [Nat.cast_mul, one, value, Nat.cast_one, one_mul, ← mul_assoc, ← mul_assoc] at cast
  exact mul_right_cancel₀ (ne_of_gt positive) cast

theorem contains_of_onGrid? {tie : TieRule} {exponent : Int} {n : Nat}
    (found : i.onGrid? tie exponent = some n) : i.contains exponent n = true := by
  unfold onGrid? at found
  generalize i.floorOn exponent = below at found
  cases lower : i.contains exponent below <;> cases upper : i.contains exponent (below + 1) <;>
    simp only [lower, upper] at found
  · exact (Option.some_ne_none n found.symm).elim
  · exact Option.some.inj found ▸ upper
  · exact Option.some.inj found ▸ lower
  · generalize onScale exponent (2 * below + 1) (2 * i.value) = scale at found
    rcases lt_trichotomy scale.2 scale.1 with lt | eq | gt
    · rw [if_pos lt] at found
      exact Option.some.inj found ▸ lower
    · rw [if_neg (not_lt_of_ge (le_of_eq eq.symm)), if_neg (not_lt_of_ge (le_of_eq eq))] at found
      cases tie with
      | up => exact Option.some.inj found ▸ upper
      | even =>
          rw [← Option.some.inj found]
          rcases Nat.mod_two_eq_zero_or_one below with even | odd
          · rw [even]
            exact lower
          · rw [odd]
            exact upper
    · rw [if_neg (not_lt_of_gt gt), if_pos gt] at found
      exact Option.some.inj found ▸ upper

theorem around_search (below : i.low < i.value) (above : i.value < i.high) (tie : TieRule)
    {exponent : Int} {finer : Nat} (fine : exponent - finer ≤ -1076) :
    i.Around (i.search tie exponent finer).value := by
  induction finer generalizing exponent with
  | zero =>
      refine around_of_eq_value below above ?_
      rw [search, ShortDecimal.value]
      exact floorOn_eq (by omega)
  | succ finer ih =>
      rw [search]
      split
      · rename_i n found
        exact contains_iff.1 (contains_of_onGrid? found)
      · exact ih (by omega)

end Neighbourhood

variable {x y : Binary64}

def step (x : Binary64) : Nat :=
  2 ^ (x.exponent.val - 1)

def significand (x : Binary64) : Nat :=
  if x.exponent.val = 0 then x.fraction.val else 4503599627370496 + x.fraction.val

theorem step_pos (x : Binary64) : 0 < x.step :=
  Nat.pow_pos (by decide)

theorem magnitude_eq (x : Binary64) : x.magnitude = x.significand * x.step := by
  rw [magnitude, significand, step]
  split
  · rename_i least
    rw [least, Nat.zero_sub, Nat.pow_zero, Nat.mul_one]
  · exact Nat.shiftLeft_eq _ _

theorem neighbourhood_value (x : Binary64) :
    x.neighbourhood.value = 4 * x.significand * x.step := by
  rw [Nat.mul_assoc, ← magnitude_eq]
  rfl

theorem neighbourhood_high (x : Binary64) :
    x.neighbourhood.high = (4 * x.significand + 2) * x.step := by
  change x.neighbourhood.value + 2 * 1 <<< (x.exponent.val - 1) = _
  rw [neighbourhood_value, Nat.one_shiftLeft, Nat.add_mul]
  rfl

theorem neighbourhood_low (x : Binary64) :
    x.neighbourhood.low = if x.fraction.val = 0 ∧ 1 < x.exponent.val
      then (4 * x.significand - 1) * x.step else (4 * x.significand - 2) * x.step := by
  change (if _ then x.neighbourhood.value - 1 <<< (x.exponent.val - 1)
    else x.neighbourhood.value - 2 * 1 <<< (x.exponent.val - 1)) = _
  rw [neighbourhood_value, Nat.one_shiftLeft, Nat.sub_mul, Nat.sub_mul, Nat.one_mul]
  rfl

theorem closed_iff (x : Binary64) : x.neighbourhood.closed = true ↔ x.fraction.val % 2 = 0 :=
  beq_iff_eq

theorem significand_pos (given : x.isZero = false) : 0 < x.significand := by
  rw [isZero, Bool.and_eq_false_iff, beq_eq_false_iff_ne, beq_eq_false_iff_ne, Ne, Ne, Fin.ext_iff,
    Fin.ext_iff] at given
  rw [significand]
  split
  · rename_i least
    exact Nat.pos_of_ne_zero (given.resolve_left (not_not_intro least))
  · omega

theorem neighbourhood_low_pos (given : x.isZero = false) : 0 < x.neighbourhood.low := by
  have positive := significand_pos given
  rw [neighbourhood_low]
  split <;> exact Nat.mul_pos (by omega) x.step_pos

theorem neighbourhood_low_lt (given : x.isZero = false) :
    x.neighbourhood.low < x.neighbourhood.value := by
  have positive := significand_pos given
  rw [neighbourhood_low, neighbourhood_value]
  split <;> exact Nat.mul_lt_mul_of_pos_right (by omega) x.step_pos

theorem neighbourhood_value_lt (x : Binary64) : x.neighbourhood.value < x.neighbourhood.high := by
  rw [neighbourhood_value, neighbourhood_high]
  exact Nat.mul_lt_mul_of_pos_right (by omega) x.step_pos

/-- A datum that comes before another has its neighbourhood below that of the other. An end that the
two share belongs to the one with the even fraction. -/
theorem neighbourhood_high_le (before : x.exponent.val < y.exponent.val ∨
      x.exponent.val = y.exponent.val ∧ x.fraction.val < y.fraction.val) :
    x.neighbourhood.high ≤ y.neighbourhood.low ∧
      (x.neighbourhood.closed = true → y.neighbourhood.closed = true →
        x.neighbourhood.high < y.neighbourhood.low) := by
  rw [closed_iff, closed_iff, neighbourhood_high, neighbourhood_low]
  have fx := x.fraction.isLt
  have fy := y.fraction.isLt
  have positive := x.step_pos
  rcases before with before | ⟨same, before⟩
  · by_cases subnormal : y.exponent.val ≤ 1
    · -- The greatest subnormal number comes right before the least normal one.
      have least : x.step = 1 := by rw [step, Nat.sub_eq_zero_of_le (by omega), Nat.pow_zero]
      have least' : y.step = 1 := by rw [step, Nat.sub_eq_zero_of_le subnormal, Nat.pow_zero]
      rw [least, least', if_neg (by omega), significand, significand, if_pos (by omega),
        if_neg (by omega)]
      omega
    · have double : 2 * x.step ≤ y.step := by
        rw [step, step, ← Nat.pow_succ']
        exact Nat.pow_le_pow_right (by decide) (by omega)
      have above : 18014398509481983 * y.step ≤
          if y.fraction.val = 0 ∧ 1 < y.exponent.val then (4 * y.significand - 1) * y.step
            else (4 * y.significand - 2) * y.step := by
        have normal : y.significand = 4503599627370496 + y.fraction.val := if_neg (by omega)
        split <;> exact Nat.mul_le_mul_right _ (by omega)
      have below : x.significand ≤ 4503599627370496 + x.fraction.val := by
        rw [significand]
        split <;> omega
      have reach := (Nat.mul_le_mul_left 18014398509481983 double).trans above
      rw [← Nat.mul_assoc] at reach
      refine ⟨le_trans (Nat.mul_le_mul_right _ ?_) reach, fun even _ =>
        lt_of_lt_of_le (Nat.mul_lt_mul_of_pos_right ?_ positive) reach⟩ <;> omega
  · have steps : y.step = x.step := by rw [step, step, same]
    have next : x.significand + 1 ≤ y.significand := by
      rw [significand, significand, same]
      split <;> omega
    rw [if_neg (by omega), steps]
    refine ⟨Nat.mul_le_mul_right _ (by omega), fun even even' => ?_⟩
    have skip : x.significand + 2 ≤ y.significand := by
      rw [significand, significand, same] at next ⊢
      split <;> omega
    exact Nat.mul_lt_mul_of_pos_right (by omega) positive

theorem not_around_of_before {v : ℚ} (before : x.exponent.val < y.exponent.val ∨
      x.exponent.val = y.exponent.val ∧ x.fraction.val < y.fraction.val)
    (around : x.neighbourhood.Around v) : ¬ y.neighbourhood.Around v := by
  obtain ⟨le, lt⟩ := neighbourhood_high_le before
  have le : (x.neighbourhood.high : ℚ) ≤ y.neighbourhood.low := Nat.cast_le.2 le
  intro around'
  rw [Neighbourhood.Around] at around around'
  cases closed : x.neighbourhood.closed <;> cases closed' : y.neighbourhood.closed <;>
    simp only [closed, closed', Bool.false_eq_true, if_false, if_true] at around around'
  · exact absurd (around.2.trans_le (le.trans (le_of_lt around'.1))) (lt_irrefl _)
  · exact absurd (around.2.trans_le (le.trans around'.1)) (lt_irrefl _)
  · exact absurd ((around.2.trans le).trans_lt around'.1) (lt_irrefl _)
  · have lt : (x.neighbourhood.high : ℚ) < y.neighbourhood.low := Nat.cast_lt.2 (lt closed closed')
    exact absurd (around.2.trans_lt (lt.trans_le around'.1)) (lt_irrefl _)

theorem eq_of_around {v : ℚ} (around : x.neighbourhood.Around v) (around' : y.neighbourhood.Around v) :
    x.exponent = y.exponent ∧ x.fraction = y.fraction := by
  rcases lt_trichotomy x.exponent.val y.exponent.val with before | same | after
  · exact absurd around' (not_around_of_before (.inl before) around)
  · rcases lt_trichotomy x.fraction.val y.fraction.val with before | same' | after
    · exact absurd around' (not_around_of_before (.inr ⟨same, before⟩) around)
    · exact ⟨Fin.ext same, Fin.ext same'⟩
    · exact absurd around (not_around_of_before (.inr ⟨same.symm, after⟩) around')
  · exact absurd around (not_around_of_before (.inl after) around')

theorem around_shortest (given : x.isZero = false) (tie : TieRule) :
    x.neighbourhood.Around (x.shortest tie).value :=
  Neighbourhood.around_search (neighbourhood_low_lt given) (neighbourhood_value_lt x) tie (by omega)

theorem pos_of_around (given : x.isZero = false) {v : ℚ} (around : x.neighbourhood.Around v) :
    0 < v := by
  have low : (0 : ℚ) < x.neighbourhood.low := Nat.cast_pos.2 (neighbourhood_low_pos given)
  exact pos_of_mul_pos_left (low.trans_le around.bounds.1) (le_of_lt unitsPerOne_pos)

end Binary64
end ShapeCheck
