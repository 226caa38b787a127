import ShapeCheck.Proofs.Binary64.Exact

/-!
# The datum nearest to a number

Signs aside, the finite data have places in the order of their sizes, and the size at a place is a
step more than the one before it (`sizeAt_succ`). The neighbourhood of a datum reaches half way to the
places around its own (`neighbourhood_low_eq`, `neighbourhood_high_eq`), so it holds just the numbers
that are rounded to the datum (`roundsTo_of_around`, `around_of_roundsTo`).
-/

namespace ShapeCheck.Binary64

variable {x y : Binary64} {k j : Nat} {q p : ℚ}

/-! ## Rounding -/

def overflow : ℚ :=
  2 ^ 1024 - 2 ^ 970

/-- Whether a number is rounded to a finite datum: no other is nearer, and of two that are equally near
the one with the even fraction is taken. -/
def RoundsTo (q : ℚ) (x : Binary64) : Prop :=
  |q| < overflow ∧ ∃ v, x.value? = some v ∧ ∀ y w, value? y = some w →
    |q - v| ≤ |q - w| ∧ (|q - v| = |q - w| → v = w ∨ x.fraction.val % 2 = 0)

/-! ## Places -/

def place (x : Binary64) : Nat :=
  x.exponent.val * 4503599627370496 + x.fraction.val

def placeCount : Nat :=
  2047 * 4503599627370496

def stepAt (k : Nat) : Nat :=
  2 ^ (k / 4503599627370496 - 1)

def sizeAt (k : Nat) : Nat :=
  if k < 4503599627370496 then k else (4503599627370496 + k % 4503599627370496) * stepAt k

theorem place_div (x : Binary64) : x.place / 4503599627370496 = x.exponent.val := by
  have := x.fraction.isLt
  rw [place]
  omega

theorem place_mod (x : Binary64) : x.place % 4503599627370496 = x.fraction.val := by
  have := x.fraction.isLt
  rw [place]
  omega

theorem stepAt_place (x : Binary64) : stepAt x.place = x.step := by
  rw [stepAt, place_div, step]

theorem sizeAt_place (x : Binary64) : sizeAt x.place = x.magnitude := by
  have := x.fraction.isLt
  rw [sizeAt, magnitude_eq, significand, place_mod, stepAt_place]
  by_cases least : x.exponent.val = 0
  · have own : x.place = x.fraction.val := by rw [place, least, Nat.zero_mul, Nat.zero_add]
    have unit : x.step = 1 := by rw [step, least, Nat.zero_sub, Nat.pow_zero]
    rw [if_pos least, own, if_pos x.fraction.isLt, unit, Nat.mul_one]
  · rw [if_neg least, if_neg]
    rw [place]
    omega

theorem place_lt (finite : x.isFinite = true) : x.place < placeCount := by
  have := x.fraction.isLt
  have := x.exponent.isLt
  rw [isFinite, bne_iff_ne, ne_eq, Fin.ext_iff] at finite
  have other : x.exponent.val ≠ 2047 := finite
  rw [place, placeCount]
  omega

theorem exists_place (below : k < placeCount) (negative : Bool) :
    ∃ y : Binary64, y.isFinite = true ∧ y.negative = negative ∧ y.place = k := by
  rw [placeCount] at below
  refine ⟨⟨negative, ⟨k / 4503599627370496, by omega⟩, ⟨k % 4503599627370496, by omega⟩⟩, ?_, rfl, ?_⟩
  · rw [isFinite, bne_iff_ne, ne_eq, Fin.ext_iff]
    change ¬k / 4503599627370496 = 2047
    omega
  · exact Nat.div_add_mod' k 4503599627370496

theorem stepAt_pos (k : Nat) : 0 < stepAt k :=
  Nat.two_pow_pos _

theorem sizeAt_succ (k : Nat) : sizeAt (k + 1) = sizeAt k + stepAt k := by
  rcases Nat.lt_trichotomy (k + 1) 4503599627370496 with small | border | large
  · rw [sizeAt, if_pos small, sizeAt, if_pos (by omega), stepAt, Nat.div_eq_of_lt (by omega)]
    rfl
  · rw [sizeAt, if_neg (by omega), border, sizeAt, if_pos (by omega), stepAt, stepAt,
      Nat.div_eq_of_lt (by omega : k < 4503599627370496)]
    omega
  · rw [sizeAt, if_neg (by omega), sizeAt, if_neg (by omega), stepAt, stepAt]
    by_cases carry : (k + 1) % 4503599627370496 = 0
    · -- The last place of an exponent: the step is doubled after it.
      have last : k % 4503599627370496 = 4503599627370495 := by omega
      obtain ⟨e, exponent⟩ : ∃ e, k / 4503599627370496 - 1 = e := ⟨_, rfl⟩
      have next : (k + 1) / 4503599627370496 - 1 = e + 1 := by omega
      rw [carry, last, exponent, next, Nat.pow_succ]
      omega
    · have same : (k + 1) / 4503599627370496 = k / 4503599627370496 := by omega
      have next : (k + 1) % 4503599627370496 = k % 4503599627370496 + 1 := by omega
      rw [same, next]
      ring

theorem sizeAt_strictMono : StrictMono sizeAt :=
  strictMono_nat_of_lt_succ fun k => by
    rw [sizeAt_succ]
    exact Nat.lt_add_of_pos_right (stepAt_pos k)

theorem sizeAt_pos (k : Nat) : (0 : ℚ) < sizeAt (k + 1) :=
  Nat.cast_pos.2 (Nat.zero_lt_of_lt (sizeAt_strictMono (Nat.lt_succ_self k)))

/-! ## The ends of a neighbourhood -/

theorem fraction_even_iff (x : Binary64) : x.fraction.val % 2 = 0 ↔ x.place % 2 = 0 := by
  rw [place]
  omega

theorem neighbourhood_high_eq (x : Binary64) :
    x.neighbourhood.high = 2 * (sizeAt x.place + sizeAt (x.place + 1)) := by
  rw [neighbourhood_high, sizeAt_succ, sizeAt_place, stepAt_place, magnitude_eq]
  ring

theorem neighbourhood_low_eq (same : x.place = k + 1) :
    x.neighbourhood.low = 2 * (sizeAt k + sizeAt (k + 1)) := by
  have after := sizeAt_succ k
  have size := sizeAt_place x
  have exponent := place_div x
  have fraction := place_mod x
  rw [same, magnitude_eq] at size
  rw [same] at exponent fraction
  rw [neighbourhood_low, Nat.sub_mul, Nat.sub_mul, Nat.mul_assoc, ← size, Nat.one_mul]
  split
  · rename_i least
    have double : x.step = 2 * stepAt k := by
      obtain ⟨e, next⟩ : ∃ e, x.exponent.val = e + 2 := ⟨x.exponent.val - 2, by omega⟩
      have before : k / 4503599627370496 - 1 = e := by omega
      rw [step, stepAt, before, next, ← Nat.pow_succ']
      rfl
    omega
  · have unchanged : x.step = stepAt k := by
      rw [step, stepAt]
      congr 1
      omega
    omega

theorem cast_mul_leastPerOne (q : ℚ) : q * unitsPerOne = 4 * (q * leastPerOne) := by
  rw [unitsPerOne_eq]
  ring

/-- Whether a number is between the middles to the places around one. The middles belong to even places. -/
structure BetweenMiddles (k : Nat) (p : ℚ) : Prop where
  low : (sizeAt k + sizeAt (k + 1) : ℚ) ≤ 2 * p
  high : 2 * p ≤ sizeAt (k + 1) + sizeAt (k + 2)
  odd : (k + 1) % 2 ≠ 0 →
    (sizeAt k + sizeAt (k + 1) : ℚ) < 2 * p ∧ 2 * p < sizeAt (k + 1) + sizeAt (k + 2)

theorem around_iff (same : x.place = k + 1) :
    x.neighbourhood.Around q ↔ BetweenMiddles k (q * leastPerOne) := by
  have closed := (closed_iff x).trans x.fraction_even_iff
  rw [same] at closed
  rw [Neighbourhood.Around, neighbourhood_low_eq same, neighbourhood_high_eq, same,
    cast_mul_leastPerOne]
  push_cast
  by_cases even : (k + 1) % 2 = 0
  · rw [if_pos (closed.2 even)]
    constructor
    · rintro ⟨low, high⟩
      exact ⟨by linarith, by linarith, fun odd => absurd even odd⟩
    · rintro ⟨low, high, -⟩
      constructor <;> linarith
  · rw [if_neg (mt closed.1 even)]
    constructor
    · rintro ⟨low, high⟩
      exact ⟨by linarith, by linarith, fun _ => ⟨by linarith, by linarith⟩⟩
    · rintro ⟨-, -, strict⟩
      obtain ⟨low, high⟩ := strict even
      constructor <;> linarith

/-! ## The nearest place -/

theorem abs_sub_le_iff_of_lt {a b p : ℚ} (less : a < b) :
    (|p - b| ≤ |p - a| ↔ a + b ≤ 2 * p) ∧ (|p - a| ≤ |p - b| ↔ 2 * p ≤ a + b) := by
  have width : 0 < b - a := sub_pos.2 less
  have difference : (p - a) ^ 2 - (p - b) ^ 2 = (b - a) * (2 * p - (a + b)) := by ring
  rw [← sq_le_sq, ← sq_le_sq]
  constructor
  · rw [← sub_nonneg, difference, mul_nonneg_iff_of_pos_left width, sub_nonneg]
  · have reverse : (p - b) ^ 2 - (p - a) ^ 2 = (b - a) * (a + b - 2 * p) := by ring
    rw [← sub_nonneg, reverse, mul_nonneg_iff_of_pos_left width, sub_nonneg]

theorem BetweenMiddles.even (between : BetweenMiddles k p)
    (middle : 2 * p = sizeAt k + sizeAt (k + 1) ∨ 2 * p = sizeAt (k + 1) + sizeAt (k + 2)) :
    (k + 1) % 2 = 0 := by
  by_contra odd
  obtain ⟨low, high⟩ := between.odd odd
  rcases middle with middle | middle
  · exact absurd middle low.ne'
  · exact absurd middle high.ne

theorem BetweenMiddles.nearest (between : BetweenMiddles k p) (j : Nat) :
    |p - sizeAt (k + 1)| ≤ |p - sizeAt j| ∧
      (|p - sizeAt (k + 1)| = |p - sizeAt j| → j = k + 1 ∨ (k + 1) % 2 = 0) := by
  have low := between.low
  have high := between.high
  rcases Nat.lt_trichotomy j (k + 1) with before | rfl | after
  · have less : (sizeAt j : ℚ) < sizeAt (k + 1) := Nat.cast_lt.2 (sizeAt_strictMono before)
    have least : (sizeAt j : ℚ) ≤ sizeAt k :=
      Nat.cast_le.2 (sizeAt_strictMono.monotone (Nat.le_of_lt_succ before))
    obtain ⟨upper, lower⟩ := abs_sub_le_iff_of_lt (p := p) less
    refine ⟨upper.2 (by linarith), fun tie => .inr (between.even (.inl ?_))⟩
    have := lower.1 tie.ge
    linarith
  · exact ⟨le_rfl, fun _ => .inl rfl⟩
  · have less : (sizeAt (k + 1) : ℚ) < sizeAt j := Nat.cast_lt.2 (sizeAt_strictMono after)
    have most : (sizeAt (k + 2) : ℚ) ≤ sizeAt j :=
      Nat.cast_le.2 (sizeAt_strictMono.monotone after)
    obtain ⟨upper, lower⟩ := abs_sub_le_iff_of_lt (p := p) less
    refine ⟨lower.2 (by linarith), fun tie => .inr (between.even (.inr ?_))⟩
    have := upper.1 tie.ge
    linarith

theorem two_mul_overflow :
    2 * (overflow * leastPerOne) = sizeAt (placeCount - 1) + sizeAt placeCount := by
  have last : sizeAt (placeCount - 1) = (4503599627370496 + 4503599627370495) * 2 ^ 2045 := by
    have exponent : (placeCount - 1) / 4503599627370496 - 1 = 2045 := by decide
    have fraction : (placeCount - 1) % 4503599627370496 = 4503599627370495 := by decide
    rw [sizeAt, if_neg (by decide), fraction, stepAt, exponent]
  have next : sizeAt placeCount = (4503599627370496 + 0) * 2 ^ 2046 := by
    have exponent : placeCount / 4503599627370496 - 1 = 2046 := by decide
    have fraction : placeCount % 4503599627370496 = 0 := by decide
    rw [sizeAt, if_neg (by decide), fraction, stepAt, exponent]
  have whole : (2 : ℚ) ^ 1024 * 2 ^ 1074 = 2 ^ 53 * 2 ^ 2045 :=
    (pow_add 2 1024 1074).symm.trans (pow_add 2 53 2045)
  have half : (2 : ℚ) * (2 ^ 970 * 2 ^ 1074) = 2 ^ 2045 :=
    (congrArg (2 * ·) (pow_add 2 970 1074).symm).trans (pow_succ' 2 2044).symm
  have double : (2 : ℚ) ^ 2046 = 2 * 2 ^ 2045 := pow_succ' 2 2045
  have small : (2 : ℚ) ^ 53 = 9007199254740992 := by norm_num
  rw [last, next, Nat.cast_mul, Nat.cast_mul, cast_two_pow, cast_two_pow, double, overflow, sub_mul,
    mul_sub]
  unfold leastPerOne
  rw [cast_two_pow, half, whole, small]
  generalize (2 : ℚ) ^ 2045 = unit
  push_cast
  ring

theorem BetweenMiddles.lt_overflow (between : BetweenMiddles k p) (below : k + 1 < placeCount) :
    p < overflow * leastPerOne := by
  have most : 2 * p < sizeAt (placeCount - 1) + sizeAt placeCount := by
    by_cases last : k + 2 = placeCount
    · have odd : (k + 1) % 2 ≠ 0 := by
        rw [placeCount] at last
        omega
      rw [← last]
      exact (between.odd odd).2
    · have less : (sizeAt (k + 1) : ℚ) < sizeAt (placeCount - 1) :=
        Nat.cast_lt.2 (sizeAt_strictMono (by omega))
      have less' : (sizeAt (k + 2) : ℚ) < sizeAt placeCount :=
        Nat.cast_lt.2 (sizeAt_strictMono (by omega))
      have high := between.high
      linarith
  rw [← two_mul_overflow] at most
  linarith

/-- The neighbours of a place suffice to tell where a number is that is nearest to it. -/
theorem betweenMiddles_of_nearest (below : k + 1 < placeCount) (bounded : p < overflow * leastPerOne)
    (nearest : ∀ j < placeCount, j ≠ k + 1 → |p - sizeAt (k + 1)| ≤ |p - sizeAt j| ∧
      ((k + 1) % 2 ≠ 0 → |p - sizeAt (k + 1)| < |p - sizeAt j|)) : BetweenMiddles k p := by
  have low : (sizeAt k + sizeAt (k + 1) : ℚ) ≤ 2 * p ∧
      ((k + 1) % 2 ≠ 0 → (sizeAt k + sizeAt (k + 1) : ℚ) < 2 * p) := by
    have less : (sizeAt k : ℚ) < sizeAt (k + 1) :=
      Nat.cast_lt.2 (sizeAt_strictMono (Nat.lt_succ_self k))
    obtain ⟨upper, lower⟩ := abs_sub_le_iff_of_lt (p := p) less
    obtain ⟨le, lt⟩ := nearest k (Nat.lt_of_succ_lt below) (Nat.ne_of_lt (Nat.lt_succ_self k))
    exact ⟨upper.1 le, fun odd => not_le.1 (mt lower.2 (not_le.2 (lt odd)))⟩
  have high : 2 * p ≤ sizeAt (k + 1) + sizeAt (k + 2) ∧
      ((k + 1) % 2 ≠ 0 → 2 * p < sizeAt (k + 1) + sizeAt (k + 2)) := by
    by_cases last : k + 2 = placeCount
    · -- There is no datum at the next place, but from the middle on numbers are infinite.
      have most : 2 * p < sizeAt (k + 1) + sizeAt (k + 2) := by
        have whole := two_mul_overflow
        rw [← last, show k + 2 - 1 = k + 1 from rfl] at whole
        linarith
      exact ⟨most.le, fun _ => most⟩
    · have less : (sizeAt (k + 1) : ℚ) < sizeAt (k + 2) :=
        Nat.cast_lt.2 (sizeAt_strictMono (Nat.lt_succ_self (k + 1)))
      obtain ⟨upper, lower⟩ := abs_sub_le_iff_of_lt (p := p) less
      obtain ⟨le, lt⟩ := nearest (k + 2) (by omega) (by omega)
      exact ⟨lower.1 le, fun odd => not_le.1 (mt upper.2 (not_le.2 (lt odd)))⟩
  exact ⟨low.1, high.1, fun odd => ⟨low.2 odd, high.2 odd⟩⟩

/-! ## Rounding to a datum -/

def sign (x : Binary64) : ℚ :=
  if x.negative then -1 else 1

theorem value?_of_isFinite (finite : x.isFinite = true) :
    x.value? = some (x.sign * (sizeAt x.place / leastPerOne)) := by
  rw [value?, if_pos finite, sizeAt_place, sign]

theorem abs_sign (x : Binary64) : |x.sign| = 1 := by
  rw [sign]
  split <;> norm_num

theorem sign_mul_self (x : Binary64) : x.sign * x.sign = 1 := by
  rw [sign]
  split <;> norm_num

theorem sign_ne_zero (x : Binary64) : x.sign ≠ 0 := by
  rw [sign]
  split <;> norm_num

theorem sign_mul_eq_or (x y : Binary64) : x.sign * y.sign = 1 ∨ x.sign * y.sign = -1 := by
  rw [sign, sign]
  cases x.negative <;> cases y.negative <;> simp

theorem sign_eq_of_mul_eq_one (alike : x.sign * y.sign = 1) : y.sign = x.sign := by
  rw [← mul_right_inj' x.sign_ne_zero, alike, sign_mul_self]

theorem dist_mul_leastPerOne (x y : Binary64) (q : ℚ) :
    |q - y.sign * (sizeAt y.place / leastPerOne)| * leastPerOne =
      |x.sign * q * leastPerOne - x.sign * y.sign * sizeAt y.place| := by
  have positive := cast_leastPerOne_pos
  have scaled : x.sign * ((q - y.sign * (sizeAt y.place / leastPerOne)) * leastPerOne) =
      x.sign * q * leastPerOne - x.sign * y.sign * sizeAt y.place := by
    rw [sub_mul, mul_assoc y.sign, div_mul_cancel₀ _ positive.ne']
    ring
  rw [← scaled, abs_mul x.sign, abs_sign, one_mul, abs_mul, abs_of_pos positive]

theorem exists_place_eq_succ (given : x.isZero = false) : ∃ k, x.place = k + 1 := by
  refine Nat.exists_eq_succ_of_ne_zero fun none => ?_
  have zero := sizeAt_place x
  rw [none, eq_comm, show sizeAt 0 = 0 from rfl, magnitude_eq_zero_iff, given] at zero
  cases zero

theorem abs_sub_le_of_sign {u t p : ℚ} (unit : u = 1 ∨ u = -1) (size : 0 ≤ t) (positive : 0 ≤ p) :
    |p - t| ≤ |p - u * t| := by
  rcases unit with rfl | rfl
  · rw [one_mul]
  · rw [neg_one_mul, sub_neg_eq_add, abs_of_nonneg (add_nonneg positive size)]
    exact abs_le.2 ⟨by linarith, by linarith⟩

theorem sign_eq_one_of_abs_sub_eq {u t p : ℚ} (unit : u = 1 ∨ u = -1) (size : 0 < t) (positive : 0 < p)
    (same : |p - t| = |p - u * t|) : u = 1 := by
  refine unit.resolve_right ?_
  rintro rfl
  rw [neg_one_mul, sub_neg_eq_add, abs_of_pos (add_pos positive size)] at same
  have less : |p - t| < p + t := abs_lt.2 ⟨by linarith, by linarith⟩
  exact absurd same less.ne

theorem roundsTo_of_around (finite : x.isFinite = true) (given : x.isZero = false)
    (around : x.neighbourhood.Around (x.sign * q)) : RoundsTo q x := by
  obtain ⟨k, same⟩ := exists_place_eq_succ given
  have unit := cast_leastPerOne_pos
  have positive : 0 < x.sign * q := pos_of_around given around
  have below := place_lt finite
  rw [around_iff same] at around
  rw [same] at below
  refine ⟨?_, _, value?_of_isFinite finite, fun y w known => ?_⟩
  · have size : |q| = x.sign * q := by
      rw [← abs_of_pos positive, abs_mul, abs_sign, one_mul]
    rw [size]
    exact lt_of_mul_lt_mul_right (around.lt_overflow below) unit.le
  · rw [value?_of_isFinite (isFinite_of_value? known), Option.some.injEq] at known
    subst known
    obtain ⟨nearest, tie⟩ := around.nearest y.place
    have own := dist_mul_leastPerOne x x q
    have other := dist_mul_leastPerOne x y q
    have units := sign_mul_eq_or x y
    have above : 0 < x.sign * q * leastPerOne := mul_pos positive unit
    have behind := abs_sub_le_of_sign units (Nat.cast_nonneg (sizeAt y.place)) above.le
    rw [sign_mul_self, one_mul, same] at own
    rw [same]
    refine ⟨le_of_mul_le_mul_right ?_ unit, fun equal => ?_⟩
    · rw [own, other]
      exact nearest.trans behind
    · rw [← mul_left_inj' unit.ne', own, other] at equal
      -- A datum that is as near is the one beside it, or lies on the other side of zero.
      rcases tie (le_antisymm nearest (equal ▸ behind)) with own' | even
      · left
        rw [own'] at equal ⊢
        have alike := sign_eq_one_of_abs_sub_eq units (sizeAt_pos k) above equal
        rw [sign_eq_of_mul_eq_one alike]
      · right
        rwa [fraction_even_iff, same]

theorem around_of_roundsTo (finite : x.isFinite = true) (given : x.isZero = false)
    (rounds : RoundsTo q x) : x.neighbourhood.Around (x.sign * q) := by
  obtain ⟨bounded, v, known, nearest⟩ := rounds
  obtain ⟨k, same⟩ := exists_place_eq_succ given
  have unit := cast_leastPerOne_pos
  have below := place_lt finite
  rw [same] at below
  rw [value?_of_isFinite finite, Option.some.injEq] at known
  subst known
  have own := dist_mul_leastPerOne x x q
  rw [sign_mul_self, one_mul, same] at own
  have reach : x.sign * q * leastPerOne < overflow * leastPerOne := by
    have signed := le_abs_self (x.sign * q)
    rw [abs_mul, abs_sign, one_mul] at signed
    exact mul_lt_mul_of_pos_right (signed.trans_lt bounded) unit
  rw [around_iff same]
  -- Only data of the same sign are needed: those of the other one are farther away.
  refine betweenMiddles_of_nearest below reach fun j inside other => ?_
  obtain ⟨y, finite', signs, place⟩ := exists_place inside x.negative
  have alike : y.sign = x.sign := by rw [sign, sign, signs]
  obtain ⟨le, tie⟩ := nearest y _ (value?_of_isFinite finite')
  have dist := dist_mul_leastPerOne x y q
  rw [alike, sign_mul_self, one_mul, place] at dist
  rw [alike, place, same] at le tie
  rw [← own, ← dist]
  have near := mul_le_mul_of_nonneg_right le unit.le
  refine ⟨near, fun odd => lt_of_le_of_ne near fun equal => ?_⟩
  rw [mul_left_inj' unit.ne'] at equal
  rcases tie equal with twice | even
  · rw [mul_right_inj' x.sign_ne_zero, div_left_inj' unit.ne', Nat.cast_inj] at twice
    exact other (sizeAt_strictMono.injective twice).symm
  · rw [fraction_even_iff, same] at even
    exact odd even

end ShapeCheck.Binary64
