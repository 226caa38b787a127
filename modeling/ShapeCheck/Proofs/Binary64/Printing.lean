import ShapeCheck.Proofs.Binary64.Digits
import ShapeCheck.Proofs.Binary64.Text

namespace ShapeCheck

/-! ## The powers of ten around a decimal -/

namespace ShortDecimal
open Binary64

variable {d : ShortDecimal}

theorem value_lt_zpow_iff (positive : 0 < d.significand) {k : Int} :
    d.value < (10 : ℚ) ^ k ↔ d.leadingExponent < k := by
  obtain ⟨l, length⟩ : ∃ l, decimalLength d.significand = l + 1 :=
    ⟨_, (Nat.succ_pred_eq_of_pos (decimalLength_pos _)).symm⟩
  have leading : d.leadingExponent = d.exponent + (l + 1 : Nat) - 1 := by
    rw [← length]
    rfl
  have ten : (0 : ℚ) < 10 ^ d.exponent := zpow_pos (by norm_num) _
  have split (n : Nat) : (10 : ℚ) ^ ((n : Int) + d.exponent) = 10 ^ n * 10 ^ d.exponent := by
    rw [zpow_add₀ (by norm_num), zpow_natCast]
  constructor
  · intro less
    by_contra above
    have least : 10 ^ l ≤ d.significand := pow_le_of_lt_decimalLength positive (by omega)
    have least : (10 : ℚ) ^ l ≤ d.significand := by exact_mod_cast least
    have reach : (10 : ℚ) ^ k ≤ 10 ^ ((l : Int) + d.exponent) :=
      zpow_le_zpow_right₀ (by norm_num) (by omega)
    rw [split] at reach
    exact absurd less (reach.trans (mul_le_mul_of_nonneg_right least ten.le)).not_gt
  · intro below
    have most := lt_pow_decimalLength d.significand
    have most : (d.significand : ℚ) < 10 ^ (l + 1) := by
      rw [← length]
      exact_mod_cast most
    have reach : (10 : ℚ) ^ (((l + 1 : Nat) : Int) + d.exponent) ≤ 10 ^ k :=
      zpow_le_zpow_right₀ (by norm_num) (by omega)
    rw [split] at reach
    exact (mul_lt_mul_of_pos_right most ten).trans_le reach

theorem toDigits_mul_pow {n : Nat} (positive : 0 < n) (k : Nat) :
    Nat.toDigits 10 (n * 10 ^ k) = Nat.toDigits 10 n ++ List.replicate k '0' := by
  induction k with
  | zero => simp
  | succ k ih =>
      have next : n * 10 ^ (k + 1) = 10 * (n * 10 ^ k) + 0 := by ring
      rw [next, ← Nat.toDigits_append_toDigits (by decide) (Nat.mul_pos positive (by positivity))
        (by decide), ih, List.append_assoc, List.replicate_succ']
      rfl

theorem exists_positional_eq (positive : 0 < d.significand) (whole : 0 ≤ d.exponent) :
    ∃ m : Nat, d.value = m ∧ d.positional "" = m.repr := by
  obtain ⟨k, shift⟩ := Int.eq_ofNat_of_zero_le whole
  refine ⟨d.significand * 10 ^ k, ?_, ?_⟩
  · rw [value, shift, zpow_natCast]
    push_cast
    rfl
  · rw [positional, if_pos whole, shift, Int.toNat_natCast, ← toDigits_mul_pow positive,
      String.append_empty]
    rfl

end ShortDecimal

namespace Binary64
open Numeral

variable {x y : Binary64} {v w : ℚ}

/-! ## Data and their shortest decimals -/

theorem isZero_of_value? (known : x.value? = some v) (given : v ≠ 0) : x.isZero = false := by
  rw [← Bool.not_eq_true]
  intro zero
  rw [value?_of_isZero zero, Option.some.injEq] at known
  exact given known.symm

theorem eq_sign_mul_abs (known : x.value? = some v) : v = x.sign * |v| := by
  have size := abs_of_value? known
  rw [value?, if_pos (isFinite_of_value? known), Option.some.injEq] at known
  rw [size, ← known, sign]

theorem negative_iff (known : x.value? = some v) (given : v ≠ 0) : x.negative = true ↔ v < 0 := by
  have size : 0 < |v| := abs_pos.2 given
  have signed := eq_sign_mul_abs known
  rw [sign] at signed
  cases negative : x.negative with
  | false =>
      rw [negative, if_neg Bool.false_ne_true, one_mul] at signed
      exact iff_of_false Bool.false_ne_true (by linarith)
  | true =>
      rw [negative, if_pos rfl, neg_one_mul] at signed
      exact iff_of_true rfl (by linarith)

theorem magnitude_lt_iff (known : x.value? = some v) (known' : y.value? = some w) :
    x.magnitude < y.magnitude ↔ |v| < |w| := by
  rw [abs_of_value? known, abs_of_value? known', div_lt_div_iff_of_pos_right cast_leastPerOne_pos,
    Nat.cast_lt]

theorem leadingExponent_lt_iff (known : x.value? = some v) (known' : y.value? = some w)
    (given : v ≠ 0) (given' : w ≠ 0) {tie : TieRule} {k : Int}
    (power : (y.shortest tie).value = 10 ^ k) :
    (x.shortest tie).leadingExponent < k ↔ |v| < |w| := by
  have zero := isZero_of_value? known given
  have zero' := isZero_of_value? known' given'
  rw [← ShortDecimal.value_lt_zpow_iff (significand_shortest_pos zero tie), ← power,
    shortest_lt_iff zero zero', magnitude_lt_iff known known']

/-! ## The bounds of the positional form -/

theorem roundsTo_ofRatio {num den : Nat} (positive : 0 < den)
    (finite : (ofRatio false num den).isFinite = true)
    (given : (ofRatio false num den).isZero = false) : RoundsTo (num / den) (ofRatio false num den) := by
  apply roundsTo_of_around finite given
  rw [sign, negative_ofRatio, if_neg Bool.false_ne_true, one_mul]
  exact around_ofRatio positive finite

def millionth : Binary64 :=
  ofRatio false 1 1000000

theorem isFinite_millionth : millionth.isFinite = true := by
  decide +kernel

theorem isZero_millionth : millionth.isZero = false := by
  decide +kernel

theorem roundsTo_millionth : RoundsTo (1 / 10 ^ 6) millionth := by
  have rounds := roundsTo_ofRatio (by decide) isFinite_millionth isZero_millionth
  norm_num at rounds ⊢
  exact rounds

theorem value?_millionth : ∃ least : ℚ, 0 < least ∧ millionth.value? = some least := by
  refine ⟨_, ?_, value?_of_isFinite isFinite_millionth⟩
  rw [sign, millionth, negative_ofRatio, if_neg Bool.false_ne_true, one_mul]
  obtain ⟨k, same⟩ := exists_place_eq_succ isZero_millionth
  rw [millionth] at same
  rw [same]
  exact div_pos (sizeAt_pos k) cast_leastPerOne_pos

theorem shortest_millionth : millionth.shortest .up = ⟨1, -6⟩ := by
  decide +kernel

theorem isFinite_ofNat_sextillion : (ofNat (10 ^ 21)).isFinite = true := by
  decide +kernel

theorem value?_ofNat_sextillion : (ofNat (10 ^ 21)).value? = some (10 ^ 21) := by
  have fits : FitsPlaces (10 ^ 21) := ⟨5 ^ 21, 21, by norm_num, by norm_num⟩
  rw [value?_ofNat fits isFinite_ofNat_sextillion]
  norm_num

theorem shortest_ofNat_sextillion : (ofNat (10 ^ 21)).shortest .up = ⟨1, 21⟩ := by
  decide +kernel

theorem leadingExponent_lt_neg_six_iff (known : x.value? = some v) (given : v ≠ 0) {least : ℚ}
    (positive : 0 < least) (nearest : millionth.value? = some least) :
    (x.shortest .up).leadingExponent < -6 ↔ |v| < least := by
  rw [leadingExponent_lt_iff known nearest given positive.ne', abs_of_pos positive]
  rw [shortest_millionth, ShortDecimal.value, Nat.cast_one, one_mul]

theorem leadingExponent_lt_iff_lt_sextillion (known : x.value? = some v) (given : v ≠ 0) :
    (x.shortest .up).leadingExponent < 21 ↔ |v| < 10 ^ 21 := by
  have positive : (0 : ℚ) < 10 ^ 21 := by norm_num
  rw [leadingExponent_lt_iff known value?_ofNat_sextillion given positive.ne', abs_of_pos positive]
  rw [shortest_ofNat_sextillion, ShortDecimal.value, Nat.cast_one, one_mul]

/-! ## Whole numbers -/

theorem shortest_ofNat_two_pow : (ofNat (2 ^ 53)).shortest .up = ⟨2 ^ 53, 0⟩ := by
  decide +kernel

theorem value_shortest_eq (known : x.value? = some v) (given : v ≠ 0) {n m : Nat} (own : |v| = n)
    (small : n ≤ 2 ^ 53) (shown : (x.shortest .up).value = m) : m = n := by
  have zero := isZero_of_value? known given
  have around := around_shortest zero .up
  rw [shown] at around
  have positive : 0 < m := Nat.cast_pos.1 (pos_of_around zero around)
  -- The order of shortest decimals is that of the data, and `2 ^ 53` is its own.
  have most : m ≤ 2 ^ 53 := by
    have finite := isFinite_ofNat (n := 2 ^ 53) (by norm_num)
    have limit : (ofNat (2 ^ 53)).value? = some ((2 ^ 53 : Nat) : ℚ) :=
      value?_ofNat ⟨1, 53, by norm_num, (Nat.one_mul _).symm⟩ finite
    have order := shortest_lt_iff (isZero_ofNat finite (by norm_num)) zero .up
    rw [magnitude_lt_iff limit known, own, shown, shortest_ofNat_two_pow, ShortDecimal.value, zpow_zero,
      mul_one, Nat.abs_cast, Nat.cast_lt, Nat.cast_lt] at order
    exact Nat.not_lt.1 (mt order.1 (Nat.not_lt.2 small))
  have finite := isFinite_ofNat (n := m) (most.trans_lt (by norm_num))
  have datum : (ofNat m).value? = some (m : ℚ) :=
    value?_ofNat ⟨m, 0, most, (Nat.mul_one m).symm⟩ finite
  obtain ⟨exponent, fraction⟩ := eq_of_around around (around_ofNat finite)
  have size : x.magnitude = (ofNat m).magnitude := by rw [magnitude, magnitude, exponent, fraction]
  have same := abs_of_value? known
  rw [own, size, ← abs_of_value? datum, Nat.abs_cast, Nat.cast_inj] at same
  exact same.symm

theorem toText_message_whole (known : x.value? = some v) (given : v ≠ 0) {i : Int} (whole : v = i)
    (below : |v| < 10 ^ 21) :
    ∃ m : Nat, x.toText .message = (if v < 0 then "-" else "") ++ m.repr ∧
      (|v| ≤ 2 ^ 53 → x.toText .message = toString i) := by
  have zero := isZero_of_value? known given
  have own : |v| = i.natAbs := by rw [whole, Nat.cast_natAbs, Int.cast_abs]
  have exponent : 0 ≤ (x.shortest .up).exponent := by
    apply exponent_shortest_nonneg zero .up (n := i.natAbs)
    rw [← abs_of_value? known, own]
  obtain ⟨m, shown, written⟩ :=
    ShortDecimal.exists_positional_eq (significand_shortest_pos zero .up) exponent
  have leading : -6 ≤ (x.shortest .up).leadingExponent ∧ (x.shortest .up).leadingExponent ≤ 20 := by
    have few := (leadingExponent_lt_iff_lt_sextillion known given).2 below
    have length : 0 < (Nat.toDigits 10 (x.shortest .up).significand).length := decimalLength_pos _
    rw [ShortDecimal.leadingExponent] at few ⊢
    omega
  have text : x.toText .message = (if v < 0 then "-" else "") ++ m.repr := by
    have finite := isFinite_of_value? known
    rw [toText_eq_of_isFinite finite, if_neg (Bool.not_eq_true _ ▸ zero), ← written]
    congr 1
    · exact if_congr (negative_iff known given) rfl rfl
    · exact if_pos leading
  refine ⟨m, text, fun small => ?_⟩
  rw [own] at small
  have same : m = i.natAbs := value_shortest_eq known given own (by exact_mod_cast small) shown
  have printed : toString i = if 0 ≤ i then i.toNat.repr else "-" ++ (-i).toNat.repr :=
    Int.repr_eq_if
  rw [text, printed, whole, same]
  by_cases negative : i < 0
  · rw [if_pos (Int.cast_lt_zero.2 negative), if_neg (Int.not_le.2 negative)]
    congr 2
    omega
  · rw [if_neg (mt Int.cast_lt_zero.1 negative), if_pos (Int.not_lt.1 negative), String.empty_append]
    congr 1
    omega

/-! ## Numbers in messages -/

theorem sign_mul_number {n : Numeral} (negative : n.isNegative = x.negative) :
    x.sign * n.number = n.value := by
  rw [number, sign, negative]
  cases x.negative <;> simp

/-- The text of a number in a message. It is a numeral that is rounded to the number, and no decimal of
fewer digits is. It has an exponent, with a sign, just when the number is at least `10 ^ 21` or less
than the datum nearest to `10 ^ (-6)`. Below `10 ^ 21` a whole number is digits only, which up to `2 ^ 53`
are its own. -/
theorem toText_message_shortest (known : x.value? = some v) (given : v ≠ 0) :
    ∃ n, Numeral.read? (x.toText .message).toList = some n ∧ RoundsTo n.number x ∧
      (∀ digits q, IsDecimal digits q → RoundsTo q x → n.significantDigits ≤ digits) ∧
      (∃ nearest least, RoundsTo (1 / 10 ^ 6) nearest ∧ nearest.value? = some least ∧
        (n.exponent.isSome ↔ 10 ^ 21 ≤ |v| ∨ |v| < least)) ∧
      (∀ power ∈ n.exponent, power.1.isSome) ∧
      ∀ i : Int, v = i → |v| < 10 ^ 21 →
        (∃ cs, cs ≠ [] ∧ (∀ c ∈ cs, c.isDigit = true) ∧
          x.toText .message = (if v < 0 then "-" else "") ++ String.ofList cs) ∧
        (|v| ≤ 2 ^ 53 → x.toText .message = toString i) := by
  have finite := isFinite_of_value? known
  have zero := isZero_of_value? known given
  have readable : NumberStyle.message.Readable := ⟨.inl rfl, .inr rfl⟩
  obtain ⟨n, sign, shows, read, negative⟩ := exists_shows_toText finite zero readable
  obtain ⟨least, positive, nearest⟩ := value?_millionth
  refine ⟨_, read, ?_, fun digits q decimal rounds => ?_,
    ⟨millionth, least, roundsTo_millionth, nearest, ?_⟩, shows.signed rfl, fun i whole below => ?_⟩
  · apply roundsTo_of_around finite zero
    rw [sign_mul_number negative]
    exact shows.value ▸ around_shortest zero .up
  · exact (shows.digits rfl).trans (decimalLength_shortest_le finite zero .up decimal rounds)
  · refine shows.exponent.trans ?_
    rw [← leadingExponent_lt_neg_six_iff known given positive nearest, ← @not_lt ℚ,
      ← leadingExponent_lt_iff_lt_sextillion known given]
    change ¬(-6 ≤ (x.shortest .up).leadingExponent ∧ (x.shortest .up).leadingExponent ≤ 20) ↔ _
    omega
  · obtain ⟨m, text, own⟩ := toText_message_whole known given whole below
    exact ⟨⟨Nat.toDigits 10 m, Nat.toDigits_ne_nil, isDigit_of_mem_toDigits, text⟩, own⟩

theorem toText_message_two_pow : (ofNat (2 ^ 53)).value? = some (2 ^ 53) ∧
    (ofNat (2 ^ 53)).toText .message = "9007199254740992" ∧
    ∀ digits q, IsDecimal digits q → RoundsTo q (ofNat (2 ^ 53)) → 16 ≤ digits := by
  have known : (ofNat (2 ^ 53)).value? = some (2 ^ 53) := by
    rw [value?_ofNat ⟨1, 53, by norm_num, (Nat.one_mul _).symm⟩ (isFinite_ofNat (by norm_num))]
    norm_num
  obtain ⟨n, read, -, shortest, -, -, whole⟩ := toText_message_shortest known (by norm_num)
  have text : (ofNat (2 ^ 53)).toText .message = "9007199254740992" :=
    (whole 9007199254740992 (by norm_num) (by norm_num)).2 (by norm_num)
  refine ⟨known, text, fun digits q decimal rounds => ?_⟩
  have count := shortest digits q decimal rounds
  rw [text] at read
  cases read
  exact count

theorem toText_message_positional_below : ∃ v n, (ofBits 0x3eb0c6f7a0b5ed8d).value? = some v ∧ v ≠ 0 ∧
    Numeral.read? ((ofBits 0x3eb0c6f7a0b5ed8d).toText .message).toList = some n ∧
    ¬(n.exponent.isSome ↔ 10 ^ 21 ≤ |v| ∨ |v| < 1 / 10 ^ 6) := by
  have same : ofBits 0x3eb0c6f7a0b5ed8d = millionth := by decide +kernel
  have text : (ofBits 0x3eb0c6f7a0b5ed8d).toText .message = "0.000001" := by decide +kernel
  have below : millionth.magnitude * 10 ^ 6 < leastPerOne := by decide +kernel
  obtain ⟨least, positive, known⟩ := value?_millionth
  rw [text, same]
  refine ⟨least, _, known, positive.ne', rfl, fun powered => ?_⟩
  have small : |least| < 1 / 10 ^ 6 := by
    rw [abs_of_value? known, div_lt_div_iff₀ cast_leastPerOne_pos (by norm_num), one_mul]
    exact_mod_cast below
  exact absurd (powered.2 (.inr small)) (by decide)

end Binary64
end ShapeCheck
