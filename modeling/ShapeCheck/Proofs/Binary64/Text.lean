import ShapeCheck.Binary64.Text
import ShapeCheck.Proofs.Binary64
import ShapeCheck.Proofs.Binary64.Shortest
import ShapeCheck.Proofs.Numeral

/-!
# Numbers read from their texts

The text of a decimal is a numeral for it in both forms (`read?_positional_whole`,
`read?_positional_point`, `read?_scientific`). So the text of a finite datum is a numeral that only
this datum goes with, and different keys have different texts (`eq_of_toText_mappingKey`).
-/

namespace ShapeCheck

/-- A style whose texts are numerals. -/
structure NumberStyle.Readable (style : NumberStyle) : Prop where
  whole : style.wholeSuffix = "" ∨ style.wholeSuffix = ".0"
  plus : style.exponentPlus = "" ∨ style.exponentPlus = "+"

/-- How a numeral that is written for a decimal shows it. -/
structure Numeral.Shows (n : Numeral) (style : NumberStyle) (d : ShortDecimal) : Prop where
  unsigned : n.sign = none
  value : n.value = d.value
  marked : style.wholeSuffix = ".0" → n.fraction.isSome ∨ n.exponent.isSome
  exponent : n.exponent.isSome ↔
    ¬(style.leastPositional ≤ d.leadingExponent ∧ d.leadingExponent ≤ style.greatestPositional)
  signed : style.exponentPlus = "+" → ∀ power ∈ n.exponent, power.1.isSome
  digits : style.wholeSuffix = "" → n.significantDigits ≤ Binary64.decimalLength d.significand

structure NumberStyle.Worded (style : NumberStyle) : Prop where
  nan : Numeral.read? style.nan.toList = none
  infinity (negative : Bool) :
    Numeral.read? ((if negative then "-" else "") ++ style.infinity).toList = none
  apart (negative : Bool) : style.nan ≠ (if negative then "-" else "") ++ style.infinity

namespace ShortDecimal
open Numeral

theorem value_eq_of_shift {d : ShortDecimal} {n : Numeral} (k : Nat)
    (significand : n.significand = d.significand * 10 ^ k) (scale : n.scale + k = d.exponent) :
    n.value = d.value := by
  rw [Numeral.value, value, significand, ← scale, zpow_add₀ (by norm_num), zpow_natCast]
  push_cast
  ring

theorem read?_positional_whole (d : ShortDecimal) (whole : 0 ≤ d.exponent) {suffix : String}
    (plain : suffix = "" ∨ suffix = ".0") :
    ∃ n, read? (d.positional suffix).toList = some n ∧ n.sign = none ∧ n.value = d.value ∧
      n.exponent = none ∧ (suffix = ".0" → n.fraction.isSome) ∧
      (suffix = "" → n.significantDigits ≤ Binary64.decimalLength d.significand) := by
  obtain ⟨k, shift⟩ := Int.eq_ofNat_of_zero_le whole
  let cs := Nat.toDigits 10 d.significand ++ List.replicate k '0'
  have digits : ∀ c ∈ cs, c.isDigit = true := fun c member =>
    (List.mem_append.1 member).elim (isDigit_of_mem_toDigits c) (isDigit_of_mem_zeros c)
  have given : cs ≠ [] := List.append_ne_nil_of_left_ne_nil Nat.toDigits_ne_nil _
  have written : (d.positional suffix).toList = cs ++ suffix.toList := by
    rw [positional, if_pos whole, shift, Int.toNat_natCast, String.toList_append, String.toList_ofList]
  have split : digitsOf cs = digitsOf (Nat.toDigits 10 d.significand) ++ List.replicate k 0 := by
    rw [← digitsOf_zeros]
    exact List.map_append
  have same : ofDigits (digitsOf cs) = d.significand * 10 ^ k := by
    rw [split, ofDigits_append, ofDigits_toDigits, ← digitsOf_zeros, ofDigits_zeros, Nat.add_zero,
      length_digitsOf, List.length_replicate]
  rw [written]
  rcases plain with rfl | rfl
  · refine ⟨_, read?_append digits given stops_nil, rfl, ?_, rfl, (absurd · (by decide)), fun _ => ?_⟩
    · refine value_eq_of_shift k ?_ (shift ▸ Int.zero_add _)
      rw [← same]
      exact congrArg ofDigits (List.append_nil _)
    · refine (significantDigits_le_of_whole (k := k) rfl ?_).trans_eq (length_digitsOf _)
      exact (List.append_nil _).trans split
  · have pointed : Stops ['.', '0'] := stops_cons rfl
    refine ⟨_, read?_append digits given pointed, rfl, ?_, rfl, fun _ => rfl, (absurd · (by decide))⟩
    refine value_eq_of_shift (k + 1) ?_ ?_
    · rw [Nat.pow_succ, ← Nat.mul_assoc, ← same]
      exact ofDigits_append (digitsOf cs) [0]
    · change (0 : Int) - 1 + (k + 1 : Nat) = d.exponent
      omega

theorem read?_positional_point (d : ShortDecimal) (suffix : String) (fractional : d.exponent < 0) :
    ∃ n, read? (d.positional suffix).toList = some n ∧ n.sign = none ∧ n.value = d.value ∧
      n.exponent = none ∧ n.fraction.isSome ∧
      n.significantDigits ≤ Binary64.decimalLength d.significand := by
  obtain ⟨places, shift⟩ := Int.eq_ofNat_of_zero_le (Int.neg_nonneg_of_nonpos (Int.le_of_lt fractional))
  let cs := List.replicate (places + 1 - (Nat.toDigits 10 d.significand).length) '0' ++
    Nat.toDigits 10 d.significand
  have digits : ∀ c ∈ cs, c.isDigit = true := fun c member =>
    (List.mem_append.1 member).elim (isDigit_of_mem_zeros c) (isDigit_of_mem_toDigits c)
  have length : places + 1 ≤ cs.length := by
    rw [List.length_append, List.length_replicate]
    omega
  let whole := cs.take (cs.length - places)
  let fraction := cs.drop (cs.length - places)
  have digitsWhole : ∀ c ∈ whole, c.isDigit = true := fun c member =>
    digits c (List.mem_of_mem_take member)
  have digitsFraction : ∀ c ∈ fraction, c.isDigit = true := fun c member =>
    digits c (List.mem_of_mem_drop member)
  -- The zeros in front leave a digit before the point.
  have given : whole ≠ [] := by
    rw [← List.length_pos_iff, List.length_take]
    omega
  have lengthFraction : fraction.length = places := by
    rw [List.length_drop]
    omega
  have written : (d.positional suffix).toList = whole ++ '.' :: fraction := by
    rw [positional, if_neg (Int.not_le.2 fractional), shift, Int.toNat_natCast]
    exact String.toList_ofList
  have join : digitsOf whole ++ digitsOf fraction =
      List.replicate (places + 1 - (Nat.toDigits 10 d.significand).length) 0 ++
        digitsOf (Nat.toDigits 10 d.significand) := by
    rw [digitsOf, digitsOf, ← List.map_append, List.take_append_drop, ← digitsOf_zeros]
    exact List.map_append
  have same : ofDigits (digitsOf whole ++ digitsOf fraction) = d.significand := by
    rw [join, ofDigits_append, ← digitsOf_zeros, ofDigits_zeros, ofDigits_toDigits, Nat.zero_mul,
      Nat.zero_add]
  have point := takeFraction_point digitsFraction stops_nil
  rw [List.append_nil] at point
  have pointed : Stops ('.' :: fraction) := stops_cons rfl
  have read := read?_append digitsWhole given pointed
  rw [point] at read
  refine ⟨_, written ▸ read, rfl, value_eq_of_shift 0 ?_ ?_, rfl, rfl, ?_⟩
  · exact same.trans (Nat.mul_one _).symm
  · change (0 : Int) - ((digitsOf fraction).length : Int) + (0 : Nat) = d.exponent
    rw [length_digitsOf, lengthFraction]
    omega
  · exact (significantDigits_le_of_fraction rfl join).trans_eq (length_digitsOf _)

theorem takeSign_exponent {plus : String} (plain : plus = "" ∨ plus = "+") (e : Int) :
    ∃ sign cs, takeSign ((if 0 ≤ e then plus else "").toList ++ (toString e).toList) = (sign, cs) ∧
      (∀ c ∈ cs, c.isDigit = true) ∧ cs ≠ [] ∧ signedValue sign (digitsOf cs) = e ∧
      (plus = "+" → sign.isSome) := by
  have printed : toString e = if 0 ≤ e then e.toNat.repr else "-" ++ (-e).toNat.repr :=
    Int.repr_eq_if
  rw [printed]
  by_cases nonneg : 0 ≤ e
  · rw [if_pos nonneg, if_pos nonneg, Nat.toList_repr]
    have value : (ofDigits (digitsOf (Nat.toDigits 10 e.toNat)) : Int) = e := by
      rw [ofDigits_toDigits, Int.toNat_of_nonneg nonneg]
    rcases plain with rfl | rfl
    · refine ⟨none, _, ?_, isDigit_of_mem_toDigits, Nat.toDigits_ne_nil, value,
        (absurd · (by decide))⟩
      obtain ⟨c, cs, same⟩ := List.exists_cons_of_ne_nil (Nat.toDigits_ne_nil (n := e.toNat) (b := 10))
      have digit : c.isDigit = true :=
        isDigit_of_mem_toDigits (n := e.toNat) c (same ▸ List.mem_cons_self)
      rw [same]
      exact takeSign_of_isDigit digit
    · exact ⟨some '+', _, rfl, isDigit_of_mem_toDigits, Nat.toDigits_ne_nil, value, fun _ => rfl⟩
  · rw [if_neg nonneg, if_neg nonneg, String.toList_append, Nat.toList_repr]
    refine ⟨some '-', Nat.toDigits 10 (-e).toNat, rfl, isDigit_of_mem_toDigits,
      Nat.toDigits_ne_nil, ?_, fun _ => rfl⟩
    rw [signedValue, if_pos rfl, ofDigits_toDigits, Int.toNat_of_nonneg (by omega), Int.neg_neg]

theorem read?_scientific (d : ShortDecimal) {plus : String} (plain : plus = "" ∨ plus = "+") :
    ∃ n, read? (d.scientific plus).toList = some n ∧ n.sign = none ∧ n.value = d.value ∧
      n.exponent.isSome ∧ (plus = "+" → ∀ power ∈ n.exponent, power.1.isSome) ∧
      n.significantDigits ≤ Binary64.decimalLength d.significand := by
  let power := (if 0 ≤ d.leadingExponent then plus else "").toList ++ (toString d.leadingExponent).toList
  obtain ⟨sign, es, taken, digitsExponent, given, exponentValue, signed⟩ :=
    takeSign_exponent plain d.leadingExponent
  have exponent : readExponent? ('e' :: power) = some (some (sign, digitsOf es)) :=
    readExponent?_of_digits sign power taken digitsExponent given
  have stops : Stops ('e' :: power) := stops_cons rfl
  obtain ⟨c, cs, same⟩ :=
    List.exists_cons_of_ne_nil (Nat.toDigits_ne_nil (n := d.significand) (b := 10))
  have digits : ∀ x ∈ c :: cs, x.isDigit = true := same ▸ isDigit_of_mem_toDigits
  rw [List.forall_mem_cons] at digits
  have head : ∀ x ∈ [c], x.isDigit = true := List.forall_mem_singleton.2 digits.1
  have significand : ofDigits (digitsOf [c] ++ digitsOf cs) = d.significand := by
    rw [← ofDigits_toDigits d.significand, same]
    rfl
  have length : (digitsOf (c :: cs)).length = Binary64.decimalLength d.significand :=
    (length_digitsOf _).trans (congrArg List.length same.symm)
  have signed : plus = "+" → ∀ power ∈ some (sign, digitsOf es), power.1.isSome :=
    fun marked power member => Option.some.inj member ▸ signed marked
  have leading : d.leadingExponent = d.exponent + cs.length := by
    rw [leadingExponent, same, List.length_cons]
    omega
  -- A single digit has no point after it.
  cases cs with
  | nil =>
      have written : (d.scientific plus).toList = [c] ++ 'e' :: power := by
        simp [scientific, same, power]
      have read := read?_append head (List.cons_ne_nil c []) stops
      rw [show takeFraction ('e' :: power) = (none, 'e' :: power) from rfl, exponent] at read
      refine ⟨_, written ▸ read, rfl, value_eq_of_shift 0 ?_ ?_, rfl, signed, ?_⟩
      · exact significand.trans (Nat.mul_one _).symm
      · change signedValue sign (digitsOf es) - (0 : Int) + (0 : Nat) = d.exponent
        rw [exponentValue, leading, List.length_nil]
        omega
      · exact length ▸ significantDigits_le_of_whole (k := 0) rfl rfl
  | cons c' rest =>
      have written : (d.scientific plus).toList = [c] ++ '.' :: ((c' :: rest) ++ 'e' :: power) := by
        simp [scientific, same, power]
      have pointed : Stops ('.' :: ((c' :: rest) ++ 'e' :: power)) := stops_cons rfl
      have read := read?_append head (List.cons_ne_nil c []) pointed
      rw [takeFraction_point digits.2 stops, exponent] at read
      refine ⟨_, written ▸ read, rfl, value_eq_of_shift 0 ?_ ?_, rfl, signed, ?_⟩
      · exact significand.trans (Nat.mul_one _).symm
      · change signedValue sign (digitsOf es) - ((digitsOf (c' :: rest)).length : Int) + (0 : Nat) =
          d.exponent
        rw [exponentValue, leading, length_digitsOf]
        omega
      · exact length ▸ significantDigits_le_of_fraction (k := 0) rfl rfl

theorem read?_toText (d : ShortDecimal) {style : NumberStyle} (readable : style.Readable) :
    ∃ n, read? (d.toText style).toList = some n ∧ n.Shows style d := by
  rw [toText]
  split
  · rename_i positional
    have exponent {n : Numeral} (plain : n.exponent = none) : n.exponent.isSome ↔
        ¬(style.leastPositional ≤ d.leadingExponent ∧
          d.leadingExponent ≤ style.greatestPositional) := by
      rw [plain]
      exact iff_of_false nofun (not_not_intro positional)
    have signed {n : Numeral} (plain : n.exponent = none) :
        style.exponentPlus = "+" → ∀ power ∈ n.exponent, power.1.isSome := by
      rw [plain]
      nofun
    by_cases whole : 0 ≤ d.exponent
    · obtain ⟨n, read, unsigned, same, plain, marked, digits⟩ :=
        read?_positional_whole d whole readable.whole
      exact ⟨n, read, unsigned, same, fun dotted => .inl (marked dotted), exponent plain,
        signed plain, digits⟩
    · obtain ⟨n, read, unsigned, same, plain, marked, digits⟩ :=
        read?_positional_point d style.wholeSuffix (Int.not_le.1 whole)
      exact ⟨n, read, unsigned, same, fun _ => .inl marked, exponent plain, signed plain,
        fun _ => digits⟩
  · rename_i scientific
    obtain ⟨n, read, unsigned, same, powered, signed, digits⟩ := read?_scientific d readable.plus
    exact ⟨n, read, unsigned, same, fun _ => .inr powered, iff_of_true powered scientific, signed,
      fun _ => digits⟩

end ShortDecimal

namespace Binary64
open Numeral

variable {x y : Binary64} {style : NumberStyle}

def GoesWith (x : Binary64) (n : Numeral) : Prop :=
  n.isNegative = x.negative ∧ if x.isZero then n.value = 0 else x.neighbourhood.Around n.value

theorem eq_of_goesWith {n : Numeral} (goes : x.GoesWith n) (goes' : y.GoesWith n) : x = y := by
  obtain ⟨sign, size⟩ := goes
  obtain ⟨sign', size'⟩ := goes'
  have fields : x.exponent = y.exponent ∧ x.fraction = y.fraction := by
    cases zero : x.isZero <;> cases zero' : y.isZero <;>
      simp only [zero, zero', Bool.false_eq_true, if_false, if_true] at size size'
    · exact eq_of_around size size'
    · exact absurd size' (ne_of_gt (pos_of_around zero size))
    · exact absurd size (ne_of_gt (pos_of_around zero' size'))
    · simp only [isZero, Bool.and_eq_true, beq_iff_eq] at zero zero'
      exact ⟨zero.1.trans zero'.1.symm, zero.2.trans zero'.2.symm⟩
  cases x
  cases y
  cases fields.1
  cases fields.2
  cases sign.symm.trans sign'
  rfl

theorem read?_signed {text : String} {n : Numeral} (read : Numeral.read? text.toList = some n)
    (unsigned : n.sign = none) (negative : Bool) :
    ∃ sign, Numeral.read? ((if negative then "-" else "") ++ text).toList = some { n with sign } ∧
      isNegative { n with sign } = negative := by
  cases negative with
  | false =>
      refine ⟨n.sign, ?_, ?_⟩
      · rw [String.toList_append]
        exact read
      · rw [isNegative, unsigned]
        rfl
  | true =>
      refine ⟨some '-', ?_, rfl⟩
      rw [String.toList_append]
      exact read?_minus read unsigned

theorem toText_eq_of_isFinite (finite : x.isFinite = true) : x.toText style =
    if x.isZero then (if style.wholeSuffix.isEmpty then "" else if x.negative then "-" else "") ++
      style.zero
    else (if x.negative then "-" else "") ++ (x.shortest style.tie).toText style := by
  have exponent : (x.exponent == 2047) = false := by
    rwa [isFinite, bne, Bool.not_eq_true'] at finite
  have bounded : x.isInfinite = false := by rw [isInfinite, exponent, Bool.false_and]
  rw [toText, isNaN_of_isFinite finite, bounded]
  rfl

/-- The text of a finite datum that is not zero is a numeral with the sign of the datum, which but for
the sign shows its shortest decimal. -/
theorem exists_shows_toText (finite : x.isFinite = true) (given : x.isZero = false)
    (readable : style.Readable) :
    ∃ (n : Numeral) (sign : Option Char), n.Shows style (x.shortest style.tie) ∧
      Numeral.read? (x.toText style).toList = some { n with sign } ∧
      isNegative { n with sign } = x.negative := by
  obtain ⟨n, plain, shows⟩ := (x.shortest style.tie).read?_toText readable
  obtain ⟨sign, read⟩ := read?_signed plain shows.unsigned x.negative
  rw [toText_eq_of_isFinite finite, if_neg (Bool.not_eq_true _ ▸ given)]
  exact ⟨n, sign, shows, read⟩

theorem exists_goesWith_toText (finite : x.isFinite = true) (given : x.isZero = false)
    (readable : style.Readable) :
    ∃ n, Numeral.read? (x.toText style).toList = some n ∧ x.GoesWith n ∧
      (style.wholeSuffix = ".0" → n.fraction.isSome ∨ n.exponent.isSome) := by
  obtain ⟨n, sign, shows, read, negative⟩ := exists_shows_toText finite given readable
  refine ⟨{ n with sign }, read, ⟨negative, ?_⟩, shows.marked⟩
  rw [if_neg (Bool.not_eq_true _ ▸ given)]
  exact shows.value ▸ around_shortest given _

theorem eq_infinity (special : x.isFinite = false) (number : x.isNaN = false) :
    x = infinity x.negative := by
  obtain ⟨negative, exponent, fraction⟩ := x
  have top : exponent = 2047 := by simpa [isFinite] using special
  have clear : fraction = 0 := by simpa [isNaN, top] using number
  rw [top, clear, infinity]

theorem toText_of_not_isFinite (special : x.isFinite = false) :
    x.toText style =
      if x.isNaN then style.nan else (if x.negative then "-" else "") ++ style.infinity := by
  have exponent : (x.exponent == 2047) = true := by
    rwa [isFinite, bne, Bool.not_eq_false'] at special
  have kinds : x.isInfinite = !x.isNaN := by
    rw [isInfinite, isNaN, exponent, Bool.true_and, Bool.true_and, bne, Bool.not_not]
  rw [toText, kinds]
  cases x.isNaN <;> rfl

theorem read?_toText_of_not_isFinite (worded : style.Worded) (special : x.isFinite = false) :
    Numeral.read? (x.toText style).toList = none := by
  rw [toText_of_not_isFinite special]
  split
  · exact worded.nan
  · exact worded.infinity x.negative

theorem isFinite_or_eq_of_toText (worded : style.Worded)
    (numeral : ∀ z : Binary64, z.isFinite = true → ∃ n, Numeral.read? (z.toText style).toList = some n)
    (same : x.toText style = y.toText style) :
    x.isFinite = true ∧ y.isFinite = true ∨ x = y ∨ x.isNaN = true ∧ y.isNaN = true := by
  cases finite : x.isFinite <;> cases finite' : y.isFinite
  · rw [toText_of_not_isFinite finite, toText_of_not_isFinite finite'] at same
    cases number : x.isNaN <;> cases number' : y.isNaN <;>
      simp only [number, number', Bool.false_eq_true, if_false, if_true] at same
    · refine .inr (.inl ?_)
      have length := congrArg String.length same
      rw [eq_infinity finite number, eq_infinity finite' number']
      cases sign : x.negative <;> cases sign' : y.negative <;> simp [sign, sign'] at length ⊢
    · exact absurd same.symm (worded.apart x.negative)
    · exact absurd same (worded.apart y.negative)
    · exact .inr (.inr ⟨rfl, rfl⟩)
  · obtain ⟨n, read⟩ := numeral y finite'
    rw [← same, read?_toText_of_not_isFinite worded finite] at read
    cases read
  · obtain ⟨n, read⟩ := numeral x finite
    rw [same, read?_toText_of_not_isFinite worded finite'] at read
    cases read
  · exact .inl ⟨rfl, rfl⟩

theorem exists_goesWith_toText_mappingKey (finite : x.isFinite = true) :
    ∃ n, Numeral.read? (x.toText .mappingKey).toList = some n ∧ x.GoesWith n ∧
      (n.fraction.isSome ∨ n.exponent.isSome) := by
  cases zero : x.isZero with
  | true =>
      rw [toText_eq_of_isFinite finite, if_pos zero]
      have plain : Numeral.read? "0.0".toList = some ⟨none, [0], some [0], none⟩ := rfl
      obtain ⟨sign, read, negative⟩ := read?_signed plain rfl x.negative
      refine ⟨_, read, ⟨negative, ?_⟩, .inl rfl⟩
      rw [if_pos zero]
      exact zero_mul _
  | false =>
      have readable : NumberStyle.mappingKey.Readable := ⟨.inr rfl, .inl rfl⟩
      obtain ⟨n, read, goes, marked⟩ := exists_goesWith_toText finite zero readable
      exact ⟨n, read, goes, marked rfl⟩

theorem worded_mappingKey : NumberStyle.mappingKey.Worded where
  nan := rfl
  infinity negative := by cases negative <;> rfl
  apart negative := by cases negative <;> decide

theorem toText_mappingKey_of_not_isFinite (special : x.isFinite = false) :
    x.toText .mappingKey = if x.isNaN then ".nan" else if x.negative then "-.inf" else ".inf" := by
  rw [toText_of_not_isFinite special]
  cases x.negative <;> rfl

theorem eq_of_toText_mappingKey (same : x.toText .mappingKey = y.toText .mappingKey) :
    x = y ∨ x.isNaN = true ∧ y.isNaN = true := by
  have numeral (z : Binary64) (finite : z.isFinite = true) :
      ∃ n, Numeral.read? (z.toText .mappingKey).toList = some n :=
    (exists_goesWith_toText_mappingKey finite).imp fun _ told => told.1
  rcases isFinite_or_eq_of_toText worded_mappingKey numeral same with ⟨finite, finite'⟩ | special
  · obtain ⟨n, read, goes, -⟩ := exists_goesWith_toText_mappingKey finite
    obtain ⟨m, read', goes', -⟩ := exists_goesWith_toText_mappingKey finite'
    rw [same, read', Option.some.injEq] at read
    exact .inl (eq_of_goesWith goes (read ▸ goes'))
  · exact special

theorem worded_message : NumberStyle.message.Worded where
  nan := rfl
  infinity negative := by cases negative <;> rfl
  apart negative := by cases negative <;> decide

theorem toText_message_of_isNaN (number : x.isNaN = true) : x.toText .message = "NaN" :=
  if_pos number

theorem toText_message_of_isZero (zero : x.isZero = true) : x.toText .message = "0" :=
  (toText_eq_of_isFinite (isFinite_of_isZero zero)).trans (if_pos zero)

def shown (x : Binary64) : Binary64 :=
  if x.isZero then zero else x

theorem exists_goesWith_toText_message (finite : x.isFinite = true) :
    ∃ n, Numeral.read? (x.toText .message).toList = some n ∧ x.shown.GoesWith n := by
  cases given : x.isZero with
  | true =>
      rw [toText_message_of_isZero given, shown, if_pos given]
      exact ⟨⟨none, [0], none, none⟩, rfl, rfl, zero_mul _⟩
  | false =>
      have readable : NumberStyle.message.Readable := ⟨.inl rfl, .inr rfl⟩
      obtain ⟨n, read, goes, -⟩ := exists_goesWith_toText finite given readable
      rw [shown, if_neg (Bool.not_eq_true _ ▸ given)]
      exact ⟨n, read, goes⟩

theorem eq_of_toText_message (same : x.toText .message = y.toText .message) :
    x = y ∨ x.isZero = true ∧ y.isZero = true ∨ x.isNaN = true ∧ y.isNaN = true := by
  have numeral (z : Binary64) (finite : z.isFinite = true) :
      ∃ n, Numeral.read? (z.toText .message).toList = some n :=
    (exists_goesWith_toText_message finite).imp fun _ told => told.1
  rcases isFinite_or_eq_of_toText worded_message numeral same with ⟨finite, finite'⟩ | equal | both
  · obtain ⟨n, read, goes⟩ := exists_goesWith_toText_message finite
    obtain ⟨m, read', goes'⟩ := exists_goesWith_toText_message finite'
    rw [same, read', Option.some.injEq] at read
    have shown_eq : x.shown = y.shown := eq_of_goesWith goes (read ▸ goes')
    unfold shown at shown_eq
    split at shown_eq <;> split at shown_eq
    · rename_i given given'
      exact .inr (.inl ⟨given, given'⟩)
    · rename_i given other
      exact absurd (shown_eq ▸ rfl) other
    · rename_i other given
      exact absurd (shown_eq ▸ rfl) other
    · exact .inl shown_eq
  · exact .inl equal
  · exact .inr (.inr both)

theorem toText_message_eq_iff : x.toText .message = y.toText .message ↔
    x.equals y = true ∨ x.isNaN = true ∧ y.isNaN = true := by
  rw [equals_iff]
  constructor
  · intro same
    rcases eq_of_toText_message same with rfl | ⟨zero, zero'⟩ | both
    · cases number : x.isNaN <;> simp
    · have number := isNaN_of_isFinite (isFinite_of_isZero zero)
      have number' := isNaN_of_isFinite (isFinite_of_isZero zero')
      exact .inl ⟨number, number', .inr ⟨zero, zero'⟩⟩
    · exact .inr both
  · rintro (⟨-, -, rfl | ⟨zero, zero'⟩⟩ | ⟨number, number'⟩)
    · rfl
    · rw [toText_message_of_isZero zero, toText_message_of_isZero zero']
    · rw [toText_message_of_isNaN number, toText_message_of_isNaN number']

end Binary64
end ShapeCheck
