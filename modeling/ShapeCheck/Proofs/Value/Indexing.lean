import ShapeCheck.Proofs.Rule.Length
import ShapeCheck.Proofs.Value.Property

namespace ShapeCheck

namespace Text

/-! ## Decimal texts -/

/-- Whether a text is a number in decimal, without sign and without leading zeros. -/
structure IsDecimal (key : String) (i : Nat) : Prop where
  given : key.toList ≠ []
  digits : ∀ c ∈ key.toList, c.isDigit = true
  unpadded : key.toList.head? = some '0' → key.toList = ['0']
  value : Nat.ofDigitChars 10 key.toList 0 = i

theorem toDigits_digit {c : Char} (digit : c.isDigit = true) :
    Nat.toDigits 10 (c.toNat - '0'.toNat) = [c] := by
  have bounds : 48 ≤ c.toNat ∧ c.toNat ≤ 57 := Char.isDigit_iff_toNat.1 digit
  have zero : '0'.toNat = 48 := rfl
  have small : c.toNat - '0'.toNat < 10 := by omega
  rw [Nat.toDigits_of_lt_base small, List.singleton_inj, ← Char.toNat_inj,
    Nat.toNat_digitChar_of_lt_ten small]
  omega

theorem toDigits_append_of_digits {cs : List Char} (digits : ∀ c ∈ cs, c.isDigit = true) {n : Nat}
    (positive : 0 < n) : Nat.toDigits 10 n ++ cs = Nat.toDigits 10 (Nat.ofDigitChars 10 cs n) := by
  induction cs generalizing n with
  | nil => rw [List.append_nil, Nat.ofDigitChars_nil]
  | cons c cs ih =>
      rw [List.forall_mem_cons] at digits
      have bounds : 48 ≤ c.toNat ∧ c.toNat ≤ 57 := Char.isDigit_iff_toNat.1 digits.1
      have zero : '0'.toNat = 48 := rfl
      have next : Nat.toDigits 10 n ++ [c] = Nat.toDigits 10 (10 * n + (c.toNat - '0'.toNat)) := by
        rw [← toDigits_digit digits.1]
        exact Nat.toDigits_append_toDigits (by decide) positive (by omega)
      rw [Nat.ofDigitChars_cons, ← ih digits.2 (by omega), ← next, List.append_assoc,
        List.singleton_append]

theorem head?_toDigits {n : Nat} (positive : 0 < n) : (Nat.toDigits 10 n).head? ≠ some '0' := by
  induction n using Nat.strong_induction_on with
  | _ n ih =>
      by_cases small : n < 10
      · rw [Nat.toDigits_of_lt_base small, List.head?_cons]
        intro same
        have code := congrArg Char.toNat (Option.some.inj same)
        rw [Nat.toNat_digitChar_of_lt_ten small] at code
        have zero : '0'.toNat = 48 := rfl
        omega
      · rw [Nat.toDigits_of_base_le (by decide) (Nat.not_lt.1 small),
          List.head?_append_of_ne_nil _ Nat.toDigits_ne_nil]
        exact ih (n / 10) (by omega) (by omega)

theorem isDecimal_toString (i : Nat) : IsDecimal (toString i) i where
  given := by
    rw [Nat.toString_eq_repr, Nat.toList_repr]
    exact Nat.toDigits_ne_nil
  digits := by
    rw [Nat.toString_eq_repr, Nat.toList_repr]
    exact isDigit_of_mem_toDigits
  unpadded := by
    rw [Nat.toString_eq_repr, Nat.toList_repr]
    intro padded
    rcases Nat.eq_zero_or_pos i with rfl | positive
    · rfl
    · exact absurd padded (head?_toDigits positive)
  value := by
    rw [Nat.toString_eq_repr, Nat.toList_repr]
    exact Nat.ofDigitChars_ten_toDigits

theorem isDecimal_iff {key : String} {i : Nat} : IsDecimal key i ↔ key = toString i := by
  constructor
  · rintro ⟨given, digits, unpadded, rfl⟩
    rw [← String.toList_inj, Nat.toString_eq_repr, Nat.toList_repr]
    generalize key.toList = cs at given digits unpadded ⊢
    cases cs with
    | nil => exact absurd rfl given
    | cons c cs =>
        by_cases zero : c = '0'
        · subst zero
          obtain rfl : cs = [] := (List.cons.inj (unpadded rfl)).2
          rfl
        · rw [List.forall_mem_cons] at digits
          have bounds : 48 ≤ c.toNat ∧ c.toNat ≤ 57 := Char.isDigit_iff_toNat.1 digits.1
          have other : c.toNat ≠ 48 := fun same => zero (Char.toNat_inj.1 same)
          have zeroCode : '0'.toNat = 48 := rfl
          have positive : 0 < c.toNat - '0'.toNat := by omega
          rw [Nat.ofDigitChars_cons, Nat.mul_zero, Nat.zero_add,
            ← toDigits_append_of_digits digits.2 positive, toDigits_digit digits.1,
            List.singleton_append]
  · rintro rfl
    exact isDecimal_toString i

def dropPlus : List Char → List Char
  | '+' :: cs => cs
  | cs => cs

/-- The number below 2^64 that a text stands for, which may have a plus and zeros in front. -/
def readWord? (key : String) : Option Nat :=
  let digits := dropPlus key.toList
  if digits.isEmpty then none else (readDigits? 0 digits).filter (· < 2 ^ 64)

theorem dropPlus_of_digits {cs : List Char} (digits : ∀ c ∈ cs, c.isDigit = true) :
    dropPlus cs = cs := by
  unfold dropPlus
  split
  · cases digits '+' List.mem_cons_self
  · rfl

theorem readWord?_toString (i : Nat) : readWord? (toString i) = (some i).filter (· < 2 ^ 64) := by
  obtain ⟨given, digits, -, -⟩ := isDecimal_toString i
  rw [readWord?, dropPlus_of_digits digits, readDigits?_toString]
  exact if_neg (mt List.isEmpty_iff.1 given)

theorem filter_readWord? (key : String) :
    (readWord? key).filter (toString · = key) = (index? key).filter (· < 2 ^ 64) := by
  apply Option.ext
  intro i
  rw [Option.filter_eq_some_iff, Option.filter_eq_some_iff, index?_eq_some_iff, decide_eq_true_iff]
  constructor
  · rintro ⟨read, rfl⟩
    rw [readWord?_toString, Option.filter_eq_some_iff] at read
    exact ⟨rfl, read.2⟩
  · rintro ⟨rfl, small⟩
    rw [readWord?_toString, Option.filter_eq_some_iff]
    exact ⟨⟨rfl, small⟩, rfl⟩

/-! ## UTF-16 -/

def utf16 (c : Char) : List Nat :=
  if c.toNat < 0x10000 then [c.toNat]
  else [0xD800 + (c.toNat - 0x10000) / 0x400, 0xDC00 + (c.toNat - 0x10000) % 0x400]

def unitChar (unit : Nat) : Char :=
  if 0xD800 ≤ unit ∧ unit < 0xE000 then replacement else Char.ofNat unit

theorem unitsOfChar_eq (c : Char) : unitsOfChar c = (utf16 c).map unitChar := by
  have valid : c.toNat < 0xD800 ∨ 0xDFFF < c.toNat ∧ c.toNat < 0x110000 := c.valid
  rw [unitsOfChar, utf16]
  split
  · rw [List.map_singleton, unitChar, if_neg (by omega), Char.ofNat_toNat]
  · rw [List.map_cons, List.map_singleton, unitChar, unitChar, if_pos (by omega), if_pos (by omega)]

theorem units_eq (s : String) : units s = (s.toList.flatMap utf16).map unitChar := by
  rw [units, List.map_flatMap]
  exact List.flatMap_congr fun c _ => unitsOfChar_eq c

end Text

namespace Value

/-! ## Properties under positions -/

theorem itemAt_of_decimal {items : List Value} {key : String} {i : Nat} (decimal : Text.IsDecimal key i)
    (inside : i < items.length) : itemAt items key = items[i] := by
  rw [itemAt, Text.index?_eq_some_iff.2 (Text.isDecimal_iff.1 decimal)]
  dsimp only
  rw [List.getD_eq_getElem?_getD, List.getElem?_eq_getElem inside, Option.getD_some]

theorem itemAt_of_beyond {items : List Value} {key : String}
    (beyond : ∀ i, Text.IsDecimal key i → items.length ≤ i) : itemAt items key = undefined := by
  rw [itemAt]
  split
  next i read =>
    have decimal := Text.isDecimal_iff.2 (Text.index?_eq_some_iff.1 read)
    rw [List.getD_eq_getElem?_getD, List.getElem?_eq_none (beyond i decimal), Option.getD_none]
  next => rfl

theorem ne_length_of_decimal {key : String} {i : Nat} (decimal : Text.IsDecimal key i) :
    key ≠ "length" := by
  rw [Text.isDecimal_iff.1 decimal]
  exact toString_ne_length i

theorem get_array_of_ne (id : Identity) (items : List Value) {key : String} (other : key ≠ "length") :
    (array id items).get key = itemAt items key := by
  rw [get, if_neg other]

def unitTexts (s : String) : List String :=
  (s.toList.flatMap Text.utf16).map fun unit => String.singleton (Text.unitChar unit)

theorem get_string_of_ne (s : String) {key : String} (other : key ≠ "length") :
    (string s).get key = itemAt ((unitTexts s).map string) key := by
  rw [get, if_neg other, Text.units_eq, unitTexts, List.map_map, List.map_map]
  rfl

theorem get_string_length (s : String) :
    (string s).get "length" = number (.ofNat (s.toList.flatMap Text.utf16).length) := by
  rw [get, if_pos rfl, Text.units_eq, List.length_map]

theorem join_unitTexts (s : String) :
    String.join (unitTexts s) = String.ofList (Text.units s) := by
  rw [← String.toList_inj, String.toList_join, String.toList_ofList, unitTexts, Text.units_eq,
    List.flatMap_map, List.map_eq_flatMap]
  exact List.flatMap_congr fun unit _ => String.toList_singleton _

/-- The properties of arrays and strings under other keys than `length` are what they have at the
positions that the keys stand for, and nothing under keys that stand for no position. Strings have
UTF-16 units, each of which reads as one character. -/
theorem get_positions :
    (∀ id items key, key ≠ "length" →
      (∀ i (inside : i < items.length), Text.IsDecimal key i →
        (array id items).get key = items[i]) ∧
      ((∀ i, Text.IsDecimal key i → items.length ≤ i) → (array id items).get key = undefined)) ∧
    (∀ s : String,
      let units := s.toList.flatMap Text.utf16
      let texts := units.map fun unit => String.singleton (Text.unitChar unit)
      (string s).get "length" = number (.ofNat units.length) ∧
      (units.length ≤ 2 ^ 53 → (string s).HasLength units.length) ∧
      (∀ key i (inside : i < texts.length), Text.IsDecimal key i →
        (string s).get key = string texts[i]) ∧
      (∀ key, key ≠ "length" → (∀ i, Text.IsDecimal key i → units.length ≤ i) →
        (string s).get key = undefined) ∧
      String.join texts = String.ofList (s.toList.flatMap fun c =>
        if c.toNat < 0x10000 then [c] else ['\uFFFD', '\uFFFD'])) ∧
    ∀ key, (Text.readWord? key).filter (toString · = key) = (Text.index? key).filter (· < 2 ^ 64) := by
  refine ⟨fun id items key other => ⟨fun i inside decimal => ?_, fun beyond => ?_⟩, fun s => ?_,
    Text.filter_readWord?⟩
  · rw [get_array_of_ne id items other, itemAt_of_decimal decimal inside]
  · rw [get_array_of_ne id items other, itemAt_of_beyond beyond]
  · intro units texts
    have same : texts.length = units.length := List.length_map ..
    refine ⟨get_string_length s, fun small => ?_, fun key i inside decimal => ?_,
      fun key other beyond => ?_, join_unitTexts s⟩
    · have fits : Binary64.FitsPlaces units.length := ⟨_, 0, small, (Nat.mul_one _).symm⟩
      have finite := Binary64.isFinite_ofNat (Nat.lt_of_le_of_lt small (by decide))
      exact ⟨_, get_string_length s, Binary64.value?_ofNat fits finite⟩
    · have inside' : i < (texts.map string).length := by rwa [List.length_map]
      rw [get_string_of_ne s (ne_length_of_decimal decimal)]
      exact (itemAt_of_decimal decimal inside').trans (List.getElem_map ..)
    · rw [get_string_of_ne s other]
      refine itemAt_of_beyond fun i decimal => ?_
      rw [List.length_map, unitTexts, List.length_map]
      exact beyond i decimal

theorem get_positions_surrogates :
    let v := string "a😀b"
    v.HasLength 4 ∧ v.get "1" = string "\uFFFD" ∧ v.get "3" = string "b" ∧
      v.get "4" = undefined ∧ v.get "01" = undefined ∧
      (array 16 [v]).get "0" = v ∧ (array 16 [v]).get "+0" = undefined := by
  intro v
  obtain ⟨arrays, strings, -⟩ := get_positions
  obtain ⟨-, small, inside, beyond, -⟩ := strings "a😀b"
  have four : ("a😀b".toList.flatMap Text.utf16).length = 4 := by decide +kernel
  have decimal (i : Nat) : Text.IsDecimal (toString i) i := Text.isDecimal_iff.2 rfl
  have padded (i : Nat) : ¬ Text.IsDecimal "01" i := fun read =>
    absurd (read.unpadded (by decide +kernel)) (by decide +kernel)
  have signed (i : Nat) : ¬ Text.IsDecimal "+0" i := fun read =>
    absurd (read.digits '+' (by decide +kernel)) (by decide)
  refine ⟨?_, ?_, ?_, ?_, ?_, ?_, ?_⟩
  · have length := small (by rw [four]; decide)
    rwa [four] at length
  · exact inside "1" 1 (by decide +kernel) (decimal 1)
  · exact inside "3" 3 (by decide +kernel) (decimal 3)
  · refine beyond "4" (by decide) fun i read => ?_
    rw [four]
    exact Nat.le_of_eq (Text.toString_inj ((Text.isDecimal_iff.1 read).symm.trans rfl).symm)
  · exact beyond "01" (by decide) fun i read => absurd read (padded i)
  · exact (arrays 16 [v] "0" (by decide)).1 0 Nat.zero_lt_one (decimal 0)
  · exact (arrays 16 [v] "+0" (by decide)).2 fun i read => absurd read (signed i)

end Value
end ShapeCheck
