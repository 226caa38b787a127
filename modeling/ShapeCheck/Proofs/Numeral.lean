import Mathlib.Algebra.Field.Rat
import Mathlib.Algebra.Order.Field.Basic
import Mathlib.Data.List.DropRight
import Mathlib.Tactic.Ring
import ShapeCheck.Numeral

namespace ShapeCheck

theorem Text.digitValue?_of_isDigit {c : Char} (digit : c.isDigit = true) :
    Text.digitValue? c = some (c.toNat - '0'.toNat) := by
  simp only [Char.isDigit, Bool.and_eq_true, decide_eq_true_iff] at digit
  exact if_pos digit

theorem Text.digitValue?_of_not_isDigit {c : Char} (other : c.isDigit = false) :
    Text.digitValue? c = none := by
  simp only [Char.isDigit, Bool.and_eq_false_iff, decide_eq_false_iff_not] at other
  exact if_neg fun ⟨least, most⟩ => other.elim (· least) (· most)

theorem isDigit_of_mem_toDigits {n : Nat} : ∀ c ∈ Nat.toDigits 10 n, c.isDigit = true :=
  fun _ member => Nat.isDigit_of_mem_toDigits (by decide) (Nat.le_refl 10) member

theorem isDigit_of_mem_zeros {k : Nat} : ∀ c ∈ List.replicate k '0', c.isDigit = true :=
  fun _ member => (List.mem_replicate.1 member).2 ▸ rfl

namespace Numeral

def value (n : Numeral) : ℚ :=
  n.significand * (10 : ℚ) ^ n.scale

def number (n : Numeral) : ℚ :=
  if n.isNegative then -n.value else n.value

def significantDigits (n : Numeral) : Nat :=
  let digits := n.whole ++ n.fractionDigits
  let written := if n.fraction.isSome then digits else digits.rdropWhile (· == 0)
  (written.dropWhile (· == 0)).length

def signedValue (sign : Option Char) (digits : List Nat) : Int :=
  if sign = some '-' then -(ofDigits digits : Int) else ofDigits digits

def digitsOf (cs : List Char) : List Nat :=
  cs.map fun c => c.toNat - '0'.toNat

def Stops (cs : List Char) : Prop :=
  ∀ c ∈ cs.head?, c.isDigit = false

theorem stops_nil : Stops [] := nofun

theorem stops_cons {c : Char} {cs : List Char} (other : c.isDigit = false) : Stops (c :: cs) := by
  intro d head
  cases head
  exact other

theorem ofDigits_append (ds es : List Nat) :
    ofDigits (ds ++ es) = ofDigits ds * 10 ^ es.length + ofDigits es := by
  have after (n : Nat) : es.foldl (fun n d => n * 10 + d) n = n * 10 ^ es.length + ofDigits es := by
    rw [ofDigits]
    induction es generalizing n with
    | nil => simp
    | cons e es ih =>
        rw [List.foldl_cons, ih, List.foldl_cons, ih (0 * 10 + e), List.length_cons]
        ring
  rw [ofDigits, List.foldl_append, after]
  rfl

theorem ofDigits_digitsOf (cs : List Char) : ofDigits (digitsOf cs) = Nat.ofDigitChars 10 cs 0 := by
  rw [ofDigits, digitsOf, List.foldl_map, Nat.ofDigitChars]
  simp only [Nat.mul_comm]

theorem ofDigits_toDigits (n : Nat) : ofDigits (digitsOf (Nat.toDigits 10 n)) = n := by
  rw [ofDigits_digitsOf, Nat.ofDigitChars_ten_toDigits]

theorem ofDigits_zeros (k : Nat) : ofDigits (digitsOf (List.replicate k '0')) = 0 := by
  induction k with
  | zero => rfl
  | succ k ih => exact ih

theorem length_digitsOf (cs : List Char) : (digitsOf cs).length = cs.length :=
  List.length_map _

theorem digitsOf_zeros (k : Nat) : digitsOf (List.replicate k '0') = List.replicate k 0 :=
  List.map_replicate

theorem dropWhile_zeros_append (k : Nat) (ds : List Nat) :
    (List.replicate k 0 ++ ds).dropWhile (· == 0) = ds.dropWhile (· == 0) :=
  List.dropWhile_append_of_pos fun _ member => beq_iff_eq.2 (List.eq_of_mem_replicate member)

theorem significantDigits_le_of_fraction {n : Numeral} {k : Nat} {ds : List Nat}
    (pointed : n.fraction.isSome) (digits : n.whole ++ n.fractionDigits = List.replicate k 0 ++ ds) :
    n.significantDigits ≤ ds.length := by
  rw [significantDigits, digits, if_pos pointed, dropWhile_zeros_append]
  exact List.length_dropWhile_le _ _

theorem significantDigits_le_of_whole {n : Numeral} {k : Nat} {ds : List Nat}
    (plain : n.fraction.isSome = false)
    (digits : n.whole ++ n.fractionDigits = ds ++ List.replicate k 0) :
    n.significantDigits ≤ ds.length := by
  have dropped : (ds ++ List.replicate k 0).rdropWhile (· == 0) = ds.rdropWhile (· == 0) := by
    rw [List.rdropWhile, List.rdropWhile, List.reverse_append, List.reverse_replicate,
      dropWhile_zeros_append]
  rw [significantDigits, digits, plain, if_neg Bool.false_ne_true, dropped]
  exact (List.length_dropWhile_le _ _).trans (List.rdropWhile_prefix _ _).length_le

theorem takeDigits_append {cs rest : List Char} (digits : ∀ c ∈ cs, c.isDigit = true)
    (stops : Stops rest) : takeDigits (cs ++ rest) = (digitsOf cs, rest) := by
  induction cs with
  | nil =>
      cases rest with
      | nil => rfl
      | cons c rest =>
          rw [List.nil_append, takeDigits, Text.digitValue?_of_not_isDigit (stops c rfl)]
          rfl
  | cons c cs ih =>
      rw [List.forall_mem_cons] at digits
      rw [List.cons_append, takeDigits, Text.digitValue?_of_isDigit digits.1, ih digits.2]
      rfl

theorem takeSign_of_isDigit {c : Char} {cs : List Char} (digit : c.isDigit = true) :
    takeSign (c :: cs) = (none, c :: cs) := by
  unfold takeSign
  split
  · rename_i same; cases same; cases digit
  · rename_i same; cases same; cases digit
  · rfl

theorem takeSign_of_unsigned {cs : List Char} (unsigned : (takeSign cs).1 = none) :
    takeSign cs = (none, cs) := by
  unfold takeSign at unsigned ⊢
  split at unsigned
  · cases unsigned
  · cases unsigned
  · rfl

theorem read?_eq (cs : List Char) :
    read? cs = (readExponent? (takeFraction (takeDigits (takeSign cs).2).2).2).map fun exponent =>
      { sign := (takeSign cs).1
        whole := (takeDigits (takeSign cs).2).1
        fraction := (takeFraction (takeDigits (takeSign cs).2).2).1
        exponent } := by
  rw [Option.map_eq_bind]
  rfl

theorem read?_append {cs rest : List Char} (digits : ∀ c ∈ cs, c.isDigit = true) (given : cs ≠ [])
    (stops : Stops rest) :
    read? (cs ++ rest) = (readExponent? (takeFraction rest).2).map fun exponent =>
      { sign := none, whole := digitsOf cs, fraction := (takeFraction rest).1, exponent } := by
  obtain ⟨c, cs', rfl⟩ := List.exists_cons_of_ne_nil given
  have plain : takeSign (c :: cs' ++ rest) = (none, c :: cs' ++ rest) :=
    takeSign_of_isDigit (digits c List.mem_cons_self)
  rw [read?_eq, plain, takeDigits_append digits stops]

theorem read?_minus {cs : List Char} {n : Numeral} (read : read? cs = some n)
    (unsigned : n.sign = none) : read? ('-' :: cs) = some { n with sign := some '-' } := by
  rw [read?_eq, Option.map_eq_some_iff] at read
  obtain ⟨exponent, taken, rfl⟩ := read
  rw [takeSign_of_unsigned unsigned] at taken ⊢
  rw [read?_eq, Option.map_eq_some_iff]
  exact ⟨exponent, taken, rfl⟩

theorem takeFraction_point {cs rest : List Char} (digits : ∀ c ∈ cs, c.isDigit = true)
    (stops : Stops rest) : takeFraction ('.' :: (cs ++ rest)) = (some (digitsOf cs), rest) := by
  rw [takeFraction, takeDigits_append digits stops]

theorem readExponent?_of_digits {cs : List Char} (sign : Option Char) (signed : List Char)
    (taken : takeSign signed = (sign, cs)) (digits : ∀ c ∈ cs, c.isDigit = true) (given : cs ≠ []) :
    readExponent? ('e' :: signed) = some (some (sign, digitsOf cs)) := by
  have read := takeDigits_append digits stops_nil
  rw [List.append_nil] at read
  obtain ⟨c, cs', rfl⟩ := List.exists_cons_of_ne_nil given
  rw [readExponent?, taken]
  simp only [read, digitsOf, List.map_cons, true_or, if_true]

theorem read?_toString (n : Int) :
    ∃ m, read? (toString n).toList = some m ∧ m.fraction = none ∧ m.exponent = none ∧
      signedValue m.sign m.whole = n := by
  have plain (k : Nat) : read? k.repr.toList =
      some ⟨none, digitsOf (Nat.toDigits 10 k), none, none⟩ := by
    have read := read?_append (isDigit_of_mem_toDigits (n := k)) Nat.toDigits_ne_nil
      stops_nil
    rw [List.append_nil] at read
    rw [Nat.toList_repr, read]
    rfl
  have printed : toString n = if 0 ≤ n then n.toNat.repr else "-" ++ (-n).toNat.repr :=
    Int.repr_eq_if
  rw [printed]
  split
  · refine ⟨_, plain _, rfl, rfl, ?_⟩
    rw [signedValue, if_neg (Option.some_ne_none '-').symm, ofDigits_toDigits]
    omega
  · rw [String.toList_append]
    refine ⟨_, read?_minus (plain _) rfl, rfl, rfl, ?_⟩
    rw [signedValue, if_pos rfl, ofDigits_toDigits]
    omega

theorem eq_of_toString {m n : Int} (same : toString m = toString n) : m = n := by
  obtain ⟨p, read, -, -, value⟩ := read?_toString m
  obtain ⟨q, read', -, -, value'⟩ := read?_toString n
  rw [same, read', Option.some.injEq] at read
  exact value.symm.trans (read ▸ value')

end Numeral
end ShapeCheck
