import ShapeCheck.Proofs.Numeral
import ShapeCheck.Value.Property

namespace ShapeCheck

namespace Text

theorem readDigits?_of_digits {cs : List Char} (digits : ∀ c ∈ cs, c.isDigit = true) (value : Nat) :
    readDigits? value cs = some (Nat.ofDigitChars 10 cs value) := by
  induction cs generalizing value with
  | nil => rfl
  | cons c rest ih =>
      rw [List.forall_mem_cons] at digits
      simp only [readDigits?, digitValue?_of_isDigit digits.1]
      rw [ih digits.2, Nat.ofDigitChars_cons, Nat.mul_comm]

theorem readDigits?_toString (i : Nat) : readDigits? 0 (toString i).toList = some i := by
  rw [Nat.toString_eq_repr, Nat.toList_repr, readDigits?_of_digits isDigit_of_mem_toDigits,
    Nat.ofDigitChars_ten_toDigits]

theorem index?_eq_some_iff {key : String} {i : Nat} : index? key = some i ↔ key = toString i := by
  constructor
  · intro read
    unfold index? at read
    split at read
    · cases read
    · split at read
      next same => rw [← Option.some.inj read, same]
      next => cases read
  · rintro rfl
    rw [index?, readDigits?_toString]
    exact if_pos rfl

theorem toString_inj {i j : Nat} (same : toString i = toString j) : i = j :=
  Option.some.inj ((index?_eq_some_iff.2 rfl).symm.trans (index?_eq_some_iff.2 same))

end Text

namespace Value

theorem toString_ne_length (i : Nat) : toString i ≠ "length" := by
  intro same
  have read := Text.index?_eq_some_iff.2 same.symm
  cases read

theorem get_array_position (id : Identity) (items : List Value) (i : Nat) :
    (array id items).get (toString i) = items.getD i undefined := by
  rw [get, if_neg (toString_ne_length i), itemAt, Text.index?_eq_some_iff.2 rfl]

end Value
end ShapeCheck
