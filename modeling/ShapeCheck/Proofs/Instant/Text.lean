import Mathlib.Tactic.SplitIfs
import ShapeCheck.Instant
import ShapeCheck.Proofs.Calendar
import ShapeCheck.Proofs.Numeral

namespace ShapeCheck

namespace Text
open Numeral

theorem isDigit_of_mem_padded (width n : Nat) :
    ∀ c ∈ (padded width n).toList, c.isDigit = true := by
  intro c member
  rw [padded, String.toList_ofList, List.mem_append] at member
  exact member.elim (isDigit_of_mem_zeros c) (isDigit_of_mem_toDigits c)

theorem ofDigits_padded (width n : Nat) : ofDigits (digitsOf (padded width n).toList) = n := by
  rw [padded, String.toList_ofList, digitsOf, List.map_append, ofDigits_append, ← digitsOf,
    ← digitsOf, ofDigits_zeros, ofDigits_toDigits, Nat.zero_mul, Nat.zero_add]

theorem padded_ne_nil (width n : Nat) : (padded width n).toList ≠ [] := by
  rw [padded, String.toList_ofList]
  exact List.append_ne_nil_of_right_ne_nil _ Nat.toDigits_ne_nil

theorem padded_append_inj {width m n : Nat} {c : Char} {rest rest' : List Char}
    (other : c.isDigit = false)
    (same : (padded width m).toList ++ c :: rest = (padded width n).toList ++ c :: rest') :
    m = n ∧ rest = rest' := by
  have stops : Stops (c :: rest) := stops_cons other
  have taken := takeDigits_append (isDigit_of_mem_padded width m) stops
  rw [same, takeDigits_append (isDigit_of_mem_padded width n) (stops_cons other)] at taken
  injection taken with digits rests
  refine ⟨?_, (List.cons.inj rests).2.symm⟩
  rw [← ofDigits_padded width m, ← ofDigits_padded width n, digits]

end Text

namespace Instant
open Numeral Text

def yearSign (year : Int) : Option Char :=
  if 0 ≤ year ∧ year ≤ 9999 then none else if year < 0 then some '-' else some '+'

theorem toList_yearText (year : Int) :
    (yearText year).toList = (yearSign year).toList ++ (padded 4 year.natAbs).toList := by
  unfold yearText yearSign
  split
  · have size : year.toNat = year.natAbs := by omega
    simp [size]
  · split <;> simp

theorem takeSign_yearSign (year : Int) (width n : Nat) (rest : List Char) :
    takeSign ((yearSign year).toList ++ ((padded width n).toList ++ rest)) =
      (yearSign year, (padded width n).toList ++ rest) := by
  have plain :
      takeSign ((padded width n).toList ++ rest) = (none, (padded width n).toList ++ rest) := by
    obtain ⟨c, cs, same⟩ := List.exists_cons_of_ne_nil (padded_ne_nil width n)
    rw [same]
    apply takeSign_of_isDigit
    exact isDigit_of_mem_padded width n c (same ▸ List.mem_cons_self)
  unfold yearSign
  split
  · rw [Option.toList_none, List.nil_append, plain]
  · split <;> rw [Option.toList_some, List.cons_append, List.nil_append, takeSign]

theorem eq_of_yearSign {y y' : Int} (sign : yearSign y = yearSign y')
    (size : y.natAbs = y'.natAbs) : y = y' := by
  unfold yearSign at sign
  split_ifs at sign <;> first | omega | cases sign

def ofDay (i : Instant) : Nat :=
  (i.millis - min i.millis last / dayLength * dayLength).toNat

theorem millis_eq (i : Instant) : i.millis = min i.millis last / dayLength * dayLength +
    (i.ofDay / 1000 * 1000 + i.ofDay % 1000 : Nat) := by
  rw [ofDay, dayLength]
  omega

-- Seconds beyond the last one of a day are shown in the last minute.
theorem seconds_eq (s : Nat) : min s 86399 / 3600 * 3600 + min s 86399 / 60 % 60 * 60 +
    (min s 86399 % 60 + (s - min s 86399)) = s := by
  omega

theorem toIso_inj {i j : Instant} (same : i.toIso = j.toIso) : i = j := by
  replace same := congrArg String.toList same
  simp only [toIso, timeText, String.toList_append, List.append_assoc, toList_yearText,
    String.reduceToList, List.cons_append, List.nil_append] at same
  have signs := congrArg takeSign same
  rw [takeSign_yearSign, takeSign_yearSign] at signs
  obtain ⟨sign, unsigned⟩ := Prod.mk.inj signs
  -- All other parts have fixed places, so they can be taken off one after another.
  obtain ⟨year, unsigned⟩ := padded_append_inj rfl unsigned
  obtain ⟨month, unsigned⟩ := padded_append_inj rfl unsigned
  obtain ⟨dayOfMonth, unsigned⟩ := padded_append_inj rfl unsigned
  obtain ⟨hour, unsigned⟩ := padded_append_inj rfl unsigned
  obtain ⟨minute, unsigned⟩ := padded_append_inj rfl unsigned
  obtain ⟨second, unsigned⟩ := padded_append_inj rfl unsigned
  obtain ⟨thousandth, -⟩ := padded_append_inj rfl unsigned
  have dates : Calendar.dateOf (min i.millis last / dayLength) =
      Calendar.dateOf (min j.millis last / dayLength) := by
    rw [CalendarDate.mk.injEq]
    exact ⟨eq_of_yearSign sign year, month, dayOfMonth⟩
  have day := Calendar.dayNumber_dateOf (min i.millis last / dayLength)
  rw [dates, Calendar.dayNumber_dateOf] at day
  have seconds : i.ofDay / 1000 = j.ofDay / 1000 := by
    rw [← seconds_eq (i.ofDay / 1000), ← seconds_eq (j.ofDay / 1000)]
    rw [ofDay, ofDay, hour, minute, second]
  have millis : i.millis = j.millis := by
    rw [i.millis_eq, j.millis_eq, ← day, seconds]
    rw [ofDay, ofDay, thousandth]
  cases i
  cases j
  exact congrArg mk millis

end Instant
end ShapeCheck
