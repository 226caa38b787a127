import Mathlib.Algebra.GroupWithZero.Nat
import ShapeCheck.Calendar

namespace ShapeCheck.Calendar

theorem yearStart_near (year : Int) :
    146097 * (year - 1) - 600 ≤ 400 * (yearStart year + 719162) ∧
      400 * (yearStart year + 719162) ≤ 146097 * (year - 1) + 300 := by
  simp only [yearStart]
  omega

theorem yearOf_spec (day : Int) :
    yearStart (yearOf day) ≤ day ∧ day < yearStart (yearOf day + 1) := by
  simp only [yearOf]
  have least := yearStart_near ((day + 719162) * 400 / 146097 + 1 - 1)
  have most := yearStart_near ((day + 719162) * 400 / 146097 + 1 + 1 + 1)
  split
  · rename_i before
    rw [Int.sub_add_cancel]
    exact ⟨by omega, before⟩
  · rename_i notBefore
    split
    · rename_i after
      exact ⟨after, by omega⟩
    · rename_i notAfter
      exact ⟨Int.not_lt.1 notBefore, Int.not_le.1 notAfter⟩

theorem monthAndDay_spec (month : Nat) (lengths : List Nat) (n start : Nat) :
    month ≤ (monthAndDay month lengths n).1 ∧
      (lengths.take ((monthAndDay month lengths n).1 - month)).foldl (· + ·) start +
        (monthAndDay month lengths n).2 = start + n + 1 := by
  induction lengths generalizing month n start with
  | nil =>
      rw [monthAndDay, List.take_nil, List.foldl_nil]
      exact ⟨Nat.le_refl month, rfl⟩
  | cons length rest ih =>
      rw [monthAndDay]
      split
      · dsimp only
        rw [Nat.sub_self, List.take_zero, List.foldl_nil]
        exact ⟨Nat.le_refl month, rfl⟩
      · rename_i after
        obtain ⟨later, total⟩ := ih (month + 1) (n - length) (start + length)
        have place : (monthAndDay (month + 1) rest (n - length)).1 - month =
            (monthAndDay (month + 1) rest (n - length)).1 - (month + 1) + 1 := by omega
        rw [place, List.take_succ_cons, List.foldl_cons, total]
        omega

theorem dayNumber_dateOf (day : Int) : dayNumber (dateOf day) = day := by
  obtain ⟨after, -⟩ := yearOf_spec day
  obtain ⟨-, total⟩ := monthAndDay_spec 1 (monthLengths (isLeap (yearOf day)))
    (day - yearStart (yearOf day)).toNat 0
  simp only [dayNumber, dateOf, daysBefore]
  omega

theorem yearStart_succ (year : Int) :
    yearStart (year + 1) = yearStart year + ((monthLengths (isLeap year)).sum : Nat) := by
  have length : ((monthLengths (isLeap year)).sum : Int) = if isLeap year then 366 else 365 := by
    cases isLeap year <;> rfl
  rw [length, isLeap, yearStart, yearStart]
  simp only [Bool.and_eq_true, Bool.or_eq_true, beq_iff_eq, bne_iff_ne]
  split <;> omega

theorem monthAndDay_within {month : Nat} {lengths : List Nat} {n : Nat} (inside : n < lengths.sum) :
    1 ≤ (monthAndDay month lengths n).2 ∧ (monthAndDay month lengths n).2 ≤
      lengths.getD ((monthAndDay month lengths n).1 - month) 0 := by
  induction lengths generalizing month n with
  | nil => exact absurd inside (Nat.not_lt_zero n)
  | cons length rest ih =>
      rw [monthAndDay]
      split
      · dsimp only
        rw [Nat.sub_self, List.getD_cons_zero]
        omega
      · rename_i after
        rw [List.sum_cons] at inside
        obtain ⟨least, most⟩ := @ih (month + 1) (n - length) (by omega)
        have later := (monthAndDay_spec (month + 1) rest (n - length) 0).1
        have place : (monthAndDay (month + 1) rest (n - length)).1 - month =
            (monthAndDay (month + 1) rest (n - length)).1 - (month + 1) + 1 := by omega
        rw [place, List.getD_cons_succ]
        exact ⟨least, most⟩

theorem isDate_dateOf (day : Int) : isDate (dateOf day) = true := by
  obtain ⟨after, before⟩ := yearOf_spec day
  -- The day comes before the next year, so one of the months has it.
  rw [yearStart_succ] at before
  have inside : (day - yearStart (yearOf day)).toNat < (monthLengths (isLeap (yearOf day))).sum := by
    omega
  obtain ⟨least, most⟩ := @monthAndDay_within 1 _ _ inside
  have month := (monthAndDay_spec 1 (monthLengths (isLeap (yearOf day)))
    (day - yearStart (yearOf day)).toNat 0).1
  have named : monthLength (yearOf day) (dateOf day).month =
      (monthLengths (isLeap (yearOf day))).getD ((dateOf day).month - 1) 0 :=
    if_neg (Nat.ne_of_gt month)
  rw [isDate, Bool.and_eq_true, decide_eq_true_iff, decide_eq_true_iff]
  refine ⟨least, ?_⟩
  rw [show (dateOf day).year = yearOf day from rfl, named]
  exact most

theorem lt_of_isDate {date : CalendarDate} (real : isDate date = true) :
    date.month < 13 ∧ date.day < 32 := by
  obtain ⟨year, month, day⟩ := date
  show month < 13 ∧ day < 32
  rw [isDate, Bool.and_eq_true, decide_eq_true_iff, decide_eq_true_iff, monthLength] at real
  dsimp only [List.getD] at real
  have short (leap : Bool) : ∀ length ∈ monthLengths leap, length ≤ 31 := by
    cases leap <;> decide
  split at real
  · omega
  · cases found : (monthLengths (isLeap year))[month - 1]? with
    | none =>
        rw [found, Option.getD_none] at real
        omega
    | some length =>
        obtain ⟨inside, -⟩ := List.getElem?_eq_some_iff.1 found
        have most := short _ length (List.mem_of_getElem? found)
        rw [found, Option.getD_some] at real
        rw [show (monthLengths (isLeap year)).length = 12 from rfl] at inside
        omega

end ShapeCheck.Calendar
