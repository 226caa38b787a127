import Mathlib.Data.Nat.Bitwise
import ShapeCheck.Pattern.Matching

namespace ShapeCheck.Pattern

def Repeats (R : Nat → Nat → Prop) : Nat → Nat → Nat → Prop
  | 0, i, j => j = i
  | n + 1, i, j => ∃ k, R i k ∧ Repeats R n k j

namespace Repeats

variable {R : Nat → Nat → Prop} {m n i j : Nat}

theorem add_iff : Repeats R (m + n) i j ↔ ∃ k, Repeats R m i k ∧ Repeats R n k j := by
  induction m generalizing i with
  | zero => simp [Repeats]
  | succ m ih =>
      rw [Nat.succ_add]
      simp only [Repeats, ih]
      constructor
      · intro given
        obtain ⟨k, first, l, rest, last⟩ := given
        exact ⟨l, ⟨k, first, rest⟩, last⟩
      · intro given
        obtain ⟨l, ⟨k, first, rest⟩, last⟩ := given
        exact ⟨k, first, l, rest, last⟩

theorem le (forward : ∀ i j, R i j → i ≤ j) (h : Repeats R n i j) : i ≤ j := by
  induction n generalizing i with
  | zero => exact (Eq.symm h).le
  | succ n ih =>
      obtain ⟨k, first, rest⟩ := h
      exact (forward i k first).trans (ih rest)

theorem shorten (forward : ∀ i j, R i j → i ≤ j) (h : Repeats R n i j) :
    ∃ m ≤ j - i, m ≤ n ∧ Repeats R m i j := by
  induction n generalizing i with
  | zero => exact ⟨0, Nat.zero_le _, Nat.le_refl _, h⟩
  | succ n ih =>
      obtain ⟨k, first, rest⟩ := h
      obtain ⟨m, near, fewer, short⟩ := ih rest
      have i_le_k := forward i k first
      have k_le_j := rest.le forward
      by_cases stays : k = i
      · subst stays
        exact ⟨m, near, by omega, short⟩
      · exact ⟨m + 1, by omega, by omega, k, first, short⟩

end Repeats

namespace Positions

def Computes (f : Positions → Positions) (R : Nat → Nat → Prop) : Prop :=
  ∀ s j, (f s).testBit j = true ↔ ∃ i, Nat.testBit s i = true ∧ R i j

variable {f : Positions → Positions} {R : Nat → Nat → Prop}

theorem iterate_of_fixed {s : Positions} (fixed : f s = s) (n : Nat) : iterate f n s = s := by
  cases n with
  | zero => rfl
  | succ n => rw [iterate, if_pos fixed]

theorem iterate_succ (f : Positions → Positions) (n : Nat) (s : Positions) :
    iterate f (n + 1) s = iterate f n (f s) := by
  rw [iterate]
  split
  next fixed => rw [fixed, iterate_of_fixed fixed]
  · rfl

theorem computes_iterate (h : Computes f R) (n : Nat) : Computes (iterate f n) (Repeats R n) := by
  intro s j
  induction n generalizing s with
  | zero => simp [iterate, Repeats]
  | succ n ih =>
      rw [iterate_succ, ih]
      constructor
      · intro given
        obtain ⟨k, found, rest⟩ := given
        obtain ⟨i, start, first⟩ := (h s k).1 found
        exact ⟨i, start, k, first, rest⟩
      · intro given
        obtain ⟨i, start, k, first, rest⟩ := given
        exact ⟨k, (h s k).2 ⟨i, start, first⟩, rest⟩

@[simp]
theorem testBit_without (s t : Positions) (i : Nat) :
    Nat.testBit (without s t) i = (Nat.testBit s i && !Nat.testBit t i) := by
  simp only [without, Nat.testBit_xor, Nat.testBit_and]
  cases Nat.testBit s i <;> cases Nat.testBit t i <;> rfl

theorem leaves {seen found : Nat → Prop} (closed : ∀ i j, seen i → R i j → seen j ∨ found j)
    {n i j : Nat} (start : seen i) (h : Repeats R n i j) :
    seen j ∨ ∃ m < n, ∃ k, found k ∧ Repeats R m k j := by
  induction n generalizing i with
  | zero =>
      cases h
      exact .inl start
  | succ n ih =>
      obtain ⟨k, first, rest⟩ := h
      rcases closed i k start first with inside | outside
      · obtain stays | ⟨m, fewer, l, left, short⟩ := ih inside rest
        · exact .inl stays
        · exact .inr ⟨m, Nat.lt_succ_of_lt fewer, l, left, short⟩
      · exact .inr ⟨n, Nat.lt_succ_self n, k, outside, rest⟩

/-- The invariant of `close` is that one step from a seen position outside the border leads only to
seen positions. -/
theorem testBit_close (h : Computes f R) {rounds : Nat} {seen border : Positions}
    (within : ∀ i, Nat.testBit border i = true → Nat.testBit seen i = true)
    (closed : ∀ i j, Nat.testBit seen i = true → Nat.testBit border i = false → R i j →
      Nat.testBit seen j = true) (j : Nat) :
    Nat.testBit (close f rounds seen border) j = true ↔
      Nat.testBit seen j = true ∨
        ∃ n ≤ rounds, ∃ i, Nat.testBit border i = true ∧ Repeats R n i j := by
  induction rounds generalizing seen border with
  | zero =>
      simp only [close]
      constructor
      · exact .inl
      · intro given
        rcases given with found | ⟨n, few, i, start, path⟩
        · exact found
        · obtain rfl : n = 0 := Nat.le_zero.1 few
          obtain rfl : j = i := path
          exact within j start
  | succ rounds ih =>
      have found_iff (k : Nat) : Nat.testBit (without (f border) seen) k = true ↔
          (∃ i, Nat.testBit border i = true ∧ R i k) ∧ Nat.testBit seen k = false := by
        rw [testBit_without, Bool.and_eq_true, h border k, Bool.not_eq_true']
      have step (i k : Nat) (inside : Nat.testBit seen i = true) (first : R i k) :
          Nat.testBit seen k = true ∨ Nat.testBit (without (f border) seen) k = true := by
        cases old : Nat.testBit seen k with
        | true => exact .inl rfl
        | false =>
            cases edge : Nat.testBit border i with
            | true => exact .inr ((found_iff k).2 ⟨⟨i, edge, first⟩, old⟩)
            | false => exact absurd (closed i k inside edge first) (by simp [old])
      simp only [close]
      split
      next nothing =>
        constructor
        · exact .inl
        · intro given
          rcases given with found | ⟨n, _, i, start, path⟩
          · exact found
          · rcases leaves step (within i start) path with stays | ⟨_, _, k, left, _⟩
            · exact stays
            · simp [nothing] at left
      next more =>
        -- The new border is what was just found: all that leaves the rest was seen before.
        rw [ih]
        · constructor
          · intro given
            rcases given with either | ⟨n, few, k, found, path⟩
            · obtain old | found := by simpa only [Nat.testBit_or, Bool.or_eq_true] using either
              · exact .inl old
              · obtain ⟨⟨i, start, first⟩, _⟩ := (found_iff j).1 found
                exact .inr ⟨1, by omega, i, start, j, first, rfl⟩
            · obtain ⟨⟨i, start, first⟩, _⟩ := (found_iff k).1 found
              exact .inr ⟨n + 1, by omega, i, start, k, first, path⟩
          · intro given
            rcases given with old | ⟨n, few, i, start, path⟩
            · exact .inl (by simp [old])
            · rcases leaves step (within i start) path with stays | ⟨m, fewer, k, left, short⟩
              · exact .inl (by simp [stays])
              · exact .inr ⟨m, by omega, k, left, short⟩
        · intro i found
          simp [found]
        · intro i k inside notFound first
          have old : Nat.testBit seen i = true := by
            simpa only [Nat.testBit_or, notFound, Bool.or_false] using inside
          rw [Nat.testBit_or, Bool.or_eq_true]
          exact step i k old first

theorem computes_close (h : Computes f R) (rounds : Nat) :
    Computes (fun s => close f rounds s s) fun i j => ∃ n ≤ rounds, Repeats R n i j := by
  intro s j
  rw [testBit_close h (fun i start => start) fun i k start outside => by simp [start] at outside]
  constructor
  · intro given
    rcases given with start | ⟨n, few, i, start, path⟩
    · exact ⟨j, start, 0, Nat.zero_le _, rfl⟩
    · exact ⟨i, start, n, few, path⟩
  · intro given
    obtain ⟨i, start, n, few, path⟩ := given
    exact .inr ⟨n, few, i, start, path⟩

end Positions
end ShapeCheck.Pattern
