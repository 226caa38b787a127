import ShapeCheck.Proofs.Pattern.Positions

namespace ShapeCheck.Pattern

def before (text : List Char) : Nat → Option Char
  | 0 => none
  | i + 1 => text[i]?

namespace Tree

/-- Whether a pattern matches the part of a text from one position to another. After the least number
of repetitions there are as many more as the greatest leaves. -/
def Spans (text : List Char) : Tree → Nat → Nat → Prop
  | .empty, i, j => j = i
  | .take set, i, j => ∃ c, text[i]? = some c ∧ set.contains c.toNat = true ∧ j = i + 1
  | .ask place, i, j => i ≤ text.length ∧ place.holds (before text i) text[i]? = true ∧ j = i
  | .seq first second, i, j => ∃ k, Spans text first i k ∧ Spans text second k j
  | .alt first second, i, j => Spans text first i j ∨ Spans text second i j
  | .times body least most, i, j =>
    ∃ more, (∀ m, most = some m → more ≤ m - least) ∧ Repeats (Spans text body) (least + more) i j

variable {text : List Char} {t : Tree} {i j : Nat}

theorem Spans.forward (h : t.Spans text i j) : i ≤ j ∧ (j = i ∨ j ≤ text.length) := by
  induction t generalizing i j with
  | empty =>
      cases h
      exact ⟨Nat.le_refl _, .inl rfl⟩
  | take set =>
      obtain ⟨c, there, _, rfl⟩ := h
      have := (List.getElem?_eq_some_iff.1 there).1
      exact ⟨Nat.le_succ _, .inr this⟩
  | ask place =>
      obtain ⟨_, _, rfl⟩ := h
      exact ⟨Nat.le_refl _, .inl rfl⟩
  | seq first second ih₁ ih₂ =>
      obtain ⟨k, h₁, h₂⟩ := h
      have := ih₁ h₁
      have := ih₂ h₂
      omega
  | alt first second ih₁ ih₂ =>
      rcases h with h₁ | h₂
      · exact ih₁ h₁
      · exact ih₂ h₂
  | times body least most ih =>
      obtain ⟨more, _, path⟩ := h
      generalize least + more = n at path
      -- The number of repetitions has no bound in the tree, so this is an induction of its own.
      induction n generalizing i with
      | zero =>
          cases path
          exact ⟨Nat.le_refl _, .inl rfl⟩
      | succ n again =>
          obtain ⟨k, first, rest⟩ := path
          have := ih first
          have := again rest
          omega

theorem testBit_ofAnswers (answers : List Bool) (i : Nat) :
    Nat.testBit (Positions.ofAnswers answers) i = answers[i]?.getD false := by
  induction answers generalizing i with
  | nil => simp [Positions.ofAnswers]
  | cons b rest ih =>
      cases i with
      | zero => cases b <;> simp [Positions.ofAnswers]
      | succ i =>
          rw [Nat.testBit_succ, List.getElem?_cons_succ, ← ih]
          congr 1
          cases b with
          | false => simp [Positions.ofAnswers]
          | true =>
              simp only [Positions.ofAnswers, Bool.toNat_true]
              omega

theorem getElem?_surroundings (previous : Option Char) (text : List Char) (i : Nat) :
    (surroundings previous text)[i]? =
      if i ≤ text.length then some (if i = 0 then previous else before text i, text[i]?) else none := by
  induction text generalizing previous i with
  | nil => cases i <;> simp [surroundings]
  | cons c rest ih =>
      cases i with
      | zero => simp [surroundings]
      | succ i =>
          rw [surroundings, List.getElem?_cons_succ, ih]
          cases i <;> simp [before]

theorem testBit_place (place : Place) (text : List Char) (i : Nat) :
    Nat.testBit (Positions.ofAnswers
      ((surroundings none text).map fun p => place.holds p.1 p.2)) i = true ↔
      i ≤ text.length ∧ place.holds (before text i) text[i]? = true := by
  rw [testBit_ofAnswers, List.getElem?_map, getElem?_surroundings]
  by_cases inside : i ≤ text.length
  · cases i <;> simp [inside, before]
  · simp [inside]

theorem testBit_set (set : Unicode.CharSet) (text : List Char) (i : Nat) :
    Nat.testBit (Positions.ofAnswers (text.map fun c => set.contains c.toNat)) i = true ↔
      ∃ c, text[i]? = some c ∧ set.contains c.toNat = true := by
  rw [testBit_ofAnswers, List.getElem?_map]
  cases text[i]? <;> simp

theorem computes_ends (t : Tree) (text : List Char) :
    Positions.Computes (t.ends text) (t.Spans text) := by
  induction t with
  | empty =>
      intro s j
      simp [ends, on, Node.map, Node.reach, Spans]
  | take set =>
      intro s j
      simp only [ends, on, Node.map, Node.reach, Spans, Nat.testBit_shiftLeft, Nat.testBit_and,
        Bool.and_eq_true, decide_eq_true_eq, testBit_set]
      constructor
      · intro given
        obtain ⟨positive, start, c, there, member⟩ := given
        exact ⟨j - 1, start, c, there, member, by omega⟩
      · intro given
        obtain ⟨i, start, c, there, member, rfl⟩ := given
        exact ⟨Nat.le_add_left 1 i, start, c, there, member⟩
  | ask place =>
      intro s j
      simp only [ends, on, Node.map, Node.reach, Spans, Nat.testBit_and, Bool.and_eq_true,
        testBit_place]
      constructor
      · intro given
        obtain ⟨start, inside, holds⟩ := given
        exact ⟨j, start, inside, holds, rfl⟩
      · intro given
        obtain ⟨i, start, inside, holds, rfl⟩ := given
        exact ⟨start, inside, holds⟩
  | seq first second ih₁ ih₂ =>
      intro s j
      refine (ih₂ _ j).trans ?_
      constructor
      · intro given
        obtain ⟨k, reached, h₂⟩ := given
        obtain ⟨i, start, h₁⟩ := (ih₁ s k).1 reached
        exact ⟨i, start, k, h₁, h₂⟩
      · intro given
        obtain ⟨i, start, k, h₁, h₂⟩ := given
        exact ⟨k, (ih₁ s k).2 ⟨i, start, h₁⟩, h₂⟩
  | alt first second ih₁ ih₂ =>
      intro s j
      have either : Nat.testBit (ends (.alt first second) text s) j =
          (Nat.testBit (ends first text s) j || Nat.testBit (ends second text s) j) :=
        Nat.testBit_or ..
      rw [either, Bool.or_eq_true, ih₁ s j, ih₂ s j]
      constructor
      · intro given
        rcases given with ⟨i, start, h₁⟩ | ⟨i, start, h₂⟩
        · exact ⟨i, start, .inl h₁⟩
        · exact ⟨i, start, .inr h₂⟩
      · intro given
        rcases given with ⟨i, start, h₁ | h₂⟩
        · exact .inl ⟨i, start, h₁⟩
        · exact .inr ⟨i, start, h₂⟩
  | times body least most ih =>
      intro s j
      refine (Positions.computes_close ih _ _ j).trans ?_
      constructor
      · intro given
        obtain ⟨k, reached, more, few, rest⟩ := given
        obtain ⟨i, start, first⟩ := (Positions.computes_iterate ih least s k).1 reached
        refine ⟨i, start, more, ?_, Repeats.add_iff.2 ⟨k, first, rest⟩⟩
        rintro m rfl
        exact few
      · intro given
        obtain ⟨i, start, more, few, path⟩ := given
        obtain ⟨k, first, rest⟩ := Repeats.add_iff.1 path
        obtain ⟨more', near, fewer, short⟩ := rest.shorten fun i j h => h.forward.1
        refine ⟨k, (Positions.computes_iterate ih least s k).2 ⟨i, start, first⟩, more', ?_, short⟩
        cases most with
        | none =>
            -- A path that moves on in each of its steps has no more steps than the text has places.
            have := Spans.forward (t := .times body 0 none) ⟨more', by simp, by simpa using short⟩
            show more' ≤ text.length + 1
            omega
        | some m => exact fewer.trans (few m rfl)

theorem testBit_ends (t : Tree) (text : List Char) (s : Positions) (j : Nat) :
    Nat.testBit (t.ends text s) j = true ↔ ∃ i, Nat.testBit s i = true ∧ t.Spans text i j :=
  computes_ends t text s j

theorem isMatch_iff (t : Tree) (text : List Char) :
    t.isMatch text = true ↔ ∃ i ≤ text.length, ∃ j, t.Spans text i j := by
  have everywhere (i : Nat) :
      Nat.testBit (1 <<< (text.length + 1) - 1) i = true ↔ i ≤ text.length := by
    rw [Nat.one_shiftLeft, Nat.testBit_two_pow_sub_one, decide_eq_true_eq, Nat.lt_succ_iff]
  rw [isMatch, bne_iff_ne]
  constructor
  · intro nonempty
    obtain ⟨j, found⟩ := Nat.exists_testBit_of_ne_zero nonempty
    obtain ⟨i, start, spans⟩ := (testBit_ends t text _ j).1 found
    exact ⟨i, (everywhere i).1 start, j, spans⟩
  · rintro ⟨i, inside, j, spans⟩ empty
    have found := (testBit_ends t text _ j).2 ⟨i, (everywhere i).2 inside, spans⟩
    simp [empty] at found

end Tree
end ShapeCheck.Pattern
