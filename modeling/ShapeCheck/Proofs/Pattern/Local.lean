import ShapeCheck.Pattern.Lexical

namespace ShapeCheck.Pattern

variable {α β : Type}

/-- How the reading of a text with `)` after it, on the right, follows from the reading of the text
alone, on the left. -/
inductive Follows : Option (α × List Char) → Option (α × List Char) → Prop
  | fails : Follows none none
  /-- What the text leaves open takes the `)` with it. -/
  | completes (a : α) : Follows none (some (a, []))
  | keeps (a : α) (r : List Char) : Follows (some (a, r)) (some (a, r ++ [')']))
  /-- A comment that the text leaves open swallows the `)`. -/
  | swallows (a : α) : Follows (some (a, [])) (some (a, []))

/-- Whether a reader takes a `)` after its text only with the end of the text. -/
structure Local (read : List Char → Option (α × List Char)) : Prop where
  le {cs : List Char} {a : α} {r : List Char} : read cs = some (a, r) → r.length ≤ cs.length
  follows (cs : List Char) : Follows (read cs) (read (cs ++ [')']))

theorem eq_nil_of_le {r : List Char} (h : r.length ≤ ([] : List Char).length) : r = [] :=
  List.eq_nil_of_length_eq_zero (Nat.le_zero.1 h)

theorem Local.nothing {read : List Char → Option (α × List Char)} (h : Local read) {a : α}
    {r : List Char} (eq : read [] = some (a, r)) : r = [] :=
  eq_nil_of_le (h.le eq)

namespace Follows

theorem of_nothing {p : Option (α × List Char)} (h : ∀ {a r}, p = some (a, r) → r = []) :
    Follows p p := by
  cases p with
  | none => exact .fails
  | some x =>
      obtain ⟨a, r⟩ := x
      cases h rfl
      exact .swallows a

theorem bind_of {p q : Option (α × List Char)} {f : α × List Char → Option (β × List Char)}
    (h : Follows p q) (nothing : ∀ {a b r}, f (a, []) = some (b, r) → r = [])
    (each : ∀ a r, p = some (a, r) → Follows (f (a, r)) (f (a, r ++ [')']))) :
    Follows (p.bind f) (q.bind f) := by
  cases h with
  | fails => exact .fails
  | completes a =>
      simp only [Option.bind_none, Option.bind_some]
      cases read : f (a, []) with
      | none => exact .fails
      | some x =>
          obtain ⟨b, r⟩ := x
          cases nothing read
          exact .completes b
  | keeps a r => exact each a r rfl
  | swallows a => exact of_nothing nothing

theorem bind {p q : Option (α × List Char)} {f : α × List Char → Option (β × List Char)}
    (h : Follows p q) (each : ∀ a, Local fun r => f (a, r)) :
    Follows (p.bind f) (q.bind f) :=
  h.bind_of (fun read => (each _).nothing read) fun a r _ => (each a).follows r

theorem map {p q : Option (α × List Char)} (f : α → β) (h : Follows p q) :
    Follows (p.map fun x => (f x.1, x.2)) (q.map fun x => (f x.1, x.2)) := by
  cases h with
  | fails => exact .fails
  | completes a => exact .completes (f a)
  | keeps a r => exact .keeps (f a) r
  | swallows a => exact .swallows (f a)

end Follows

namespace Local

theorem pure (a : α) : Local fun cs => some (a, cs) where
  le h := by
    cases h
    exact Nat.le_refl _
  follows cs := .keeps a cs

theorem total {read : List Char → α × List Char} (le : ∀ cs, (read cs).2.length ≤ cs.length)
    (follows : ∀ cs, Follows (some (read cs)) (some (read (cs ++ [')'])))) :
    Local fun cs => some (read cs) where
  le {cs a r} h := by
    have := le cs
    rw [Option.some.inj h] at this
    exact this
  follows := follows

theorem bind {read : List Char → Option (α × List Char)}
    {f : α × List Char → Option (β × List Char)} (h : Local read)
    (each : ∀ a, Local fun r => f (a, r)) : Local fun cs => (read cs).bind f where
  le eq := by
    obtain ⟨⟨a, r⟩, first, rest⟩ := Option.bind_eq_some_iff.1 eq
    exact Nat.le_trans ((each a).le rest) (h.le first)
  follows cs := (h.follows cs).bind each

theorem bind_option (o : Option α) {read : α → List Char → Option (β × List Char)}
    (each : ∀ a, Local (read a)) : Local fun cs => o.bind fun a => read a cs := by
  cases o with
  | none =>
      exact {
        le := fun h => by cases h
        follows := fun _ => .fails }
  | some a => exact each a

theorem map_option (o : Option α) (f : α → β) : Local fun cs => o.map fun a => (f a, cs) := by
  simp only [Option.map_eq_bind]
  exact bind_option o fun a => .pure (f a)

end Local

theorem not_head_append (signs : List Char) {cs : List Char}
    (other : ∀ rest, cs = signs ++ rest → False) (ne : ')' ∉ signs) :
    ∀ rest, cs ++ [')'] = signs ++ rest → False := by
  intro rest eq
  rcases List.prefix_concat_iff.1 ⟨rest, eq.symm⟩ with same | ⟨rest', eq'⟩
  · exact ne (by simp [same])
  · exact other rest' eq'.symm

theorem dropBlanks_append (inComment : Bool) (cs : List Char) :
    dropBlanks inComment (cs ++ [')']) = dropBlanks inComment cs ++ [')'] ∨
      dropBlanks inComment cs = [] ∧ dropBlanks inComment (cs ++ [')']) = [] := by
  induction cs generalizing inComment with
  | nil => cases inComment <;> decide
  | cons c rest ih =>
      simp only [List.cons_append, dropBlanks]
      split
      · exact ih _
      · split
        · exact ih _
        · split
          · exact ih _
          · exact .inl rfl

theorem skip_append (verbose : Bool) (cs : List Char) :
    skip verbose (cs ++ [')']) = skip verbose cs ++ [')'] ∨
      skip verbose cs = [] ∧ skip verbose (cs ++ [')']) = [] := by
  cases verbose with
  | false => exact .inl rfl
  | true => exact dropBlanks_append false cs

theorem local_skip (verbose : Bool) (a : α) : Local fun cs => some (a, skip verbose cs) where
  le h := by
    cases h
    exact length_skip_le _ _
  follows cs := by
    rcases skip_append verbose cs with same | ⟨empty, swallowed⟩
    · rw [same]
      exact .keeps a _
    · rw [empty, swallowed]
      exact .swallows a

@[simp]
theorem skip_nil (verbose : Bool) : skip verbose [] = [] := by
  cases verbose <;> rfl

theorem Follows.skip {verbose : Bool} {cs : List Char} (read : List Char → Option (α × List Char))
    (nothing : ∀ {a r}, read [] = some (a, r) → r = [])
    (h : Follows (read (skip verbose cs)) (read (skip verbose cs ++ [')']))) :
    Follows (read (skip verbose cs)) (read (skip verbose (cs ++ [')']))) := by
  rcases skip_append verbose cs with same | ⟨empty, swallowed⟩
  · rw [same]
    exact h
  · rw [empty, swallowed]
    exact .of_nothing nothing

theorem Local.skip {read : List Char → Option (α × List Char)} (h : Local read) (verbose : Bool) :
    Local fun cs => read (skip verbose cs) where
  le eq := Nat.le_trans (h.le eq) (length_skip_le _ _)
  follows _ := .skip read h.nothing (h.follows _)

theorem isBlank_close : isBlank ')' = false := by
  decide

theorem dropWhile_isBlank_append (cs : List Char) :
    (cs ++ [')']).dropWhile isBlank = cs.dropWhile isBlank ++ [')'] := by
  rw [List.dropWhile_append]
  split
  next empty =>
    rw [List.isEmpty_iff.1 empty, List.dropWhile_cons_of_neg (by simp [isBlank_close])]
    rfl
  · rfl

end ShapeCheck.Pattern
