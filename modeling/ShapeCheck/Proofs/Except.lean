import Mathlib.Init

namespace ShapeCheck

variable {ε α β π : Type}

theorem bind_eq_ok {x : Except ε α} {f : α → Except ε β} {b : β} :
    (x >>= f) = .ok b ↔ ∃ a, x = .ok a ∧ f a = .ok b := by
  cases x <;> simp [bind, Except.bind]

theorem pure_eq_ok {a b : α} : (pure a : Except ε α) = .ok b ↔ b = a := by
  simp [pure, Except.pure, eq_comm]

def error? : Except ε α → Option ε
  | .ok _ => none
  | .error e => some e

theorem error?_eq_none {x : Except ε α} : error? x = none ↔ ∃ a, x = .ok a := by
  cases x <;> simp [error?]

theorem error?_eq_some {x : Except ε α} {e : ε} : error? x = some e ↔ x = .error e := by
  cases x <;> simp [error?]

/-- Whether a computation fails with the first fault among some places, and succeeds when none of
them has a fault. -/
def StopsAtFirst (fault? : π → Option ε) (places : List π) (x : Except ε α) : Prop :=
  match places.findSome? fault? with
  | none => ∃ a, x = .ok a
  | some e => x = .error e

namespace StopsAtFirst

variable {fault? : π → Option ε} {places others : List π} {x : Except ε α}

theorem nil (a : α) : StopsAtFirst fault? [] (.ok a) :=
  ⟨a, rfl⟩

theorem cons_iff {p : π} (clear : fault? p = none) :
    StopsAtFirst fault? (p :: places) x ↔ StopsAtFirst fault? places x := by
  rw [StopsAtFirst, StopsAtFirst, List.findSome?_cons, clear]

theorem cons_error {p : π} {e : ε} (fault : fault? p = some e) :
    StopsAtFirst fault? (p :: places) (.error e : Except ε α) := by
  rw [StopsAtFirst, List.findSome?_cons, fault]

theorem bind {f : α → Except ε β} (first : StopsAtFirst fault? places x)
    (next : ∀ a, StopsAtFirst fault? others (f a)) :
    StopsAtFirst fault? (places ++ others) (x >>= f) := by
  unfold StopsAtFirst at first
  split at first
  next none =>
    obtain ⟨a, rfl⟩ := first
    have rest := next a
    unfold StopsAtFirst at rest ⊢
    rwa [List.findSome?_append, none, Option.none_or]
  next e some =>
    unfold StopsAtFirst
    rw [List.findSome?_append, some, first]
    rfl

theorem single (f : π → Except ε α) (p : π) : StopsAtFirst (fun p => error? (f p)) [p] (f p) := by
  cases h : f p with
  | ok a => exact (cons_iff (error?_eq_none.2 ⟨a, h⟩)).2 (nil a)
  | error e => exact cons_error (error?_eq_some.2 h)

theorem map (first : StopsAtFirst fault? places x) (f : α → β) :
    StopsAtFirst fault? places (x >>= fun a => pure (f a)) := by
  rw [← List.append_nil places]
  exact first.bind fun a => nil (f a)

theorem error_iff (first : StopsAtFirst fault? places x) {e : ε} :
    x = .error e ↔
      ∃ before p after, places = before ++ p :: after ∧ fault? p = some e ∧
        ∀ q ∈ before, fault? q = none := by
  rw [← List.findSome?_eq_some_iff]
  unfold StopsAtFirst at first
  split at first
  next none =>
    obtain ⟨a, rfl⟩ := first
    simp [none]
  next e' some =>
    rw [first, some]
    simp

theorem exists_error_iff (first : StopsAtFirst fault? places x) :
    (∃ e, x = .error e) ↔ ∃ p ∈ places, (fault? p).isSome := by
  unfold StopsAtFirst at first
  split at first
  next none =>
    obtain ⟨a, rfl⟩ := first
    rw [List.findSome?_eq_none_iff] at none
    refine iff_of_false (by simp) fun ⟨p, member, faulty⟩ => ?_
    rw [none p member] at faulty
    cases faulty
  next e some =>
    obtain ⟨p, member, fault⟩ := List.exists_of_findSome?_eq_some some
    exact iff_of_true ⟨e, first⟩ ⟨p, member, by rw [fault]; rfl⟩

end StopsAtFirst

/-- Whether two computations fail with one error, or both succeed with results that are related. -/
inductive Alike (R : α → β → Prop) : Except ε α → Except ε β → Prop
  | ok {a : α} {b : β} (related : R a b) : Alike R (.ok a) (.ok b)
  | error (e : ε) : Alike R (.error e) (.error e)

theorem Alike.bind {γ δ : Type} {R : α → β → Prop} {S : γ → δ → Prop} {x : Except ε α}
    {y : Except ε β} {f : α → Except ε γ} {g : β → Except ε δ} (alike : Alike R x y)
    (next : ∀ a b, R a b → Alike S (f a) (g b)) : Alike S (x >>= f) (y >>= g) := by
  cases alike with
  | ok related => exact next _ _ related
  | error e => exact .error e

theorem Alike.map {γ δ : Type} {R : α → β → Prop} {S : γ → δ → Prop} {x : Except ε α}
    {y : Except ε β} {f : α → γ} {g : β → δ} (alike : Alike R x y)
    (each : ∀ a b, R a b → S (f a) (g b)) :
    Alike S (x >>= fun a => pure (f a)) (y >>= fun b => pure (g b)) :=
  alike.bind fun a b related => .ok (each a b related)

end ShapeCheck
