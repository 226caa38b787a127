import Mathlib.Data.List.Nodup
import ShapeCheck.Proofs.Rule

namespace ShapeCheck.Class

inductive Declaring (known : List Class) : Fresh Class → Prop
  | root (name : String) : Declaring known (declare name)
  | under (name : String) {parent : Class} (member : parent ∈ known) :
    Declaring known (extend name parent)

/-- The classes that a program has and the next unused number. A number may also go to a value. -/
inductive Run : List Class → Identity → Prop
  | start : Run standard firstFree
  | make {known : List Class} {next after : Identity} {action : Fresh Class} {c : Class}
    (run : Run known next) (declaring : Declaring known action)
    (made : action.run next = (c, after)) : Run (c :: known) after
  | skip {known : List Class} {next : Identity} (run : Run known next) : Run known (next + 1)

variable {c d e : Class}

/-! ## Ancestors -/

theorem ancestors_extending (id : Identity) (name : String) (parent : Class) :
    (extending id name parent).ancestors = extending id name parent :: parent.ancestors :=
  rfl

theorem self_mem_ancestors (c : Class) : c ∈ c.ancestors := by
  cases c <;> exact List.mem_cons_self

theorem getLast?_ancestors (c : Class) : c.ancestors.getLast? = some object := by
  induction c with
  | object => rfl
  | extending id name parent ih => rw [ancestors_extending, List.getLast?_cons, ih, Option.getD_some]

theorem mem_ancestors_iff : d ∈ c.ancestors ↔ d.ancestors <:+ c.ancestors := by
  constructor
  · intro up
    induction c with
    | object =>
        obtain rfl := List.mem_singleton.1 up
        exact List.suffix_rfl
    | extending id name parent ih =>
        rcases List.mem_cons.1 up with rfl | above
        · exact List.suffix_rfl
        · exact (ih above).trans (List.suffix_cons _ _)
  · exact fun rest => rest.subset d.self_mem_ancestors

theorem ancestors_inj (same : c.ancestors = d.ancestors) : c = d := by
  cases c <;> cases d <;> exact (List.cons.inj same).1

theorem mem_ancestors_trans (first : d ∈ c.ancestors) (second : e ∈ d.ancestors) :
    e ∈ c.ancestors :=
  mem_ancestors_iff.2 ((mem_ancestors_iff.1 second).trans (mem_ancestors_iff.1 first))

theorem eq_of_mem_ancestors (up : d ∈ c.ancestors) (down : c ∈ d.ancestors) : c = d := by
  have shorter := (mem_ancestors_iff.1 up).length_le
  exact ancestors_inj ((mem_ancestors_iff.1 down).eq_of_length_le shorter)

theorem notMem_ancestors_parent (id : Identity) (name : String) (parent : Class) :
    extending id name parent ∉ parent.ancestors := by
  intro above
  have longer := (mem_ancestors_iff.1 above).length_le
  rw [ancestors_extending, List.length_cons] at longer
  omega

theorem nodup_ancestors (c : Class) : c.ancestors.Nodup := by
  induction c with
  | object => exact List.nodup_singleton _
  | extending id name parent ih => exact List.nodup_cons.2 ⟨notMem_ancestors_parent id name parent, ih⟩

theorem same_self (c : Class) : c.same c = true :=
  beq_self_eq_true c.id

theorem isA_of_mem (up : d ∈ c.ancestors) : c.isA d = true :=
  List.any_eq_true.2 ⟨d, up, d.same_self⟩

theorem isA_self (c : Class) : c.isA c = true :=
  isA_of_mem c.self_mem_ancestors

theorem isA_object (c : Class) : c.isA object = true :=
  isA_of_mem (List.mem_of_getLast? c.getLast?_ancestors)

/-! ## What a run keeps -/

/-- What holds of the classes of a program: its numbers are used ones, a number belongs to one class
only, and parents are among the classes. -/
structure Sound (known : List Class) (next : Identity) : Prop where
  root : object ∈ known
  below : ∀ c ∈ known, c.id < next
  coherent : ∀ c ∈ known, ∀ d ∈ known, c.id = d.id → c = d
  parents : ∀ c ∈ known, ∀ p ∈ c.parent?, p ∈ known

variable {known : List Class} {next : Identity}

theorem Sound.skip (sound : Sound known next) : Sound known (next + 1) :=
  { sound with below := fun c member => Nat.lt_succ_of_lt (sound.below c member) }

theorem Sound.extend (sound : Sound known next) (name : String) {parent : Class}
    (member : parent ∈ known) : Sound (extending next name parent :: known) (next + 1) where
  root := List.mem_cons_of_mem _ sound.root
  below := List.forall_mem_cons.2 ⟨Nat.lt_succ_self next, sound.skip.below⟩
  coherent := by
    -- The new number is above all that were given out.
    have fresh (c : Class) (old : c ∈ known) : c.id ≠ next := Nat.ne_of_lt (sound.below c old)
    intro c memberC d memberD same
    rcases List.mem_cons.1 memberC with rfl | oldC <;> rcases List.mem_cons.1 memberD with rfl | oldD
    · rfl
    · exact absurd same.symm (fresh d oldD)
    · exact absurd same (fresh c oldC)
    · exact sound.coherent c oldC d oldD same
  parents := by
    refine List.forall_mem_cons.2 ⟨fun p isParent => ?_, fun c old p isParent => ?_⟩
    · rw [← Option.some.inj isParent]
      exact List.mem_cons_of_mem _ member
    · exact List.mem_cons_of_mem _ (sound.parents c old p isParent)

theorem Run.sound (run : Run known next) : Sound known next := by
  induction run with
  | start => exact ⟨by decide, by decide, by decide, by decide⟩
  | make _ declaring made ih =>
      cases declaring with
      | root name =>
          cases made
          exact ih.extend name ih.root
      | under name member =>
          cases made
          exact ih.extend name member
  | skip _ ih => exact ih.skip

namespace Sound

variable (sound : Sound known next)
include sound

theorem same_iff (memberC : c ∈ known) (memberD : d ∈ known) : c.same d = true ↔ c = d := by
  constructor
  · exact fun same => sound.coherent c memberC d memberD (eq_of_beq same)
  · rintro rfl
    exact c.same_self

theorem ancestors_known (memberC : c ∈ known) (up : d ∈ c.ancestors) : d ∈ known := by
  induction c with
  | object => rwa [List.mem_singleton.1 up]
  -- Parents are known too, so the walk stays among the known classes.
  | extending id name parent ih =>
      rcases List.mem_cons.1 up with rfl | above
      · exact memberC
      · exact ih (sound.parents _ memberC parent rfl) above

theorem isA_iff (memberC : c ∈ known) (memberD : d ∈ known) :
    c.isA d = true ↔ d ∈ c.ancestors := by
  constructor
  · intro isA
    obtain ⟨e, up, same⟩ := List.any_eq_true.1 isA
    rwa [← (sound.same_iff (sound.ancestors_known memberC up) memberD).1 same]
  · exact isA_of_mem

theorem isA_trans (memberC : c ∈ known) (memberD : d ∈ known) (memberE : e ∈ known)
    (first : c.isA d = true) (second : d.isA e = true) : c.isA e = true :=
  isA_of_mem (mem_ancestors_trans ((sound.isA_iff memberC memberD).1 first)
    ((sound.isA_iff memberD memberE).1 second))

theorem descendsFrom_iff (memberC : c ∈ known) (memberD : d ∈ known) :
    c.descendsFrom d = true ↔ c.isA d = true ∧ c.same d = false := by
  rw [← Bool.not_eq_true, sound.same_iff memberC memberD, sound.isA_iff memberC memberD]
  cases c with
  | object =>
      refine iff_of_false Bool.false_ne_true fun ⟨up, other⟩ => ?_
      exact other (List.mem_singleton.1 up).symm
  | extending id name parent =>
      have above : (extending id name parent).descendsFrom d = true ↔ d ∈ parent.ancestors :=
        sound.isA_iff (sound.parents _ memberC parent rfl) memberD
      rw [above, ancestors_extending, List.mem_cons]
      constructor
      · intro up
        refine ⟨.inr up, ?_⟩
        rintro rfl
        exact notMem_ancestors_parent id name parent up
      · rintro ⟨rfl | up, other⟩
        · exact absurd rfl other
        · exact up

theorem new_apart (name : String) {parent : Class} (member : parent ∈ known) (old : d ∈ known) :
    (extending next name parent).same d = false ∧ d.isA (extending next name parent) = false ∧
      ((extending next name parent).isA d = true ↔ parent.isA d = true) := by
  have extended := sound.extend name member
  have memberC := List.mem_cons_self (a := extending next name parent) (l := known)
  have memberD : d ∈ extending next name parent :: known := List.mem_cons_of_mem _ old
  have unknown : extending next name parent ∉ known := fun known =>
    Nat.lt_irrefl next (sound.below _ known)
  have other : d ≠ extending next name parent := fun same => unknown (same ▸ old)
  rw [← Bool.not_eq_true, ← Bool.not_eq_true, extended.same_iff memberC memberD,
    extended.isA_iff memberD memberC, extended.isA_iff memberC memberD, sound.isA_iff member old,
    ancestors_extending, List.mem_cons, or_iff_right other]
  exact ⟨other.symm, fun up => unknown (sound.ancestors_known old up), Iff.rfl⟩

end Sound

/-! ## The tree -/

/-- Whether classes form a tree under the root, with `isA` for the way up and `same` for identity. -/
structure IsTree (known : List Class) : Prop where
  refl : ∀ c ∈ known, c.isA c = true
  trans : ∀ c ∈ known, ∀ d ∈ known, ∀ e ∈ known, c.isA d = true → d.isA e = true → c.isA e = true
  antisymm : ∀ c ∈ known, ∀ d ∈ known, c.isA d = true → d.isA c = true → c.same d = true
  strict : ∀ c ∈ known, ∀ d ∈ known, c.descendsFrom d = true ↔ c.isA d = true ∧ c.same d = false
  walk : ∀ c ∈ known, ∀ d ∈ known, c.isA d = true ↔ d ∈ c.ancestors
  closed : ∀ c ∈ known, ∀ a ∈ c.ancestors, a ∈ known
  distinct : ∀ c ∈ known, c.ancestors.Pairwise fun a b => a.same b = false
  rooted : ∀ c ∈ known, c.ancestors.getLast? = some object
  comparable : ∀ c ∈ known, ∀ a ∈ c.ancestors, ∀ b ∈ c.ancestors, a.isA b = true ∨ b.isA a = true

theorem Sound.isTree (sound : Sound known next) : IsTree known where
  refl c _ := c.isA_self
  trans _ memberC _ memberD _ memberE := sound.isA_trans memberC memberD memberE
  antisymm c memberC d memberD first second := by
    have up := (sound.isA_iff memberC memberD).1 first
    have down := (sound.isA_iff memberD memberC).1 second
    exact (sound.same_iff memberC memberD).2 (eq_of_mem_ancestors up down)
  strict _ memberC _ memberD := sound.descendsFrom_iff memberC memberD
  walk _ memberC _ memberD := sound.isA_iff memberC memberD
  closed _ member _ up := sound.ancestors_known member up
  distinct c member := by
    refine c.nodup_ancestors.imp_of_mem fun {a b} upA upB other => ?_
    rwa [← Bool.not_eq_true,
      sound.same_iff (sound.ancestors_known member upA) (sound.ancestors_known member upB)]
  rooted c _ := c.getLast?_ancestors
  comparable c _ a upA b upB := by
    rcases List.suffix_or_suffix_of_suffix (mem_ancestors_iff.1 upA) (mem_ancestors_iff.1 upB) with
      below | above
    · exact .inr (isA_of_mem (mem_ancestors_iff.2 below))
    · exact .inl (isA_of_mem (mem_ancestors_iff.2 above))

theorem isInstanceOf_object {v : Value} : v.isInstanceOf object = true ↔ v.isNullish = false := by
  cases v with
  | undefined | null => exact iff_of_false Bool.false_ne_true Bool.noConfusion
  | _ => exact iff_of_true (isA_object _) rfl

/-- The classes of a program form a tree under the root. A new class is another one than all that
there are, whatever its name is, and belongs where its parent does; and all values but null and
undefined are instances of the root. -/
theorem classes_form_tree (run : Run known next) :
    IsTree known ∧
      (∀ name, ∀ parent ∈ known, ∀ d ∈ known, ∀ c after, (extend name parent).run next = (c, after) →
        c.same d = false ∧ d.isA c = false ∧ (c.isA d = true ↔ parent.isA d = true)) ∧
      ∀ v, (Rule.instanceOf object).check v = .conforms ↔ v.isNullish = false := by
  refine ⟨run.sound.isTree, ?_, fun v => ?_⟩
  · intro name parent member d old c after made
    cases made
    exact run.sound.new_apart name member old
  · rw [Rule.check, Verdict.ofInstance_eq_conforms, isInstanceOf_object]

theorem classes_form_tree_one_name :
    let a := extending 16 "A" object
    let b := extending 17 "A" a
    let c := extending 18 "A" error
    Run (c :: b :: a :: standard) 19 ∧ IsTree (c :: b :: a :: standard) ∧
      b.descendsFrom a = true ∧ a.isA b = false ∧ c.same a = false ∧ c.isA a = false := by
  intro a b c
  have first : Run (a :: standard) 17 := .make .start (.root "A") rfl
  have second : Run (b :: a :: standard) 18 :=
    .make first (.under "A" (by simp : a ∈ a :: standard)) rfl
  have third : Run (c :: b :: a :: standard) 19 :=
    .make second (.under "A" (by decide : error ∈ b :: a :: standard)) rfl
  obtain ⟨tree, -, -⟩ := classes_form_tree third
  obtain ⟨-, fresh, -⟩ := classes_form_tree second
  obtain ⟨other, -, above⟩ := fresh "A" error (by decide) a (by decide) c 19 rfl
  have up : b.isA a = true := by decide
  refine ⟨third, tree, ?_, ?_, other, ?_⟩
  · exact (tree.strict b (by decide) a (by decide)).2 ⟨up, by decide⟩
  · rw [← Bool.not_eq_true]
    intro down
    exact absurd (tree.antisymm b (by decide) a (by decide) up down) (by decide)
  · rw [← Bool.not_eq_true, above]
    decide

end ShapeCheck.Class
