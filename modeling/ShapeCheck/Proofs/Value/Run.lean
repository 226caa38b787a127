import ShapeCheck.Proofs.Value
import ShapeCheck.Proofs.Value.Parts
import ShapeCheck.Value.Property

/-!
# Values of a run

A program makes its values one after another, out of scalars and of values that it has, and each
reference value gets the next number. So whatever program runs, its reference values with equal
numbers are the same value, and the keys of an object or an error are distinct (`Run.sound`).
-/

namespace ShapeCheck.Value

def identity? : Value → Option Identity
  | symbol id _ | date id _ | regexp id _ | array id _ | object id _ _ | error id _ _ _
  | function id _ => some id
  | undefined | null | bool _ | number _ | bigint _ | string _ => none

def entryKeys : Value → List String
  | object _ _ entries | error _ _ _ entries => Entries.keys entries
  | _ => []

inductive Making (hand : List Value) : Fresh Value → Prop
  | scalar {v : Value} (plain : v.identity? = none) : Making hand (pure v)
  | property {v : Value} (member : v ∈ hand) (key : String) : Making hand (pure (v.get key))
  | symbol (description : Option String) : Making hand (newSymbol description)
  | date (instant : Instant) : Making hand (newDate instant)
  | regexp (pattern : Pattern) : Making hand (newRegexp pattern)
  | function (info : FunctionInfo) : Making hand (newFunction info)
  | array {items : List Value} (members : ∀ v ∈ items, v ∈ hand) : Making hand (newArray items)
  | object (cls : Class) {entries : List (String × Value)} (members : ∀ p ∈ entries, p.2 ∈ hand) :
    Making hand (newObject cls entries)
  | error (cls : Class) (message : String) {entries : List (String × Value)}
    (members : ∀ p ∈ entries, p.2 ∈ hand) : Making hand (newError cls message entries)

/-- The values that a program has and the next unused number. A number may also go to a class. -/
inductive Run : List Value → Identity → Prop
  | start (next : Identity) : Run [] next
  | make {hand : List Value} {next after : Identity} {action : Fresh Value} {v : Value}
    (run : Run hand next) (making : Making hand action) (made : action.run next = (v, after)) :
    Run (v :: hand) after
  | declare {hand : List Value} {next : Identity} (run : Run hand next) : Run hand (next + 1)

theorem Holds.trans {u v w : Value} (outer : u.Holds v) (inner : v.Holds w) : u.Holds w := by
  induction outer with
  | self v => exact inner
  | item member _ ih => exact .item member (ih inner)
  | entry member _ ih => exact .entry member (ih inner)
  | errorEntry member _ ih => exact .errorEntry member (ih inner)

theorem eq_of_holds_of_plain {v w : Value} (plain : v.identity? = none) (held : v.Holds w) :
    w = v := by
  cases held with
  | self => rfl
  | item => cases plain
  | entry => cases plain
  | errorEntry => cases plain

theorem itemAt_mem (items : List Value) (key : String) :
    itemAt items key ∈ items ∨ itemAt items key = undefined := by
  unfold itemAt
  split
  next i _ =>
    by_cases inside : i < items.length
    · exact .inl (by simp [List.getD_eq_getElem?_getD, inside])
    · exact .inr (by simp [List.getD_eq_getElem?_getD, inside])
  · exact .inr rfl

theorem get_object (id : Identity) (cls : Class) {entries : Entries Value}
    (distinct : entries.keys.Nodup) {p : String × Value} (member : p ∈ entries) :
    (object id cls entries).get p.1 = p.2 := by
  have found : Entries.find? p.1 entries = some p.2 := (Entries.find?_eq_some_iff distinct).2 member
  simp [get, found]

theorem get_error (id : Identity) (cls : Class) (message : String) {entries : Entries Value}
    (distinct : entries.keys.Nodup) {p : String × Value} (member : p ∈ entries)
    (other : p.1 ≠ "message") : (error id cls message entries).get p.1 = p.2 := by
  have found : Entries.find? p.1 entries = some p.2 := (Entries.find?_eq_some_iff distinct).2 member
  simp [get, found, other]

theorem holds_get {v : Value} (distinct : v.entryKeys.Nodup) (key : String) :
    v.Holds (v.get key) ∨ (v.get key).identity? = none := by
  cases v with
  | object id cls entries =>
      cases found : Entries.find? key entries with
      | none => exact .inr (by simp [get, found, identity?])
      | some u =>
          have member := (Entries.find?_eq_some_iff distinct).1 found
          refine .inl ?_
          rw [get, found]
          exact .entry member (.self _)
  | error id cls message entries =>
      rw [get]
      split
      · exact .inr rfl
      · cases found : Entries.find? key entries with
        | none => exact .inr (by simp only; split <;> rfl)
        | some u =>
            have member := (Entries.find?_eq_some_iff distinct).1 found
            exact .inl (.ofErrorEntry distinct member (.self _))
  | array id items =>
      rw [get]
      split
      · exact .inr rfl
      · rcases itemAt_mem items key with member | absent
        · exact .inl (.item member (.self _))
        · exact .inr (by rw [absent]; rfl)
  | string s =>
      simp only [get]
      split
      · exact .inr rfl
      -- The characters of a text are made when they are asked for, and have no identity.
      · rcases itemAt_mem ((Text.units s).map fun c => string c.toString) key with member | absent
        · obtain ⟨c, -, same⟩ := List.mem_map.1 member
          exact .inr (by rw [← same]; rfl)
        · exact .inr (by rw [absent]; rfl)
  | function id info =>
      simp only [get]
      split
      · exact .inr rfl
      · split <;> exact .inr rfl
  | regexp id pattern =>
      simp only [get]
      split
      · exact .inr rfl
      · split <;> exact .inr rfl
  | _ => exact .inr rfl

def Within (hand : List Value) (w : Value) : Prop :=
  ∃ v ∈ hand, v.Holds w

structure Sound (hand : List Value) (next : Identity) : Prop where
  distinct : ∀ {w}, Within hand w → w.entryKeys.Nodup
  below : ∀ {w id}, Within hand w → w.identity? = some id → id < next
  coherent : ∀ {v w id}, Within hand v → Within hand w → v.identity? = some id →
    w.identity? = some id → v = w

/-- What a program has beyond what it had: a value whose other parts it had, and whose number, if it
is not an old value, was unused. -/
structure Adds (hand : List Value) (next : Identity) (v : Value) (after : Identity) : Prop where
  grows : next ≤ after
  part : ∀ {w}, v.Holds w → w = v ∨ Within hand w
  itself : Within hand v ∨
    v.entryKeys.Nodup ∧ ∀ {id}, v.identity? = some id → next ≤ id ∧ id < after

variable {hand : List Value} {next after : Identity} {v : Value}

theorem adds_plain (plain : v.identity? = none) : Adds hand next v next where
  grows := Nat.le_refl next
  part held := .inl (eq_of_holds_of_plain plain held)
  itself := by
    refine .inr ⟨?_, fun numbered => by cases plain.symm.trans numbered⟩
    cases v with
    | object => cases plain
    | error => cases plain
    | _ => exact List.nodup_nil

theorem adds_within (within : Within hand v) : Adds hand next v next where
  grows := Nat.le_refl next
  part held := by
    obtain ⟨u, member, outer⟩ := within
    exact .inr ⟨u, member, outer.trans held⟩
  itself := .inl within

theorem adds_new (numbered : v.identity? = some next) (distinct : v.entryKeys.Nodup)
    (part : ∀ {w}, v.Holds w → w = v ∨ Within hand w) : Adds hand next v (next + 1) where
  grows := Nat.le_succ next
  part := part
  itself := by
    refine .inr ⟨distinct, fun {id} same => ?_⟩
    cases numbered.symm.trans same
    exact ⟨Nat.le_refl next, Nat.lt_succ_self next⟩

theorem Making.adds {action : Fresh Value} (sound : Sound hand next) (making : Making hand action)
    (made : action.run next = (v, after)) : Adds hand next v after := by
  cases making with
  | scalar plain =>
      cases made
      exact adds_plain plain
  | @property u member key =>
      cases made
      rcases holds_get (sound.distinct ⟨u, member, .self u⟩) key with held | plain
      · exact adds_within ⟨u, member, held⟩
      · exact adds_plain plain
  | symbol | date | regexp | function =>
      cases made
      refine adds_new rfl List.nodup_nil fun held => ?_
      cases held
      exact .inl rfl
  | array members =>
      cases made
      refine adds_new rfl List.nodup_nil fun held => ?_
      exact (holds_array_iff.1 held).imp_right fun ⟨u, member, inside⟩ => ⟨u, members u member, inside⟩
  | object cls members =>
      cases made
      refine adds_new rfl (Entries.nodup_keys_ofList _) fun held => ?_
      refine (holds_object_iff.1 held).imp_right fun ⟨p, member, inside⟩ => ?_
      exact ⟨p.2, members p (Entries.mem_of_mem_ofList member), inside⟩
  | error cls message members =>
      cases made
      refine adds_new rfl (Entries.nodup_keys_ofList _) fun held => ?_
      refine (holds_error_iff.1 held).imp_right fun ⟨p, member, inside⟩ => ?_
      have written := Entries.mem_of_mem_ofList (Entries.mem_of_mem_ofList member)
      exact ⟨p.2, members p written, inside⟩

theorem Adds.cases (adds : Adds hand next v after) {w : Value} (within : Within (v :: hand) w) :
    Within hand w ∨
      w = v ∧ v.entryKeys.Nodup ∧ ∀ {id}, v.identity? = some id → next ≤ id ∧ id < after := by
  have earlier : w = v ∨ Within hand w := by
    obtain ⟨u, member, held⟩ := within
    rcases List.mem_cons.1 member with rfl | member
    · exact adds.part held
    · exact .inr ⟨u, member, held⟩
  rcases earlier with rfl | earlier
  · exact adds.itself.imp_right fun new => ⟨rfl, new⟩
  · exact .inl earlier

theorem Sound.add (sound : Sound hand next) (adds : Adds hand next v after) :
    Sound (v :: hand) after where
  distinct within := by
    rcases adds.cases within with old | ⟨rfl, distinct, -⟩
    · exact sound.distinct old
    · exact distinct
  below within numbered := by
    rcases adds.cases within with old | ⟨rfl, -, range⟩
    · exact Nat.lt_of_lt_of_le (sound.below old numbered) adds.grows
    · exact (range numbered).2
  coherent withinU withinW numberedU numberedW := by
    rcases adds.cases withinU with oldU | ⟨rfl, -, range⟩
    · rcases adds.cases withinW with oldW | ⟨rfl, -, range⟩
      · exact sound.coherent oldU oldW numberedU numberedW
      · exact absurd (sound.below oldU numberedU) (Nat.not_lt.2 (range numberedW).1)
    · rcases adds.cases withinW with oldW | ⟨rfl, -, -⟩
      · exact absurd (sound.below oldW numberedW) (Nat.not_lt.2 (range numberedU).1)
      · rfl

theorem Run.sound (run : Run hand next) : Sound hand next := by
  induction run with
  | start next =>
      have nothing (w : Value) : ¬Within [] w := by simp [Within]
      exact ⟨fun within => absurd within (nothing _), fun within => absurd within (nothing _),
        fun within => absurd within (nothing _)⟩
  | make _ making made ih => exact ih.add (making.adds ih made)
  | declare _ ih =>
      exact ⟨ih.distinct, fun within numbered => Nat.lt_succ_of_lt (ih.below within numbered),
        ih.coherent⟩

theorem identity?_eq_of_identical {w : Value} (h : v.identical w = true) :
    v.identity? = w.identity? := by
  cases v <;> cases w <;> first | rfl | cases h | exact congrArg some (eq_of_beq h)

theorem exists_identity {w : Value}
    (container : w.tag = .array ∨ w.tag = .object ∨ w.tag = .error) :
    ∃ id, w.identity? = some id := by
  cases w with
  | array id | object id | error id => exact ⟨id, rfl⟩
  | _ => simp [tag] at container

theorem identical_of_sameLiteral {w : Value}
    (container : v.tag = .array ∨ v.tag = .object ∨ v.tag = .error)
    (same : v.sameLiteral w = true) : v.identical w = true := by
  cases v with
  | array | object | error => simpa [sameLiteral] using same
  | _ => simp [tag] at container

theorem Run.eq_of_sameLiteral (run : Run hand next) {w : Value} (memberV : v ∈ hand)
    (memberW : w ∈ hand) (container : v.tag = .array ∨ v.tag = .object ∨ v.tag = .error)
    (same : v.sameLiteral w = true) : v = w := by
  obtain ⟨id, numbered⟩ := exists_identity container
  have shared := identity?_eq_of_identical (identical_of_sameLiteral container same)
  exact run.sound.coherent ⟨v, memberV, .self v⟩ ⟨w, memberW, .self w⟩ numbered
    (shared.symm.trans numbered)

end ShapeCheck.Value
