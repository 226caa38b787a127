import Mathlib.Data.List.Perm.Basic
import ShapeCheck.Proofs.Binary64
import ShapeCheck.Proofs.Json.Inclusion
import ShapeCheck.Proofs.Schema.ErrorExample

namespace ShapeCheck

namespace Binary64

theorem sameNumber_iff {x y : Binary64} :
    x.sameNumber y = true ↔ x.representative = y.representative := by
  rw [representative_eq_iff, sameNumber, Bool.or_eq_true, Bool.and_eq_true]

theorem sameNumber_self (x : Binary64) : x.sameNumber x = true :=
  sameNumber_iff.2 rfl

theorem sameNumber_symm {x y : Binary64} (same : x.sameNumber y = true) : y.sameNumber x = true :=
  sameNumber_iff.2 (sameNumber_iff.1 same).symm

theorem sameNumber_trans {x y z : Binary64} (first : x.sameNumber y = true)
    (second : y.sameNumber z = true) : x.sameNumber z = true :=
  sameNumber_iff.2 ((sameNumber_iff.1 first).trans (sameNumber_iff.1 second))

end Binary64

namespace Json

theorem Included.refl (j : Json) : Included j j := by
  induction j using Json.induct with
  | null => exact .null
  | bool b => exact .bool b
  | number n => exact .number (Binary64.sameNumber_self _)
  | string s => exact .string s
  | array items ih => exact .array (List.forall₂_same.2 ih)
  | object entries ih =>
      refine included_object.2 fun key j found => ⟨j, found, ?_⟩
      rw [field?, Entries.find?_eq_some_iff (Entries.nodup_keys_ofList entries)] at found
      exact ih _ (Entries.mem_of_mem_ofList found)

theorem Included.trans {a b c : Json} (first : Included a b) (second : Included b c) :
    Included a c := by
  induction a using Json.induct generalizing b c with
  | null => cases first; exact second
  | bool b => cases first; exact second
  | number n =>
      cases first with
      | number same =>
          cases second with
          | number same' => exact .number (Binary64.sameNumber_trans same same')
  | string s => cases first; exact second
  | array items ih =>
      cases first with
      | array each =>
          cases second with
          | array each' => exact .array (forall₂_trans_of_mem each each' fun j member _ _ => ih j member)
  | object entries ih =>
      cases b with
      | object others =>
          cases c with
          | object fields =>
              rw [included_object] at first second ⊢
              intro key j found
              obtain ⟨k, there, included⟩ := first key j found
              obtain ⟨l, last, included'⟩ := second key k there
              rw [field?, Entries.find?_eq_some_iff (Entries.nodup_keys_ofList entries)] at found
              exact ⟨l, last, ih (key, j) (Entries.mem_of_mem_ofList found) included included'⟩
          | _ => cases second
      | _ => cases first

/-- Whether two documents are equal up to the order of the keys of their objects, numbers being
compared in double precision. -/
inductive Alike : Json → Json → Prop
  | null : Alike null null
  | bool (b : Bool) : Alike (bool b) (bool b)
  | number {n m : WrittenNumber} (same : n.toBinary64.sameNumber m.toBinary64) :
      Alike (number n) (number m)
  | string (s : String) : Alike (string s) (string s)
  | array {items others : List Json} (each : List.Forall₂ Alike items others) :
      Alike (array items) (array others)
  | object {entries others fields : Entries Json} (reordered : fields.Perm (Entries.ofList others))
      (keys : (Entries.ofList entries).map Prod.fst = fields.map Prod.fst)
      (each : List.Forall₂ Alike ((Entries.ofList entries).map Prod.snd) (fields.map Prod.snd)) :
      Alike (object entries) (object others)

theorem alike_array {items others : List Json} :
    Alike (array items) (array others) ↔ List.Forall₂ Alike items others :=
  ⟨fun h => by cases h; assumption, .array⟩

theorem alike_object {entries others : Entries Json} :
    Alike (object entries) (object others) ↔
      ∃ fields : Entries Json, fields.Perm (Entries.ofList others) ∧
        Entries.Related Alike (Entries.ofList entries) fields := by
  constructor
  · rintro (_ | _ | _ | _ | _ | ⟨reordered, keys, each⟩)
    exact ⟨_, reordered, Entries.related_iff.2 ⟨keys, each⟩⟩
  · rintro ⟨fields, reordered, related⟩
    obtain ⟨keys, each⟩ := Entries.related_iff.1 related
    exact .object reordered keys each

theorem alike_iff_included {a b : Json} : Alike a b ↔ Included a b ∧ Included b a := by
  induction a using Json.induct generalizing b with
  | null =>
      constructor
      · rintro ⟨⟩
        exact ⟨.null, .null⟩
      · rintro ⟨⟨⟩, -⟩
        exact .null
  | bool b' =>
      constructor
      · rintro ⟨⟩
        exact ⟨.bool b', .bool b'⟩
      · rintro ⟨⟨⟩, -⟩
        exact .bool b'
  | number n =>
      constructor
      · rintro (_ | _ | same)
        exact ⟨.number same, .number (Binary64.sameNumber_symm same)⟩
      · rintro ⟨_ | _ | same, -⟩
        exact .number same
  | string s =>
      constructor
      · rintro ⟨⟩
        exact ⟨.string s, .string s⟩
      · rintro ⟨⟨⟩, -⟩
        exact .string s
  | array items ih =>
      cases b with
      | array others =>
          rw [alike_array, included_array, included_array]
          exact forall₂_iff_both_of_mem fun j member k => ih j member
      | _ => exact ⟨nofun, fun h => nomatch h.1⟩
  | object entries ih =>
      cases b with
      | object others =>
          have distinct := Entries.nodup_keys_ofList entries
          have distinct' := Entries.nodup_keys_ofList others
          rw [alike_object, Entries.exists_perm_related_iff distinct distinct', included_object,
            included_object]
          change (∀ key, Option.Rel Alike (field? entries key) (field? others key)) ↔ _
          -- Each key is to be on both sides, as each side includes the other.
          rw [← forall_and]
          refine forall_congr' fun key => ?_
          have inside (j : Json) (found : field? entries key = some j) : (key, j) ∈ entries :=
            Entries.mem_of_mem_ofList ((Entries.find?_eq_some_iff distinct).1 found)
          cases found : field? entries key with
          | none => cases field? others key <;> simp
          | some j =>
              cases field? others key with
              | none => simp
              | some k => simpa using ih (key, j) (inside j found)
      | _ => exact ⟨nofun, fun h => nomatch h.1⟩

def Accepts (s d : Json) (m n : Identity) : Prop :=
  Schema.Accepts (.value (s.toValue.run m).1) (d.toValue.run n).1

theorem accepts_iff_included {s d : Json} {m n : Identity} : Accepts s d m n ↔ Included s d := by
  obtain ⟨rule, compiled, demands⟩ := compileValue_demands s _ (represents_toValue s m)
  rw [Accepts, Schema.accepts_value_iff, ← demands.1 d _ (represents_toValue d n), compiled]
  simp only [Except.ok.injEq, exists_eq_left']

/-- Documents accept themselves, they accept what is accepted by those that they accept, and they
accept each other just when they are equal up to the order of keys. -/
theorem accepts_preorder (a b c : Json) (m n m' n' m'' n'' : Identity) :
    Accepts a a m n ∧ (Accepts a b m n → Accepts b c m' n' → Accepts a c m'' n'') ∧
      (Accepts a b m n ∧ Accepts b a m' n' ↔ Alike a b) := by
  simp only [accepts_iff_included]
  exact ⟨.refl a, .trans, alike_iff_included.symm⟩

end Json
end ShapeCheck
