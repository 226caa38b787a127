import ShapeCheck.Proofs.Rule
import ShapeCheck.Proofs.Schema.Compile
import ShapeCheck.Proofs.Value.Property

namespace ShapeCheck

namespace Entries

variable {α β : Type}

def atPositions (index : Nat) (as : List α) : Entries α :=
  (as.zipIdx index).map fun p => (toString p.2, p.1)

theorem atPositions_cons (index : Nat) (a : α) (as : List α) :
    atPositions index (a :: as) = (toString index, a) :: atPositions (index + 1) as :=
  rfl

theorem keys_atPositions (index : Nat) (as : List α) :
    (atPositions index as).keys = (List.range' index as.length).map toString := by
  induction as generalizing index with
  | nil => rfl
  | cons a as ih =>
      rw [atPositions_cons, keys_cons, ih, List.length_cons, List.range'_succ, List.map_cons]

theorem nodup_keys_atPositions (index : Nat) (as : List α) : (atPositions index as).keys.Nodup := by
  rw [keys_atPositions]
  apply List.Nodup.map
  · exact fun i j => Text.toString_inj
  · exact List.nodup_range'

theorem related_atPositions {R : α → β → Prop} {as : List α} {bs : List β}
    (each : List.Forall₂ R as bs) (index : Nat) :
    Related R (atPositions index as) (atPositions index bs) := by
  induction each generalizing index with
  | nil => exact .nil
  | cons head _ ih => exact .cons ⟨rfl, head⟩ (ih (index + 1))

end Entries

namespace Rule

theorem checkProps_atPositions (id : Identity) {items : List Value} {rules : List Rule} {index : Nat}
    (places : index + rules.length = items.length) :
    checkProps (Entries.atPositions index rules) (.array id items) =
      Verdict.underPositions index (checkItems rules (items.drop index)) := by
  induction rules generalizing index with
  | nil => rfl
  | cons rule rules ih =>
      rw [List.length_cons] at places
      have inside : index < items.length := by omega
      have found : (Value.array id items).get (toString index) = items[index] := by
        rw [Value.get_array_position, List.getD_eq_getElem?_getD, List.getElem?_eq_getElem inside,
          Option.getD_some]
      have next := @ih (index + 1) (by omega)
      rw [Entries.atPositions_cons, checkProps_cons, next, List.drop_eq_getElem_cons inside,
        checkItems_cons, Verdict.underPositions, found]

theorem check_objectLike_atPositions (id : Identity) {items : List Value} {rules : List Rule}
    (same : items.length = rules.length) :
    (objectLike (Entries.atPositions 0 rules)).check (.array id items) =
      (tuple rules).check (.array id items) := by
  have places : 0 + rules.length = items.length := by omega
  rw [check_objectLike, check_tuple, if_pos same, checkProps_atPositions id places]
  rfl

theorem checkItems_replicate (rule : Rule) (items : List Value) :
    checkItems (List.replicate items.length rule) items = items.map (rule.check ·) := by
  induction items with
  | nil => rfl
  | cons v rest ih => rw [List.length_cons, List.replicate_succ, checkItems_cons, ih, List.map_cons]

theorem check_tuple_replicate (rule : Rule) (id : Identity) (items : List Value) :
    (tuple (List.replicate items.length rule)).check (.array id items) =
      (arrayOf rule).check (.array id items) := by
  rw [check_tuple, check_arrayOf, if_pos List.length_replicate.symm, checkItems_replicate]

end Rule

namespace Schema

theorem objectLike_atPositions {schemas : List Schema} {rules : List Rule}
    (compiled : List.Forall₂ (fun s rule => s.compile = .ok rule) schemas rules) :
    objectLike (Entries.atPositions 0 schemas) = .ok (.objectLike (Entries.atPositions 0 rules)) := by
  have each : allEntriesOk (compileShape (Entries.atPositions 0 schemas)) =
      .ok (Entries.atPositions 0 rules) := by
    rw [compileShape_eq_map, allEntriesOk_eq_ok, Entries.Related, List.forall₂_map_left_iff]
    exact Entries.related_atPositions compiled 0
  rw [objectLike, Entries.ofList_of_nodup (Entries.nodup_keys_atPositions 0 schemas), each]
  rfl

theorem compiled_replicate {s : Schema} {rule : Rule} (compiled : s.compile = .ok rule) (n : Nat) :
    List.Forall₂ (fun s rule => s.compile = .ok rule) (List.replicate n s) (List.replicate n rule) := by
  induction n with
  | zero => exact .nil
  | succ n ih => exact .cons compiled ih

/-- An array gets one verdict, by its items in order and by its properties under `0`, `1` and so on;
and one verdict by a schema for each item and by that schema as many times as there are items. -/
theorem array_checks_agree :
    (∀ schemas : List Schema, (∀ s ∈ schemas, s.Compiles) →
      ∃ byPlace byKey, (Schema.tuple schemas).compile = .ok byPlace ∧
        objectLike (Entries.atPositions 0 schemas) = .ok byKey ∧
        ∀ id items, items.length = schemas.length →
          byPlace.check (.array id items) = byKey.check (.array id items)) ∧
    ∀ s : Schema, s.Compiles → ∃ each, arrayOf s = .ok each ∧
      ∀ id items, ∃ repeated, (Schema.tuple (List.replicate items.length s)).compile = .ok repeated ∧
        each.check (.array id items) = repeated.check (.array id items) := by
  constructor
  · intro schemas compile
    obtain ⟨rules, all⟩ := exists_allOk_iff.2 compile
    have compiled := List.forall₂_map_left_iff.1 (allOk_eq_ok.1 all)
    refine ⟨_, _, compile_tuple.2 ⟨rules, compiled, rfl⟩, objectLike_atPositions compiled, ?_⟩
    intro id items same
    exact (Rule.check_objectLike_atPositions id (same.trans compiled.length_eq)).symm
  · rintro s ⟨rule, compiled⟩
    refine ⟨.arrayOf rule, by rw [arrayOf, compiled]; rfl, fun id items => ?_⟩
    have copies := compiled_replicate compiled items.length
    exact ⟨_, compile_tuple.2 ⟨_, copies, rfl⟩, (Rule.check_tuple_replicate rule id items).symm⟩

theorem array_checks_agree_eleven :
    let s := rule (.kind .string)
    let v := Value.array 0 (List.replicate 10 (.string "a") ++ [.null])
    ∃ byPlace byKey each, (Schema.tuple (List.replicate 11 s)).compile = .ok byPlace ∧
      objectLike (Entries.atPositions 0 (List.replicate 11 s)) = .ok byKey ∧
      arrayOf s = .ok each ∧ byPlace.check v = byKey.check v ∧ each.check v = byPlace.check v ∧
      byPlace.check v = .fails ⟨["10"], "expected a string, got [object Null]"⟩ := by
  intro s v
  obtain ⟨byPosition, byRepetition⟩ := array_checks_agree
  have compiles : ∀ t ∈ List.replicate 11 s, t.Compiles := by
    intro t member
    rw [List.eq_of_mem_replicate member]
    exact ⟨_, rfl⟩
  obtain ⟨byPlace, byKey, compiled, shaped, same⟩ := byPosition (List.replicate 11 s) compiles
  obtain ⟨each, lifted, agree⟩ := byRepetition s ⟨_, rfl⟩
  obtain ⟨repeated, compiled', same'⟩ := agree 0 (List.replicate 10 (.string "a") ++ [.null])
  have one : repeated = byPlace := Except.ok.inj (compiled'.symm.trans compiled)
  subst one
  refine ⟨repeated, byKey, each, compiled, shaped, lifted, same 0 _ rfl, same', ?_⟩
  cases compiled
  rfl

end Schema
end ShapeCheck
