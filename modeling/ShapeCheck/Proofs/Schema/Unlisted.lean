import Mathlib.Logic.Relation
import ShapeCheck.Assertion
import ShapeCheck.Proofs.Schema.Failures
import ShapeCheck.Proofs.Value.Change

namespace ShapeCheck

open Value (Plain Inside Unseen Reordered)

namespace Rule

theorem checkItems_replaced {rules : List Rule} {before after : List Value} {v v' : Value}
    (same : ∀ rule, rules[before.length]? = some rule → rule.check v' = rule.check v) :
    checkItems rules (before ++ v' :: after) = checkItems rules (before ++ v :: after) := by
  induction before generalizing rules with
  | nil =>
      cases rules with
      | nil => rfl
      | cons rule rules =>
          rw [List.nil_append, List.nil_append, checkItems_cons, checkItems_cons, same rule rfl]
  | cons u before ih =>
      cases rules with
      | nil => rfl
      | cons rule rules =>
          rw [List.cons_append, List.cons_append, checkItems_cons, checkItems_cons, ih same]

theorem check_tuple_replaced {rules : List Rule} (id id' : Identity) {before after : List Value}
    {v v' : Value}
    (same : ∀ rule, rules[before.length]? = some rule → rule.check v' = rule.check v) :
    (tuple rules).check (.array id' (before ++ v' :: after)) =
      (tuple rules).check (.array id (before ++ v :: after)) := by
  have length : (before ++ v' :: after).length = (before ++ v :: after).length := by
    rw [List.length_append, List.length_append, List.length_cons, List.length_cons]
  rw [check_tuple, check_tuple, checkItems_replaced same, length]

theorem check_objectShape_congr {props : Entries Rule} {v v' : Value} (object : v.tag = .object)
    (object' : v'.tag = .object)
    (same : ∀ p ∈ props, p.2.check (v'.get p.1) = p.2.check (v.get p.1)) :
    (objectShape props).check v' = (objectShape props).check v := by
  have props : checkProps props v' = checkProps props v := by
    rw [checkProps_eq_map, checkProps_eq_map]
    apply List.map_congr_left
    intro p member
    rw [same p member]
  rw [check_objectShape, check_objectShape, Verdict.ofObject_eq_conforms.2 object,
    Verdict.ofObject_eq_conforms.2 object', props]

end Rule

namespace Schema

theorem compileValue_of_scalar {v : Value}
    (scalar : v.identity? = none ∨ v.tag = .symbol ∨ v.tag = .date) :
    compileValue v = .ok (.literal v) := by
  cases v with
  | regexp | array | object | error | function => simp [Value.identity?, Value.tag] at scalar
  | _ => rfl

theorem exists_compileValue_of_plain {s : Value} (plain : s.Plain) :
    ∃ rule, compileValue s = .ok rule := by
  induction plain with
  | literal scalar => exact ⟨_, compileValue_of_scalar scalar⟩
  | array _ ih =>
      obtain ⟨rules, compiled⟩ := exists_forall₂_iff.2 ih
      exact ⟨_, compileValue_array.2 ⟨rules, compiled, rfl⟩⟩
  | object _ _ ih =>
      obtain ⟨props, compiled⟩ :=
        Entries.related_of_forall (R := fun v rule => compileValue v = .ok rule) ih
      exact ⟨_, compileValue_object.2 ⟨props, compiled, rfl⟩⟩

theorem check_eq_of_kind {s : Value} {rule : Rule} (plain : s.Plain)
    (compiled : compileValue s = .ok rule) {v v' : Value}
    (container : v.tag = .array ∨ v.tag = .object) (same : v'.tag = v.tag)
    (kind : s.tag = v.tag → rule.check v' = rule.check v) : rule.check v' = rule.check v := by
  have text : v'.toText = v.toText := by
    rw [Value.toText_eq_of_container container, Value.toText_eq_of_container (same ▸ container), same]
  by_cases like : s.tag = v.tag
  · exact kind like
  · cases plain with
    | literal scalar =>
        have literal : rule = .literal s :=
          Except.ok.inj (compiled.symm.trans (compileValue_of_scalar scalar))
        have other {w : Value} (tag : w.tag = v.tag) : s.sameLiteral w = false := by
          rw [Bool.eq_false_iff]
          intro equal
          exact like ((Value.tag_eq_of_sameLiteral equal).trans tag)
        rw [literal, Rule.check_literal, Rule.check_literal, Verdict.ofLiteral, Verdict.ofLiteral,
          other rfl, other same, text]
    | array =>
        obtain ⟨rules, -, rfl⟩ := compileValue_array.1 compiled
        rw [Rule.check_tuple_other (Ne.symm like), Rule.check_tuple_other (same ▸ Ne.symm like), same]
    | object =>
        obtain ⟨props, -, rfl⟩ := compileValue_object.1 compiled
        rw [Rule.check_objectShape_other (Ne.symm like),
          Rule.check_objectShape_other (same ▸ Ne.symm like), text]

/-- One step: the induction is on the way to the changed object, and the schema goes the same way as
long as it has a part there. -/
theorem check_eq_of_inside {part : Option Value} {v v' : Value} (inside : Inside Unseen part v v')
    {s : Value} (here : part = some s) (plain : s.Plain) {rule : Rule}
    (compiled : compileValue s = .ok rule) : rule.check v' = rule.check v := by
  induction inside generalizing s rule with
  | here unseen =>
      obtain ⟨object, object'⟩ := unseen.tags
      refine check_eq_of_kind plain compiled (.inr object) (object'.trans object.symm) fun kind => ?_
      rw [object] at kind
      cases s with
      | object id cls entries =>
          obtain ⟨props, related, rfl⟩ := compileValue_object.1 compiled
          apply Rule.check_objectShape_congr object object'
          intro p member
          have listed : p.1 ∈ Value.listed (some (.object id cls entries)) := by
            change p.1 ∈ Entries.keys entries
            rw [related.keys_eq]
            exact List.mem_map_of_mem member
          rw [unseen.get_eq (here ▸ listed)]
      | _ => cases kind
  | item _ ih =>
      refine check_eq_of_kind plain compiled (.inl rfl) rfl fun kind => ?_
      cases s with
      | array id items =>
          obtain ⟨rules, related, rfl⟩ := compileValue_array.1 compiled
          apply Rule.check_tuple_replaced
          intro rule found
          obtain ⟨u, there, compiled⟩ := getElem?_of_forall₂ related found
          have plain := Value.plain_array_iff.1 plain u (List.mem_of_getElem? there)
          exact ih (by rw [here]; exact there) plain compiled
      | _ => cases kind
  | @entry _ _ _ _ before after key v v' _ ih =>
      refine check_eq_of_kind plain compiled (.inr rfl) rfl fun kind => ?_
      cases s with
      | object id cls entries =>
          obtain ⟨props, related, rfl⟩ := compileValue_object.1 compiled
          obtain ⟨distinct, each⟩ := Value.plain_object_iff.1 plain
          apply Rule.check_objectShape_congr rfl rfl
          intro p member
          rw [Value.get, Value.get]
          -- Only under the key of the change is another value found, and there the schema goes along.
          rcases Entries.find?_replaced before after key v v' p.1 with same | ⟨rfl, old, new⟩
          · rw [same]
          · rw [old, new]
            obtain ⟨u, there, compiled⟩ := related.exists_find?_of_mem distinct member
            have plain := each _ ((Entries.find?_eq_some_iff distinct).1 there)
            exact ih (by rw [here]; exact there) plain compiled
      | _ => cases kind

theorem validate_eq_of_inside {s v v' : Value} (plain : s.Plain)
    (inside : Inside Unseen (some s) v v') : (value s).validate v' = (value s).validate v := by
  obtain ⟨rule, compiled⟩ := exists_compileValue_of_plain plain
  rw [validate, validate, compile, compiled]
  exact congrArg Except.ok (check_eq_of_inside inside rfl plain compiled)

end Schema

def Collector.Permutes (c c' : Collector) : Prop :=
  ∀ v, (c v).Perm (c' v)

namespace Collector

theorem perm_items {cs cs' : List Collector} (each : List.Forall₂ Permutes cs cs') (index : Nat)
    (vs : List Value) : (items index cs vs).Perm (items index cs' vs) := by
  induction each generalizing index vs with
  | nil => exact .refl _
  | cons head _ ih =>
      cases vs with
      | nil => exact .refl _
      | cons v vs =>
          rw [items, items]
          apply List.Perm.append
          · exact (head v).map _
          · exact ih (index + 1) vs

theorem permutes_tuple {cs cs' : List Collector} (each : List.Forall₂ Permutes cs cs') :
    Permutes (tuple cs) (tuple cs') := by
  intro v
  cases v with
  | array id vs =>
      rw [tuple, tuple, each.length_eq]
      split
      · exact perm_items each 0 vs
      · exact .refl _
  | _ => exact .refl _

theorem permutes_shape {cs cs' : Entries Collector}
    (perm : ∀ v, (properties cs v).Perm (properties cs' v)) : Permutes (shape cs) (shape cs') := by
  intro v
  rw [shape, shape]
  split
  · exact perm v
  · exact .refl _

theorem perm_properties {cs cs' : Entries Collector} (each : Entries.Related Permutes cs cs')
    (v : Value) : (properties cs v).Perm (properties cs' v) := by
  induction each with
  | nil => exact .refl _
  | @cons p q _ _ head _ ih =>
      rw [properties, properties, List.flatMap_cons, List.flatMap_cons, ← head.1]
      apply List.Perm.append
      · exact (head.2 (v.get p.1)).map _
      · exact ih

end Collector

namespace Schema

theorem plain_iff_of_inside {part : Option Value} {s s' : Value}
    (inside : Inside (fun _ => Reordered) part s s') : s.Plain ↔ s'.Plain := by
  induction inside with
  | here changed =>
      cases changed with
      | object _ reordered =>
          have keys := (reordered.map Prod.fst).nodup_iff
          simp only [Value.plain_object_iff, reordered.mem_iff]
          exact and_congr_left' keys
  | item _ ih => simp only [Value.plain_array_iff, List.forall_mem_append, List.forall_mem_cons, ih]
  | entry _ ih =>
      simp only [Value.plain_object_iff, List.forall_mem_append, List.forall_mem_cons, ih,
        Entries.keys, List.map_append, List.map_cons]

theorem permutes_of_inside {part : Option Value} {s s' : Value}
    (inside : Inside (fun _ => Reordered) part s s') :
    (collectValue s).Permutes (collectValue s') := by
  induction inside with
  | here changed =>
      cases changed with
      | object _ reordered =>
          rw [collectValue, collectValue, collectEntries_eq_map, collectEntries_eq_map]
          apply Collector.permutes_shape
          intro v
          exact (reordered.map _).flatMap_right _
  | item _ ih =>
      rw [collectValue, collectValue, collectValues_eq_map, collectValues_eq_map, List.map_append,
        List.map_append, List.map_cons, List.map_cons]
      apply Collector.permutes_tuple
      exact forall₂_replaced (fun c v => .refl _) _ _ ih
  | entry _ ih =>
      rw [collectValue, collectValue, collectEntries_eq_map, collectEntries_eq_map, List.map_append,
        List.map_append, List.map_cons, List.map_cons]
      apply Collector.permutes_shape
      apply Collector.perm_properties
      exact forall₂_replaced (fun p => ⟨rfl, fun v => .refl _⟩) _ _ ⟨rfl, ih⟩

theorem permutes_of_reordered {s s' : Value}
    (reordered : Relation.EqvGen (Inside (fun _ => Reordered) none) s s') :
    (s.Plain ↔ s'.Plain) ∧ (collectValue s).Permutes (collectValue s') := by
  induction reordered with
  | rel s s' inside => exact ⟨plain_iff_of_inside inside, permutes_of_inside inside⟩
  | refl s => exact ⟨.rfl, fun v => .refl _⟩
  | symm _ _ _ ih => exact ⟨ih.1.symm, fun v => (ih.2 v).symm⟩
  | trans _ _ _ _ _ first second =>
      exact ⟨first.1.trans second.1, fun v => (first.2 v).trans (second.2 v)⟩

theorem exists_validate_tells {s : Value} (plain : s.Plain) (v : Value) :
    ∃ verdict, (value s).validate v = .ok verdict ∧ verdict.Tells ((value s).failures v) := by
  obtain ⟨rule, compiled⟩ := exists_compileValue_of_plain plain
  exact ⟨rule.check v, validate_value_eq_ok.2 ⟨rule, compiled, rfl⟩, reports_collectValue compiled v⟩

/-- A schema made of arrays, objects and literals says the same of a value however the objects in
the value are reordered, change their classes and get or lose keys that the schema does not list at
their place. Reordering the objects in the schema keeps what is accepted and the list of all
failures but for its order, and the failure that is told is the first of that list. -/
theorem validate_unseen {s : Value} (plain : s.Plain) :
    (∀ v v', Relation.EqvGen (Inside Unseen (some s)) v v' →
      (value s).validate v' = (value s).validate v) ∧
    ∀ s', Relation.EqvGen (Inside (fun _ => Reordered) none) s s' → ∀ v,
      ∃ verdict verdict', (value s).validate v = .ok verdict ∧ (value s').validate v = .ok verdict' ∧
        (verdict = .conforms ↔ verdict' = .conforms) ∧
        verdict.Tells ((value s).failures v) ∧ verdict'.Tells ((value s').failures v) ∧
        ((value s).failures v).Perm ((value s').failures v) := by
  constructor
  · intro v v' changed
    induction changed with
    | rel v v' inside => exact validate_eq_of_inside plain inside
    | refl v => rfl
    | symm _ _ _ ih => exact ih.symm
    | trans _ _ _ _ _ first second => exact second.trans first
  · intro s' reordered v
    obtain ⟨plain_iff, permutes⟩ := permutes_of_reordered reordered
    obtain ⟨verdict, validated, tells⟩ := exists_validate_tells plain v
    obtain ⟨verdict', validated', tells'⟩ := exists_validate_tells (plain_iff.1 plain) v
    have perm : ((value s).failures v).Perm ((value s').failures v) := permutes v
    refine ⟨verdict, verdict', validated, validated', ?_, tells, tells', perm⟩
    rw [tells.conforms_iff, tells'.conforms_iff, ← List.length_eq_zero_iff, perm.length_eq,
      List.length_eq_zero_iff]

theorem validate_unseen_nested :
    let around (u : Value) : Value := .object 0 .object [("a", .array 1 [u])]
    let s := around (.object 2 .object [("b", .null), ("c", .bool true)])
    let s' := around (.object 2 .object [("c", .bool true), ("b", .null)])
    let v := around (.object 3 .object [("b", .bool true), ("c", .null)])
    let v' := around (.object 4 Class.error [("c", .null), ("x", .undefined), ("b", .bool true)])
    (value s).validate v = .ok (.fails ⟨["a", "0", "b"], "expected null, got Boolean true"⟩) ∧
      (value s).validate v' = (value s).validate v ∧
      ∃ verdict, (value s').validate v = .ok verdict ∧ verdict ≠ .conforms ∧
        verdict = .fails ⟨["a", "0", "c"], "expected Boolean true, got null"⟩ := by
  intro around s s' v v'
  have plain : s.Plain := by
    have item : (Value.object 2 .object [("b", .null), ("c", .bool true)]).Plain := by
      refine .object (by decide) ?_
      rw [List.forall_mem_cons, List.forall_mem_singleton]
      exact ⟨.literal (.inl rfl), .literal (.inl rfl)⟩
    refine .object (by decide) (List.forall_mem_singleton.2 ?_)
    exact .array (List.forall_mem_singleton.2 item)
  have step {change : Option Value → Value → Value → Prop} {part : Option Value} {u u' : Value}
      (changed : change ((part.bind (Value.entryPart "a")).bind (Value.itemPart 0)) u u') :
      Inside change part (around u) (around u') :=
    @Inside.entry _ _ 0 0 .object [] [] _ _ _ (@Inside.item _ _ 1 1 [] [] _ _ (.here changed))
  obtain ⟨unchanged, reordered⟩ := validate_unseen plain
  refine ⟨rfl, unchanged v v' ?_, ?_⟩
  · let part := ((some s).bind (Value.entryPart "a")).bind (Value.itemPart 0)
    let b : String × Value := ("b", .bool true)
    let c : String × Value := ("c", .null)
    have order : Unseen part (.object 3 .object [b, c]) (.object 3 .object [c, b]) :=
      .reordered (.object (by decide) (.swap c b []))
    have cls : Unseen part (.object 3 .object [c, b]) (.object 4 Class.error [c, b]) := .reclassed
    have key : Unseen part (.object 4 Class.error ([c] ++ [b]))
        (.object 4 Class.error ([c] ++ ("x", .undefined) :: [b])) := .added (by decide)
    exact .trans _ _ _ (.rel _ _ (step order))
      (.trans _ _ _ (.rel _ _ (step cls)) (.rel _ _ (step key)))
  · have order : Reordered (.object 2 .object [("b", .null), ("c", .bool true)])
        (.object 2 .object [("c", .bool true), ("b", .null)]) :=
      .object (by decide) (.swap _ _ [])
    have inside : Inside (fun _ => Reordered) none s s' := step order
    obtain ⟨verdict, verdict', told, told', same, -⟩ := reordered s' (.rel _ _ inside) v
    have wrong : verdict = .fails ⟨["a", "0", "b"], "expected null, got Boolean true"⟩ :=
      Except.ok.inj (told.symm.trans rfl)
    refine ⟨verdict', told', ?_, Except.ok.inj (told'.symm.trans rfl)⟩
    rw [ne_eq, ← same, wrong]
    nofun

end Schema
end ShapeCheck
