import ShapeCheck.Assertion
import ShapeCheck.Proofs.Json.Value
import ShapeCheck.Proofs.Rule
import ShapeCheck.Proofs.Schema.Compile
import ShapeCheck.Proofs.Value

namespace ShapeCheck

def Binary64.sameNumber (x y : Binary64) : Bool :=
  x.equals y || (x.isNaN && y.isNaN)

namespace Json

def field? (entries : Entries Json) (key : String) : Option Json :=
  Entries.find? key (Entries.ofList entries)

/-- Whether a document is included in another: scalars in equal ones, arrays place by place in
arrays of the same length, and objects in objects that have all their keys. -/
inductive Included : Json → Json → Prop
  | null : Included null null
  | bool (b : Bool) : Included (bool b) (bool b)
  | number {n m : WrittenNumber} (same : n.toBinary64.sameNumber m.toBinary64) :
      Included (number n) (number m)
  | string (s : String) : Included (string s) (string s)
  | array {items others : List Json} (each : List.Forall₂ Included items others) :
      Included (array items) (array others)
  | object {entries others : Entries Json}
      (has : ∀ key, (field? entries key).isSome → (field? others key).isSome)
      (each : ∀ key j k, field? entries key = some j → field? others key = some k → Included j k) :
      Included (object entries) (object others)

theorem included_array {items others : List Json} :
    Included (array items) (array others) ↔ List.Forall₂ Included items others :=
  ⟨fun h => by cases h; assumption, .array⟩

theorem included_object {entries others : Entries Json} :
    Included (object entries) (object others) ↔
      ∀ key j, field? entries key = some j → ∃ k, field? others key = some k ∧ Included j k := by
  constructor
  · rintro (_ | _ | _ | _ | _ | ⟨has, each⟩) key j found
    obtain ⟨k, there⟩ := Option.isSome_iff_exists.1 (has key (by rw [found]; rfl))
    exact ⟨k, there, each key j k found there⟩
  · intro h
    refine .object ?_ ?_
    · intro key present
      obtain ⟨j, found⟩ := Option.isSome_iff_exists.1 present
      obtain ⟨k, there, -⟩ := h key j found
      rw [there]
      rfl
    · intro key j k found there
      obtain ⟨k', there', included⟩ := h key j found
      rw [there, Option.some.injEq] at there'
      exact there' ▸ included

theorem Included.tag_eq {s d : Json} (h : Included s d) : s.tag = d.tag := by
  cases h <;> rfl

/-- A rule asks for the documents that include `s`, and for a value at all. -/
def Demands (s : Json) (rule : Rule) : Prop :=
  (∀ d v, Represents d v → (rule.check v = .conforms ↔ Included s d)) ∧
    rule.check .undefined ≠ .conforms

theorem demands_literal {s : Json} {expected : Value} (model : Represents s expected)
    (same : ∀ d v, Represents d v → s.tag = d.tag →
      (expected.sameLiteral v = true ↔ Included s d)) : Demands s (.literal expected) := by
  refine ⟨fun d v represents => ?_, ?_⟩
  · rw [Rule.check_literal_eq_conforms]
    by_cases kinds : s.tag = d.tag
    · exact same d v represents kinds
    · refine iff_of_false (fun equal => kinds ?_) fun included => kinds included.tag_eq
      rw [← model.tag_eq, ← represents.tag_eq]
      exact Value.tag_eq_of_sameLiteral equal
  · rw [ne_eq, Rule.check_literal_eq_conforms]
    intro equal
    have kinds : s.tag = .undefined := model.tag_eq ▸ Value.tag_eq_of_sameLiteral equal
    cases s <;> cases kinds

theorem demands_null : Demands .null (.literal .null) := by
  refine demands_literal rfl fun d v represents kinds => ?_
  cases d <;> cases kinds
  cases represents
  exact iff_of_true rfl .null

theorem demands_bool (b : Bool) : Demands (.bool b) (.literal (.bool b)) := by
  refine demands_literal rfl fun d v represents kinds => ?_
  cases d <;> cases kinds
  rename_i c
  cases represents
  cases b <;> cases c
  · exact iff_of_true rfl (.bool false)
  · exact iff_of_false Bool.false_ne_true nofun
  · exact iff_of_false Bool.false_ne_true nofun
  · exact iff_of_true rfl (.bool true)

theorem demands_number (n : WrittenNumber) :
    Demands (.number n) (.literal (.number n.toBinary64)) := by
  refine demands_literal rfl fun d v represents kinds => ?_
  cases d <;> cases kinds
  cases represents
  exact ⟨.number, fun included => by cases included; assumption⟩

theorem demands_string (s : String) : Demands (.string s) (.literal (.string s)) := by
  refine demands_literal rfl fun d v represents kinds => ?_
  cases d <;> cases kinds
  cases represents
  rw [Value.sameLiteral_string]
  exact ⟨fun equal => by cases equal; exact .string s, fun included => by cases included; rfl⟩

theorem demands_tuple {items : List Json} {rules : List Rule}
    (each : List.Forall₂ Demands items rules) : Demands (.array items) (.tuple rules) := by
  refine ⟨fun d v represents => ?_, by rw [ne_eq, Rule.check_tuple_eq_conforms]; nofun⟩
  rw [Rule.check_tuple_eq_conforms]
  by_cases kinds : d.tag = .array
  · cases d <;> cases kinds
    rename_i others
    obtain ⟨id, values, rfl, represented⟩ := represents_array.1 represents
    rw [included_array]
    have pointwise : List.Forall₂ (fun rule v => rule.check v = .conforms) rules values ↔
        List.Forall₂ Included items others := by
      clear represents
      induction each generalizing others values with
      | nil => cases represented <;> simp
      | cons demands _ ih =>
          cases represented with
          | nil => simp
          | cons head tail =>
              rw [List.forall₂_cons, List.forall₂_cons, demands.1 _ _ head, ih _ _ tail]
    exact ⟨fun ⟨_, _, equal, all⟩ => by cases equal; exact pointwise.1 all,
      fun all => ⟨_, _, rfl, pointwise.2 all⟩⟩
  · refine iff_of_false ?_ fun included => kinds included.tag_eq.symm
    intro given
    obtain ⟨_, _, rfl, -⟩ := given
    exact kinds represents.tag_eq.symm

theorem Demands.check_get {s : Json} {rule : Rule} (demands : Demands s rule)
    {others : Entries Json} {values : Entries Value} {id : Identity} {cls : Class}
    (related : Entries.Related Represents (Entries.ofList others) values) (key : String) :
    rule.check ((Value.object id cls values).get key) = .conforms ↔
      ∃ k, field? others key = some k ∧ Included s k := by
  have found := related.find? key
  rw [field?, Value.get]
  revert found
  cases Entries.find? key (Entries.ofList others) <;> cases Entries.find? key values <;>
    intro found <;> cases found
  · exact iff_of_false demands.2 nofun
  · rename_i k v represents
    rw [Option.getD_some, demands.1 k v represents]
    simp

theorem demands_objectShape {entries : Entries Json} {props : Entries Rule}
    (each : Entries.Related Demands (Entries.ofList entries) props) :
    Demands (.object entries) (.objectShape props) := by
  refine ⟨fun d v represents => ?_, ?_⟩
  · rw [Rule.check_objectShape_eq_conforms]
    by_cases kinds : d.tag = .object
    · cases d <;> cases kinds
      rename_i others
      obtain ⟨id, values, rfl, related⟩ := represents_object represents
      have there : (∀ p ∈ Entries.ofList entries, ∃ k, field? others p.1 = some k ∧ Included p.2 k) ↔
          Included (.object entries) (.object others) := by
        rw [included_object, Prod.forall]
        simp only [field?, Entries.find?_eq_some_iff (Entries.nodup_keys_ofList entries)]
      rw [← there, each.forall_iff fun key s rule demands => (demands.check_get related key).symm]
      exact and_iff_right rfl
    · refine iff_of_false ?_ fun included => kinds included.tag_eq.symm
      rw [represents.tag_eq]
      exact fun accepted => kinds accepted.1
  · rw [ne_eq, Rule.check_objectShape_eq_conforms]
    exact fun accepted => nomatch accepted.1

theorem compileValue_demands (s : Json) (model : Value) (represents : Represents s model) :
    ∃ rule, Schema.compileValue model = .ok rule ∧ Demands s rule := by
  induction s using Json.induct generalizing model with
  | null => cases represents; exact ⟨_, rfl, demands_null⟩
  | bool b => cases represents; exact ⟨_, rfl, demands_bool b⟩
  | number n => cases represents; exact ⟨_, rfl, demands_number n⟩
  | string s => cases represents; exact ⟨_, rfl, demands_string s⟩
  | array items ih =>
      obtain ⟨id, models, rfl, represented⟩ := represents_array.1 represents
      obtain ⟨rules, compiled, each⟩ := forall₂_choose represented fun j member v => ih j member v
      exact ⟨_, Schema.compileValue_array.2 ⟨rules, compiled, rfl⟩, demands_tuple each⟩
  | object entries ih =>
      obtain ⟨id, models, rfl, related⟩ := represents_object represents
      obtain ⟨props, compiled, each⟩ := related.choose fun p member v =>
        ih p (Entries.mem_of_mem_ofList member) v
      exact ⟨_, Schema.compileValue_object.2 ⟨props, compiled, rfl⟩, demands_objectShape each⟩

/-- Validating the value of one document by that of another never finds the schema at fault, and
the value conforms exactly when the schema is included in it. -/
theorem validate_toValue_iff_included (s d : Json) (m n : Identity) :
    ∃ verdict,
      (Schema.value (s.toValue.run m).1).validate (d.toValue.run n).1 = .ok verdict ∧
        (verdict = .conforms ↔ Included s d) := by
  obtain ⟨rule, compiled, demands⟩ := compileValue_demands s _ (represents_toValue s m)
  refine ⟨rule.check (d.toValue.run n).1, ?_, demands.1 d _ (represents_toValue d n)⟩
  rw [Schema.validate, Schema.compile, compiled]
  rfl

end Json
end ShapeCheck
