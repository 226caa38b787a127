import ShapeCheck.Proofs.Rule
import ShapeCheck.Proofs.Schema.Compile
import ShapeCheck.Proofs.Schema.Induction
import ShapeCheck.Proofs.Value

/-!
# All failures of a value

A check stops at the first failure. `Schema.failures` goes through a schema in the same order and
stops nowhere, so it lists every failure with its path. Nothing is compiled for it, and no verdict
is combined.

* `reports_failures`: the verdict of a compiled schema tells the first of these failures.
* `check_tells_first_failure`: the same with the message spelled out.
-/

namespace ShapeCheck

abbrev Collector := Value → List Mismatch

namespace Collector

def ofRule (rule : Rule) : Collector := fun v =>
  match rule.check v with
  | .fails m => [⟨[], m.message⟩]
  | _ => []

def literal (expected : Value) : Collector := fun v =>
  if expected.sameLiteral v then []
  else [.ofReason ("expected " ++ expected.toText ++ ", got " ++ v.toText)]

def items (index : Nat) : List Collector → List Value → List Mismatch
  | c :: cs, v :: vs => (c v).map (·.under (toString index)) ++ items (index + 1) cs vs
  | _, _ => []

def tuple (cs : List Collector) : Collector
  | .array _ vs =>
    if vs.length = cs.length then items 0 cs vs
    else [.ofReason ("expected tuple of " ++ toString cs.length ++ " items, got " ++
      toString vs.length)]
  | v => [.ofReason ("expected tuple, got " ++ v.tag.toText)]

def properties (cs : Entries Collector) : Collector := fun v =>
  cs.flatMap fun p => (p.2 (v.get p.1)).map (·.under p.1)

def shape (cs : Entries Collector) : Collector := fun v =>
  if v.tag = .object then properties cs v
  else [.ofReason ("expected object, got " ++ v.toText)]

def instanceOf (cls : Class) (cs : Entries Collector) : Collector := fun v =>
  (if v.isInstanceOf cls then []
    else [.ofReason ("expected instanceof " ++ cls.name ++ " got instanceof " ++
      Verdict.classLabel v)]) ++ properties cs v

end Collector

namespace Schema

mutual

def collectValue : Value → Collector
  | .array _ items => .tuple (collectValues items)
  | .object _ _ entries => .shape (collectEntries entries)
  | .error _ cls message entries =>
    .instanceOf cls
      (Entries.insertAll [("message", .literal (.string message))] (collectEntries entries))
  | v => .literal v

def collectValues : List Value → List Collector
  | [] => []
  | v :: rest => collectValue v :: collectValues rest

def collectEntries : List (String × Value) → List (String × Collector)
  | [] => []
  | (key, v) :: rest => (key, collectValue v) :: collectEntries rest

end

mutual

/-- All failures of a value by a schema, in depth-first order of what the schema declares. -/
def failures : Schema → Collector
  | rule r => .ofRule r
  | value v => collectValue v
  | tuple items => .tuple (failuresAll items)
  | shape entries => .shape (failuresShape entries)

def failuresAll : List Schema → List Collector
  | [] => []
  | s :: rest => s.failures :: failuresAll rest

def failuresShape : List (String × Schema) → List (String × Collector)
  | [] => []
  | (key, s) :: rest => (key, s.failures) :: failuresShape rest

end

mutual

/-- Whether no rule in the schema ever breaks down. -/
def Steady : Schema → Prop
  | rule r => ∀ v payload, r.check v ≠ .breaks payload
  | value _ => True
  | tuple items => SteadyAll items
  | shape entries => SteadyShape entries

def SteadyAll : List Schema → Prop
  | [] => True
  | s :: rest => s.Steady ∧ SteadyAll rest

def SteadyShape : List (String × Schema) → Prop
  | [] => True
  | (_, s) :: rest => s.Steady ∧ SteadyShape rest

end

end Schema

/-! ## Verdicts that tell the first failure -/

/-- Whether a verdict is what a list of failures amounts to when only the first one is told. -/
def Verdict.Tells (verdict : Verdict) : List Mismatch → Prop
  | [] => verdict = .conforms
  | first :: _ => ∃ m, verdict = .fails m ∧ m.message = first.message

namespace Verdict.Tells

variable {v w : Verdict} {fs gs : List Mismatch}

theorem conforms_iff (h : v.Tells fs) : v = .conforms ↔ fs = [] := by
  cases fs with
  | nil => exact iff_of_true h rfl
  | cons f fs => obtain ⟨m, rfl, -⟩ := h; exact iff_of_false nofun nofun

theorem ne_breaks (h : v.Tells fs) (payload : Payload) : v ≠ .breaks payload := by
  cases fs with
  | nil => cases h; nofun
  | cons f fs => obtain ⟨m, rfl, -⟩ := h; nofun

theorem require (condition : Bool) (reason : String) :
    (Verdict.require condition reason).Tells (if condition then [] else [.ofReason reason]) := by
  cases condition with
  | true => exact require_of rfl reason
  | false => exact ⟨_, require_of_not rfl reason, rfl⟩

theorem failing (reason : String) : (Verdict.failing reason).Tells [.ofReason reason] :=
  ⟨_, rfl, rfl⟩

theorem under (h : v.Tells fs) (step : String) : (v.under step).Tells (fs.map (·.under step)) := by
  cases fs with
  | nil => cases h; rfl
  | cons f fs =>
      obtain ⟨m, rfl, told⟩ := h
      refine ⟨m.under step, rfl, ?_⟩
      change "[" ++ step ++ "] " ++ m.message = "[" ++ step ++ "] " ++ f.message
      rw [told]

theorem andThen (hv : v.Tells fs) (hw : w.Tells gs) : (v.andThen w).Tells (fs ++ gs) := by
  cases fs with
  | nil => cases hv; exact hw
  | cons f fs => obtain ⟨m, rfl, told⟩ := hv; exact ⟨m, rfl, told⟩

end Verdict.Tells

/-! ## Rules that report the first failure -/

def Rule.Reports (rule : Rule) (c : Collector) : Prop :=
  ∀ v, (rule.check v).Tells (c v)

namespace Rule

theorem reports_ofRule {rule : Rule} (steady : ∀ v payload, rule.check v ≠ .breaks payload) :
    rule.Reports (.ofRule rule) := by
  intro v
  rw [Collector.ofRule]
  cases verdict : rule.check v with
  | conforms => rfl
  | fails m => exact ⟨m, rfl, rfl⟩
  | breaks payload => exact absurd verdict (steady v payload)

theorem reports_literal (expected : Value) : (literal expected).Reports (.literal expected) := by
  intro v
  rw [check_literal]
  exact .require _ _

theorem tells_properties {props : Entries Rule} {cs : Entries Collector}
    (each : Entries.Related Reports props cs) (v : Value) :
    (Verdict.all (checkProps props v)).Tells (Collector.properties cs v) := by
  induction each with
  | nil => rfl
  | @cons p q ps qs head _ ih =>
      rw [checkProps_cons, Verdict.all, Collector.properties, List.flatMap_cons, ← head.1]
      exact ((head.2 (v.get p.1)).under p.1).andThen ih

theorem tells_items {rules : List Rule} {cs : List Collector}
    (each : List.Forall₂ Reports rules cs) (index : Nat) (vs : List Value) :
    (Verdict.all (Verdict.underPositions index (checkItems rules vs))).Tells
      (Collector.items index cs vs) := by
  induction each generalizing index vs with
  | nil => rfl
  | cons head _ ih =>
      cases vs with
      | nil => rfl
      | cons v vs => exact ((head v).under (toString index)).andThen (ih (index + 1) vs)

theorem reports_tuple {rules : List Rule} {cs : List Collector}
    (each : List.Forall₂ Reports rules cs) : (tuple rules).Reports (.tuple cs) := by
  intro v
  cases v with
  | array id vs =>
      rw [check_tuple, Collector.tuple, each.length_eq]
      split
      · exact tells_items each 0 vs
      · exact .failing _
  | _ => exact .failing _

theorem reports_shape {props : Entries Rule} {cs : Entries Collector}
    (each : Entries.Related Reports props cs) : (objectShape props).Reports (.shape cs) := by
  intro v
  rw [check_objectShape, Collector.shape]
  by_cases object : v.tag = .object
  · rw [Verdict.ofObject_eq_conforms.2 object, if_pos object]
    exact tells_properties each v
  · rw [Verdict.ofObject, Verdict.require_of_not (decide_eq_false object), if_neg object]
    exact .failing _

theorem reports_instanceOf {cls : Class} {props : Entries Rule} {cs : Entries Collector}
    (each : Entries.Related Reports props cs) :
    (instanceOfWith cls props).Reports (.instanceOf cls cs) := by
  intro v
  rw [check_instanceOfWith, Collector.instanceOf]
  refine .andThen ?_ (tells_properties each v)
  by_cases isInstance : v.isInstanceOf cls = true
  · rw [Verdict.ofInstance_eq_conforms.2 isInstance, if_pos isInstance]
    exact Verdict.ofPresent_eq_conforms.2 (Value.isNullish_of_isInstanceOf isInstance)
  · rw [Verdict.ofInstance, Verdict.require_of_not (Bool.not_eq_true _ ▸ isInstance),
      if_neg isInstance]
    exact .failing _

end Rule

namespace Schema

/-! ## Compiled schemas report the first failure -/

theorem collectValues_eq_map (items : List Value) : collectValues items = items.map collectValue := by
  induction items with
  | nil => rw [collectValues, List.map_nil]
  | cons v rest ih => rw [collectValues, List.map_cons, ih]

theorem collectEntries_eq_map (entries : Entries Value) :
    collectEntries entries = entries.map fun p => (p.1, collectValue p.2) := by
  induction entries with
  | nil => rw [collectEntries, List.map_nil]
  | cons p rest ih => rw [collectEntries, List.map_cons, ih]

theorem failuresAll_eq_map (items : List Schema) : failuresAll items = items.map failures := by
  induction items with
  | nil => rw [failuresAll, List.map_nil]
  | cons s rest ih => rw [failuresAll, List.map_cons, ih]

theorem failuresShape_eq_map (entries : Entries Schema) :
    failuresShape entries = entries.map fun p => (p.1, p.2.failures) := by
  induction entries with
  | nil => rw [failuresShape, List.map_nil]
  | cons p rest ih => rw [failuresShape, List.map_cons, ih]

theorem steadyAll_iff {items : List Schema} : SteadyAll items ↔ ∀ s ∈ items, s.Steady := by
  induction items with
  | nil => simp [SteadyAll]
  | cons s rest ih => rw [SteadyAll, ih, List.forall_mem_cons]

theorem steadyShape_iff {entries : Entries Schema} :
    SteadyShape entries ↔ ∀ p ∈ entries, p.2.Steady := by
  induction entries with
  | nil => simp [SteadyShape]
  | cons p rest ih => rw [SteadyShape, ih, List.forall_mem_cons]

theorem related_errorResults {entries : Entries Value}
    (each : ∀ p ∈ entries, ∀ rule, compileValue p.2 = .ok rule → rule.Reports (collectValue p.2))
    (message : String) :
    Entries.Related (fun r c => ∀ rule, r = .ok rule → rule.Reports c)
      (errorResults message entries)
      (Entries.insertAll [("message", .literal (.string message))] (collectEntries entries)) := by
  refine Entries.Related.insertAll (.cons ⟨rfl, ?_⟩ .nil) ?_
  · intro rule compiled
    cases compiled
    exact Rule.reports_literal _
  · rw [compileEntries_eq_map, collectEntries_eq_map, Entries.Related, List.forall₂_map_left_iff,
      List.forall₂_map_right_iff, List.forall₂_same]
    exact fun p member => ⟨rfl, each p member⟩

theorem reports_collectValue {v : Value} {rule : Rule} (compiled : compileValue v = .ok rule) :
    rule.Reports (collectValue v) := by
  induction v using Value.induct generalizing rule with
  | array id items ih =>
      obtain ⟨rules, each, rfl⟩ := compileValue_array.1 compiled
      rw [collectValue, collectValues_eq_map]
      refine Rule.reports_tuple (List.forall₂_map_right_iff.2 ?_)
      exact forall₂_flip_of_mem each fun v member rule compiled => ih v member compiled
  | object id cls entries ih =>
      obtain ⟨props, each, rfl⟩ := compileValue_object.1 compiled
      rw [collectValue, collectEntries_eq_map]
      refine Rule.reports_shape (List.forall₂_map_right_iff.2 ?_)
      exact forall₂_flip_of_mem each fun p member q related =>
        ⟨related.1.symm, ih p member related.2⟩
  | error id cls message entries ih =>
      obtain ⟨props, each, rfl⟩ := compileValue_error.1 compiled
      rw [collectValue]
      have reports := related_errorResults fun p member rule => @ih p member rule
      exact Rule.reports_instanceOf (each.through (reports _) fun _ _ _ ok report => report _ ok)
  | other v notArray notObject notError =>
      cases v with
      | array => cases notArray rfl
      | object => cases notObject rfl
      | error => cases notError rfl
      | regexp => cases compiled
      | function => cases compiled
      | _ => cases compiled; exact Rule.reports_literal _

theorem reports_failures {s : Schema} {rule : Rule} (steady : s.Steady)
    (compiled : s.compile = .ok rule) : rule.Reports s.failures := by
  induction s using Schema.induct generalizing rule with
  | rule r =>
      cases compiled
      exact Rule.reports_ofRule steady
  | value v => exact reports_collectValue compiled
  | tuple items ih =>
      obtain ⟨rules, each, rfl⟩ := compile_tuple.1 compiled
      rw [failures, failuresAll_eq_map]
      refine Rule.reports_tuple (List.forall₂_map_right_iff.2 ?_)
      exact forall₂_flip_of_mem each fun s member rule compiled =>
        ih s member (steadyAll_iff.1 steady s member) compiled
  | shape entries ih =>
      obtain ⟨props, each, rfl⟩ := compile_shape.1 compiled
      rw [failures, failuresShape_eq_map]
      refine Rule.reports_shape (List.forall₂_map_right_iff.2 ?_)
      exact forall₂_flip_of_mem each fun p member q related =>
        ⟨related.1.symm, ih p member (steadyShape_iff.1 steady p member) related.2⟩

/-- A check of a value finds nothing exactly when there is nothing to be found, and otherwise tells
the first failure: each step of its path in brackets and then its reason. -/
theorem check_tells_first_failure {s : Schema} {rule : Rule} (steady : s.Steady)
    (compiled : s.compile = .ok rule) (v : Value) :
    (rule.check v = .conforms ↔ s.failures v = []) ∧
      ∀ first others, s.failures v = first :: others → ∃ m, rule.check v = .fails m ∧
        m.message = String.join (first.path.map fun step => "[" ++ step ++ "] ") ++ first.reason := by
  have tells := reports_failures steady compiled v
  refine ⟨tells.conforms_iff, fun first others listed => ?_⟩
  rw [listed] at tells
  obtain ⟨m, verdict, told⟩ := tells
  exact ⟨m, verdict, told.trans (Mismatch.message_eq_join first)⟩

theorem check_tells_wrong_class :
    ∃ rule m,
      (shape [("error", value (.error 0 Class.typeError "a" [("message", .string "b")])),
        ("pair", tuple [.rule (.kind .string), value (.bool true)])]).compile = .ok rule ∧
      rule.check (.object 1 .object [("error", .error 2 Class.error "c" []),
        ("pair", .array 3 [.null, .null])]) = .fails m ∧
      m.message = "[error] expected instanceof TypeError got instanceof Error" := by
  obtain ⟨-, told⟩ := check_tells_first_failure
    (s := shape [("error", value (.error 0 Class.typeError "a" [("message", .string "b")])),
      ("pair", tuple [rule (.kind .string), value (.bool true)])])
    ⟨trivial, ⟨fun v => Verdict.require_ne_breaks, trivial, trivial⟩, trivial⟩ rfl
    (.object 1 .object [("error", .error 2 Class.error "c" []), ("pair", .array 3 [.null, .null])])
  obtain ⟨m, verdict, message⟩ := told _ _ rfl
  exact ⟨_, m, rfl, verdict, message⟩

end Schema
end ShapeCheck
