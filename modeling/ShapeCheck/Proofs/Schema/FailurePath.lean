import ShapeCheck.Proofs.Rule.Array
import ShapeCheck.Proofs.Rule.Instance
import ShapeCheck.Proofs.Value.Run

namespace ShapeCheck

namespace Mismatch

/-! ## Steps in messages -/

theorem toList_message_cons (step : String) (path : List String) (reason : String) :
    (message ⟨step :: path, reason⟩).toList =
      '[' :: (step.toList ++ ']' :: ' ' :: (message ⟨path, reason⟩).toList) := by
  have chars := congrArg String.toList (message_under ⟨path, reason⟩ step)
  simpa [under] using chars

theorem append_closing_inj {step step' rest rest' : List Char} (clear : ']' ∉ step)
    (clear' : ']' ∉ step') (same : step ++ ']' :: rest = step' ++ ']' :: rest') :
    step = step' ∧ rest = rest' := by
  have upTo {cs tail : List Char} (clear : ']' ∉ cs) :
      (cs ++ ']' :: tail).takeWhile (· ≠ ']') = cs := by
    have others : ∀ c ∈ cs, decide (c ≠ ']') = true := fun c member =>
      decide_eq_true (ne_of_mem_of_not_mem member clear)
    rw [List.takeWhile_append_of_pos others, List.takeWhile_cons_of_neg (by decide), List.append_nil]
  have steps := congrArg (List.takeWhile (· ≠ ']')) same
  rw [upTo clear, upTo clear'] at steps
  subst steps
  exact ⟨rfl, (List.cons.inj (List.append_cancel_left same)).2⟩

theorem path_isPrefix_of_message {m n : Mismatch} (clear : ∀ step ∈ m.path, ']' ∉ step.toList)
    (clear' : ∀ step ∈ n.path, ']' ∉ step.toList) (words : n.reason.toList.head? ≠ some '[')
    (same : m.message = n.message) : m.path <+: n.path := by
  obtain ⟨path, reason⟩ := m
  obtain ⟨path', reason'⟩ := n
  replace same := congrArg String.toList same
  dsimp only at clear clear' words ⊢
  induction path generalizing path' with
  | nil => exact List.nil_prefix
  | cons step path ih =>
      rw [toList_message_cons] at same
      cases path' with
      | nil => exact absurd (congrArg List.head? same.symm) words
      | cons step' path' =>
          rw [List.forall_mem_cons] at clear clear'
          rw [toList_message_cons] at same
          obtain ⟨steps, rests⟩ :=
            append_closing_inj clear.1 clear'.1 (List.cons.inj same).2
          rw [String.toList_inj.1 steps, List.cons_prefix_cons]
          exact ⟨rfl, ih clear.2 path' clear'.2 (List.cons.inj rests).2⟩

/-- Whether a mismatch says of the value itself what was expected. -/
structure Expects (m : Mismatch) : Prop where
  here : m.path = []
  words : "expected ".toList <+: m.reason.toList

theorem Expects.of_failing {reason : String} {m : Mismatch}
    (words : "expected ".toList <+: reason.toList)
    (failed : Verdict.failing reason = .fails m) : m.Expects := by
  have described : reason.isEmpty = false := by
    rw [Bool.eq_false_iff, Ne, String.isEmpty_iff]
    rintro rfl
    simp at words
  rw [Verdict.failing_eq described, Verdict.fails.injEq] at failed
  subst failed
  exact ⟨rfl, words⟩

theorem Expects.of_require {condition : Bool} {reason : String} {m : Mismatch}
    (words : "expected ".toList <+: reason.toList)
    (failed : Verdict.require condition reason = .fails m) : m.Expects := by
  cases condition with
  | true => cases failed
  | false => exact .of_failing words failed

theorem Expects.head?_ne {m : Mismatch} (expects : m.Expects) : m.reason.toList.head? ≠ some '[' := by
  obtain ⟨rest, reason⟩ := expects.words
  rw [← reason]
  simp

end Mismatch

namespace Rule

/-! ## Where the rules of examples fail -/

theorem expects_of_fails_literal {expected v : Value} {m : Mismatch}
    (failed : (literal expected).check v = .fails m) : m.Expects := by
  refine .of_require ?_ failed
  simp

theorem fails_objectShape {props : Entries Rule} {v : Value} {m : Mismatch}
    (failed : (objectShape props).check v = .fails m) :
    m.Expects ∨ FailsUnder props v m := by
  by_cases isObject : v.tag = .object
  · rw [check_objectShape, Verdict.ofObject_eq_conforms.2 isObject] at failed
    exact .inr (failsUnder_of_all failed)
  · rw [check_objectShape_other isObject] at failed
    exact .inl (.of_failing (by simp) failed)

theorem fails_tuple {rules : List Rule} {v : Value} {m : Mismatch}
    (failed : (tuple rules).check v = .fails m) :
    m.Expects ∨ FailsUnder (Entries.atPositions 0 rules) v m := by
  by_cases isArray : v.tag = .array
  · cases v with
    | array id items =>
        by_cases same : items.length = rules.length
        · rw [← check_objectLike_atPositions id same, check_objectLike] at failed
          exact .inr (failsUnder_of_all failed)
        · rw [check_tuple, if_neg same] at failed
          exact .inl (.of_failing (by simp) failed)
    | _ => cases isArray
  · rw [check_tuple_other isArray] at failed
    exact .inl (.of_failing (by simp) failed)

theorem expects_of_ofInstance {cls : Class} {v : Value} {m : Mismatch}
    (failed : Verdict.ofInstance cls v = .fails m) : m.Expects :=
  .of_require (by simp) failed

end Rule

namespace Value

/-! ## Ways into an example -/

def steps : Value → Entries Value
  | array _ items => Entries.atPositions 0 items
  | object _ _ entries => entries
  | error _ _ message entries => Entries.insertAll [("message", string message)] entries
  | _ => []

inductive LeadsTo : Value → List String → Value → Prop
  | here (v : Value) : LeadsTo v [] v
  | step {v w : Value} {p : String × Value} {path : List String} (member : p ∈ v.steps)
    (leads : LeadsTo p.2 path w) : LeadsTo v (p.1 :: path) w

/-- Whether no key in a value has a bracket that would close a step. -/
def NoKeyCloses (v : Value) : Prop :=
  ∀ w, v.Holds w → ∀ key ∈ w.entryKeys, ']' ∉ key.toList

instance (v : Value) : Decidable v.NoKeyCloses :=
  decidable_of_iff (∀ w ∈ v.parts, ∀ key ∈ w.entryKeys, ']' ∉ key.toList)
    (forall_congr' fun _ => imp_congr_left mem_parts_iff)

theorem closing_notMem_toString (i : Nat) : ']' ∉ (toString i).toList := by
  rw [Nat.toString_eq_repr, Nat.toList_repr]
  intro member
  exact absurd (isDigit_of_mem_toDigits _ member) (by decide)

theorem mem_steps_error {id : Identity} {cls : Class} {message : String} {entries : Entries Value}
    {p : String × Value} (member : p ∈ (error id cls message entries).steps) :
    p ∈ Entries.ofList entries ∨ p = ("message", string message) := by
  obtain ⟨key, u⟩ := p
  have distinct := Entries.nodup_keys_insertAll entries
    (Entries.nodup_keys_singleton ("message", string message))
  have found := (Entries.find?_eq_some_iff distinct).2 member
  rw [Entries.find?_insertAll, ← Entries.find?_ofList, Option.or_eq_some_iff] at found
  rw [← Entries.find?_eq_some_iff (Entries.nodup_keys_ofList entries)]
  refine found.imp_right fun given => List.mem_singleton.1 ?_
  exact (Entries.find?_eq_some_iff (Entries.nodup_keys_singleton _)).1 given.2

theorem NoKeyCloses.part {v w : Value} (clear : v.NoKeyCloses) (held : v.Holds w) : w.NoKeyCloses :=
  fun _ inner => clear _ (held.trans inner)

theorem NoKeyCloses.step {v : Value} {p : String × Value} (clear : v.NoKeyCloses)
    (member : p ∈ v.steps) : ']' ∉ p.1.toList ∧ p.2.NoKeyCloses := by
  cases v with
  | array id items =>
      obtain ⟨place, inside, rfl⟩ := List.mem_map.1 member
      have item := List.fst_mem_of_mem_zipIdx inside
      exact ⟨closing_notMem_toString _, clear.part (.item item (.self _))⟩
  | object id cls entries =>
      have key : p.1 ∈ Entries.keys entries := List.mem_map_of_mem member
      exact ⟨clear _ (.self _) _ key, clear.part (.entry member (.self _))⟩
  | error id cls message entries =>
      rcases mem_steps_error member with entry | rfl
      · have key : p.1 ∈ Entries.keys entries :=
          List.mem_map_of_mem (Entries.mem_of_mem_ofList entry)
        exact ⟨clear _ (.self _) _ key, clear.part (.errorEntry entry (.self _))⟩
      · refine ⟨by simp, fun w held => ?_⟩
        rw [eq_of_holds_of_plain rfl held]
        exact List.forall_mem_nil _
  | _ => cases member

theorem NoKeyCloses.path {v w : Value} {path : List String} (clear : v.NoKeyCloses)
    (leads : v.LeadsTo path w) : ∀ step ∈ path, ']' ∉ step.toList := by
  induction leads with
  | here => exact List.forall_mem_nil _
  | step member _ ih =>
      have next := clear.step member
      exact List.forall_mem_cons.2 ⟨next.1, ih next.2⟩

end Value

namespace Schema

/-! ## Where examples fail -/

theorem errorResults_eq_compileEntries (id : Identity) (cls : Class) (message : String)
    (entries : Entries Value) :
    errorResults message entries = compileEntries (Value.error id cls message entries).steps := by
  have each : Entries.Related (fun v r => compileValue v = r)
      (Value.error id cls message entries).steps (errorResults message entries) :=
    Entries.Related.insertAll (.cons ⟨rfl, rfl⟩ .nil) (related_compileEntries entries)
  rw [each.eq_map, compileEntries_eq_map]

theorem fails_part {parts : Entries Value} {props : Entries Rule} {v : Value} {m : Mismatch}
    (each : Entries.Related (fun u rule => compileValue u = .ok rule) parts props)
    (failed : Rule.FailsUnder props v m) :
    ∃ p ∈ parts, ∃ inner, (value p.2).validate (v.get p.1) = .ok (.fails inner) ∧
      m = inner.under p.1 := by
  obtain ⟨q, member, inner, fails, told⟩ := failed
  obtain ⟨i, place⟩ := List.getElem?_of_mem member
  obtain ⟨p, found, key, compiled⟩ := getElem?_of_forall₂ each place
  refine ⟨p, List.mem_of_getElem? found, inner, ?_, key ▸ told⟩
  rw [validate_value_eq_ok]
  exact ⟨q.2, compiled, key ▸ fails⟩

theorem fails_example {s v : Value} {m : Mismatch}
    (failed : (value s).validate v = .ok (.fails m)) :
    m.Expects ∨ ∃ p ∈ s.steps, ∃ inner,
      (value p.2).validate (v.get p.1) = .ok (.fails inner) ∧ m = inner.under p.1 := by
  obtain ⟨rule, compiled, fails⟩ := validate_value_eq_ok.1 failed
  cases s with
  | array id items =>
      obtain ⟨rules, each, rfl⟩ := compileValue_array.1 compiled
      exact (Rule.fails_tuple fails).imp_right (fails_part (Entries.related_atPositions each 0))
  | object id cls entries =>
      obtain ⟨props, each, rfl⟩ := compileValue_object.1 compiled
      exact (Rule.fails_objectShape fails).imp_right (fails_part each)
  | error id cls message entries =>
      obtain ⟨props, each, rfl⟩ := compileValue_error.1 compiled
      rw [errorResults_eq_compileEntries id cls, ← allEntriesOk_eq_ok,
        allEntriesOk_compileEntries] at each
      exact (Rule.fails_instanceOfWith fails).imp Rule.expects_of_ofInstance (fails_part each)
  | regexp | function => cases compiled
  | _ =>
      cases compiled
      exact .inl (Rule.expects_of_fails_literal fails)

theorem exists_part_of_fails {s v : Value} {m : Mismatch}
    (failed : (value s).validate v = .ok (.fails m)) :
    ∃ part, s.LeadsTo m.path part ∧
      (value part).validate (m.path.foldl Value.get v) = .ok (.fails ⟨[], m.reason⟩) ∧
      Mismatch.Expects ⟨[], m.reason⟩ := by
  obtain ⟨path, reason⟩ := m
  induction path generalizing s v with
  | nil =>
      rcases fails_example failed with expects | ⟨p, -, inner, -, told⟩
      · exact ⟨s, .here s, failed, expects⟩
      · cases told
  | cons step path ih =>
      rcases fails_example failed with expects | ⟨p, member, inner, fails, told⟩
      · cases expects.here
      · cases told
        obtain ⟨part, leads, here⟩ := ih fails
        exact ⟨part, .step member leads, here⟩

/-- Examples whose keys have no closing brackets leave messages that tell where a value fails: the
steps in front of a message lead to the part of the example that the value found by these steps
fails, and what the message says of that value follows them. -/
theorem path_of_message {s s' v v' : Value} {m m' : Mismatch} (clear : s.NoKeyCloses)
    (clear' : s'.NoKeyCloses) (failed : (value s).validate v = .ok (.fails m))
    (failed' : (value s').validate v' = .ok (.fails m')) :
    (m.message = m'.message → m.path = m'.path ∧ m.reason = m'.reason) ∧
    (∃ part, s.LeadsTo m.path part ∧
      (value part).validate (m.path.foldl Value.get v) = .ok (.fails ⟨[], m.reason⟩)) ∧
    m.message = String.join (m.path.map fun step => "[" ++ step ++ "] ") ++ m.reason ∧
    ∀ steps rest, (∀ step ∈ steps, ']' ∉ step.toList) →
      m.message = String.join (steps.map fun step => "[" ++ step ++ "] ") ++ rest →
      steps <+: m.path := by
  obtain ⟨part, leads, fails, expects⟩ := exists_part_of_fails failed
  obtain ⟨part', leads', -, expects'⟩ := exists_part_of_fails failed'
  have steps := clear.path leads
  have steps' := clear'.path leads'
  refine ⟨fun same => ?_, ⟨part, leads, fails⟩, m.message_eq_join, ?_⟩
  · have first := Mismatch.path_isPrefix_of_message steps steps' expects'.head?_ne same
    have second := Mismatch.path_isPrefix_of_message steps' steps expects.head?_ne same.symm
    have paths := first.eq_of_length_le second.length_le
    rw [m.message_eq_join, m'.message_eq_join, paths] at same
    exact ⟨paths, (String.append_right_inj _).1 same⟩
  · intro others rest clearOthers split
    have same : Mismatch.message ⟨others, rest⟩ = m.message := by
      rw [split, Mismatch.message_eq_join]
    exact Mismatch.path_isPrefix_of_message clearOthers steps expects.head?_ne same

theorem path_of_message_brackets :
    ∃ m m', (value (.object 16 .object [("[", .array 17 [.string "] [b]"])])).validate
        (.object 18 .object [("[", .array 19 [.null])]) = .ok (.fails m) ∧
      (value (.object 20 .object [("[", .object 21 .object [("0", .string "] [b]")])])).validate
        (.object 22 .object [("[", .object 23 .object [("0", .null), ("1", .null)])]) =
          .ok (.fails m') ∧
      m.message = "[[] [0] expected String ] [b], got null" ∧
      m.path = m'.path ∧ m.reason = m'.reason ∧
      ∀ steps rest, (∀ step ∈ steps, ']' ∉ step.toList) →
        m.message = String.join (steps.map fun step => "[" ++ step ++ "] ") ++ rest →
        steps <+: ["[", "0"] := by
  let s : Value := .object 16 .object [("[", .array 17 [.string "] [b]"])]
  let s' : Value := .object 20 .object [("[", .object 21 .object [("0", .string "] [b]")])]
  have clear : s.NoKeyCloses := by decide +kernel
  have clear' : s'.NoKeyCloses := by decide +kernel
  have failed : (value s).validate (.object 18 .object [("[", .array 19 [.null])]) =
      .ok (.fails ⟨["[", "0"], "expected String ] [b], got null"⟩) := by
    rfl
  have failed' : (value s').validate
      (.object 22 .object [("[", .object 23 .object [("0", .null), ("1", .null)])]) =
        .ok (.fails ⟨["[", "0"], "expected String ] [b], got null"⟩) := by
    rfl
  obtain ⟨same, -, -, longest⟩ := path_of_message clear clear' failed failed'
  obtain ⟨paths, reasons⟩ := same rfl
  exact ⟨_, _, failed, failed', by decide +kernel, paths, reasons, longest⟩

end Schema
end ShapeCheck
