import ShapeCheck.Assertion
import ShapeCheck.Proofs.Schema.Compile
import ShapeCheck.Proofs.Schema.SelfAcceptance
import ShapeCheck.Proofs.Value
import ShapeCheck.Proofs.Verdict

namespace ShapeCheck

namespace AssertionError

theorem toValue_run (e : AssertionError) (n : Identity) :
    (e.toValue.run n).1 = .error n Class.assertionError e.message
      [("actual", e.actual), ("expected", .string e.expected), ("name", .string "AssertionError")] :=
  rfl

theorem compileValue_toValue (e : AssertionError) (n : Identity) :
    Schema.compileValue (e.toValue.run n).1 = (Schema.compileValue e.actual).map fun rule =>
      .instanceOfWith Class.assertionError [("message", .literal (.string e.message)),
        ("actual", rule), ("expected", .literal (.string e.expected)),
        ("name", .literal (.string "AssertionError"))] := by
  rw [toValue_run, Schema.compileValue, Schema.compileEntries_eq_map]
  cases compiled : Schema.compileValue e.actual with
  | error fault => rw [List.map_cons, compiled]; rfl
  | ok rule => rw [List.map_cons, compiled]; rfl

theorem check_toValue_self (e : AssertionError) (n : Identity) (rule : Rule) :
    (Rule.instanceOfWith Class.assertionError [("message", .literal (.string e.message)),
      ("actual", rule), ("expected", .literal (.string e.expected)),
      ("name", .literal (.string "AssertionError"))]).check (e.toValue.run n).1 =
      (rule.check e.actual).under "actual" := by
  have isInstance : (e.toValue.run n).1.isInstanceOf Class.assertionError = true :=
    Class.isA_self Class.assertionError
  have same (s : String) : (Rule.literal (.string s)).check (.string s) = .conforms :=
    Rule.check_literal_eq_conforms.2 (Value.sameLiteral_self _)
  have actual : (e.toValue.run n).1.get "actual" = e.actual := rfl
  have message : (e.toValue.run n).1.get "message" = .string e.message := rfl
  have expected : (e.toValue.run n).1.get "expected" = .string e.expected := rfl
  have name : (e.toValue.run n).1.get "name" = .string "AssertionError" := rfl
  rw [Rule.check_instanceOfWith, Verdict.ofInstance_eq_conforms.2 isInstance,
    Verdict.ofPresent_eq_conforms.2 (Value.isNullish_of_isInstanceOf isInstance),
    Rule.checkProps_eq_map]
  simp only [List.map_cons, List.map_nil, message, actual, expected, name, same]
  cases rule.check e.actual <;> rfl

theorem validate_toValue_self (e : AssertionError) (n : Identity) :
    (Schema.value (e.toValue.run n).1).validate (e.toValue.run n).1 =
      ((Schema.value e.actual).validate e.actual).map (.under "actual") := by
  rw [Schema.validate, Schema.validate, Schema.compile, Schema.compile, compileValue_toValue]
  cases Schema.compileValue e.actual with
  | error fault => rfl
  | ok rule => exact congrArg Except.ok (check_toValue_self e n rule)

end AssertionError

namespace Assertion

variable {ε : Type} {s : Schema} {v : Value}

def ofValidated (v : Value) (s : Schema) (onMismatch : Dissent → Option ε) :
    Except Schema.Error Verdict → Assertion ε
  | .error e => malformed e
  | .ok .conforms => holds
  | .ok (.breaks payload) => breaks payload
  | .ok (.fails m) => (onMismatch ⟨m.message, v, s⟩).elim (fails ⟨m.message, v, m.message⟩) failsWith

theorem withError_eq_ofValidated (onMismatch : Dissent → Option ε) :
    withError v s onMismatch = ofValidated v s onMismatch (s.validate v) := by
  rw [withError, Schema.validate]
  cases s.compile with
  | error e => rfl
  | ok rule =>
      have validated : (do return (← Except.ok rule).check v : Except Schema.Error Verdict) =
        .ok (rule.check v) := rfl
      rw [validated]
      cases checked : rule.check v with
      | conforms | breaks => simp [checked, ofValidated]
      | fails m => cases asked : onMismatch ⟨m.message, v, s⟩ <;> simp [checked, ofValidated, asked]

theorem withError_of_fails {m : Mismatch} (validated : s.validate v = .ok (.fails m))
    (onMismatch : Dissent → Option ε) :
    withError v s onMismatch = ((onMismatch ⟨m.message, v, s⟩).elim
      (.fails ⟨m.message, v, m.message⟩) .failsWith) := by
  rw [withError_eq_ofValidated, validated, ofValidated]

theorem withError_of_not_fails (unfailing : ∀ m, s.validate v ≠ .ok (.fails m))
    (onMismatch other : Dissent → Option ε) : withError v s onMismatch = withError v s other := by
  rw [withError_eq_ofValidated, withError_eq_ofValidated]
  cases validated : s.validate v with
  | error e => rfl
  | ok verdict =>
      cases verdict with
      | fails m => exact absurd validated (unfailing m)
      | conforms | breaks => rfl

/-- An assertion holds, is malformed or fails just as validation tells of the schema and the value.
Where validation finds a mismatch, the caller is told of it and gives the error or leaves it to the
assertion; otherwise it is of no account what the caller would give. The error of a failed assertion
is judged by itself as the value that was asserted on, one step further in. -/
theorem plain_iff_validate (s : Schema) (v : Value) :
    (plain v s = .holds ↔ s.validate v = .ok .conforms) ∧
      (∀ e, plain v s = .malformed e ↔ s.validate v = .error e) ∧
      (∀ failure, plain v s = .fails failure ↔
        ∃ m, s.validate v = .ok (.fails m) ∧ failure = ⟨m.message, v, m.message⟩) ∧
      (∀ (ε : Type) (onMismatch : Dissent → Option ε),
        (∀ m, s.validate v = .ok (.fails m) →
          withError v s onMismatch = ((onMismatch ⟨m.message, v, s⟩).elim
            (.fails ⟨m.message, v, m.message⟩) .failsWith)) ∧
        ((∀ m, s.validate v ≠ .ok (.fails m)) →
          ∀ other, withError v s onMismatch = withError v s other)) ∧
      ∀ failure n, plain v s = .fails failure →
        (Schema.value (failure.toValue.run n).1).validate (failure.toValue.run n).1 =
          ((Schema.value v).validate v).map (.under "actual") := by
  have told : (plain v s = .holds ↔ s.validate v = .ok .conforms) ∧
      (∀ e, plain v s = .malformed e ↔ s.validate v = .error e) ∧
      ∀ failure, plain v s = .fails failure ↔
        ∃ m, s.validate v = .ok (.fails m) ∧ failure = ⟨m.message, v, m.message⟩ := by
    rw [plain, withError_eq_ofValidated]
    cases s.validate v with
    | error e => simp [ofValidated]
    | ok verdict => cases verdict <;> simp [ofValidated, eq_comm]
  obtain ⟨holds, malformed, fails⟩ := told
  refine ⟨holds, malformed, fails, fun ε onMismatch => ⟨?_, ?_⟩, fun failure n failed => ?_⟩
  · exact fun m validated => withError_of_fails validated onMismatch
  · exact fun unfailing other => withError_of_not_fails unfailing onMismatch other
  · obtain ⟨m, -, rfl⟩ := (fails failure).1 failed
    exact AssertionError.validate_toValue_self _ n

end Assertion
end ShapeCheck
