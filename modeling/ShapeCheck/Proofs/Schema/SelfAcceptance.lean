import ShapeCheck.Proofs.Class
import ShapeCheck.Proofs.Schema.ErrorExample
import ShapeCheck.Proofs.Value.Run

namespace ShapeCheck

/-- Whether no error in a value has an entry in the place of its message. -/
def Value.MessagesKept (v : Value) : Prop :=
  ∀ {id cls message} {entries : Entries Value}, v.Holds (.error id cls message entries) →
    "message" ∉ entries.keys

namespace Schema

theorem check_self {v : Value} {rule : Rule} (distinct : ∀ {w}, v.Holds w → w.entryKeys.Nodup)
    (kept : v.MessagesKept) (compiled : compileValue v = .ok rule) : rule.check v = .conforms := by
  induction v using Value.induct generalizing rule with
  | array id items ih =>
      obtain ⟨rules, each, rfl⟩ := compileValue_array.1 compiled
      refine Rule.check_tuple_eq_conforms.2 ⟨id, items, rfl, ?_⟩
      refine forall₂_flip_of_mem each fun u member rule compiled => ?_
      exact ih u member (fun held => distinct (.item member held))
        (fun held => kept (.item member held)) compiled
  | object id cls entries ih =>
      obtain ⟨props, each, rfl⟩ := compileValue_object.1 compiled
      have keys : (Entries.keys entries).Nodup := distinct (.self _)
      refine Rule.check_objectShape_eq_conforms.2 ⟨rfl, ?_⟩
      refine each.forall_of_mem (Q := fun key rule =>
        rule.check ((Value.object id cls entries).get key) = .conforms) fun p member rule compiled => ?_
      rw [Value.get_object id cls keys member]
      exact ih p member (fun held => distinct (.entry member held))
        (fun held => kept (.entry member held)) compiled
  | error id cls message entries ih =>
      obtain ⟨props, each, rfl⟩ := compileValue_error.1 compiled
      have keys : (Entries.keys entries).Nodup := distinct (.self _)
      have noMessage : "message" ∉ entries.keys := kept (.self _)
      have isInstance : (Value.error id cls message entries).isInstanceOf cls = true :=
        Class.isA_self cls
      refine Rule.check_instanceOfWith_eq_conforms.2 ⟨⟨isInstance, rfl⟩, ?_⟩
      refine each.forall_of_mem (Q := fun key rule =>
        rule.check ((Value.error id cls message entries).get key) = .conforms) ?_
      -- No entry replaces the demand on the message, which therefore comes before those of the
      -- entries.
      refine (forall_errorResults (P := fun key r => ∀ rule, r = .ok rule →
        rule.check ((Value.error id cls message entries).get key) = .conforms) keys).2 ⟨?_, ?_⟩
      · intro _ rule compiled
        cases compiled
        exact Rule.check_literal_eq_conforms.2 (Value.sameLiteral_self _)
      · intro p member rule compiled
        have other : p.1 ≠ "message" := fun named => noMessage (named ▸ List.mem_map_of_mem member)
        rw [Value.get_error id cls message keys member other]
        exact ih p member (fun held => distinct (.ofErrorEntry keys member held))
          (fun held => kept (.ofErrorEntry keys member held)) compiled
  | other v notArray notObject notError =>
      rw [compileValue_other notArray notObject notError compiled]
      exact Rule.check_literal_eq_conforms.2 (Value.sameLiteral_self v)

/-- Of the values that a program has, one that can serve as an example accepts each one that is
literally equal to it, provided that all errors in it keep their messages. -/
theorem validate_of_sameLiteral {hand : List Value} {next : Identity} {v w : Value}
    (run : Value.Run hand next) (memberV : v ∈ hand) (memberW : w ∈ hand)
    (same : v.sameLiteral w = true) (compiles : ∃ rule, (value v).compile = .ok rule)
    (kept : v.MessagesKept) : (value v).validate w = .ok .conforms := by
  obtain ⟨rule, compiled⟩ := compiles
  have accepted : rule.check w = .conforms := by
    by_cases container : v.tag = .array ∨ v.tag = .object ∨ v.tag = .error
    · rw [← run.eq_of_sameLiteral memberV memberW container same]
      exact check_self (fun held => run.sound.distinct ⟨v, memberV, held⟩) kept compiled
    · rw [not_or, not_or] at container
      obtain ⟨notArray, notObject, notError⟩ := container
      rw [compileValue_other notArray notObject notError compiled]
      exact Rule.check_literal_eq_conforms.2 same
  exact accepts_value_iff.2 ⟨rule, compiled, accepted⟩

theorem validate_error_read_back :
    (value (.error 19 Class.typeError "bad" [("name", .string "E"),
        ("seen", .array 18 [.symbol 16 none, .date 17 ⟨0⟩, .number .nan])])).validate
      ((Value.object 20 .object [("cause", .error 19 Class.typeError "bad" [("name", .string "E"),
        ("seen", .array 18 [.symbol 16 none, .date 17 ⟨0⟩, .number .nan])])]).get "cause") =
      .ok .conforms := by
  let seen : Value := .array 18 [.symbol 16 none, .date 17 ⟨0⟩, .number .nan]
  let cause : Value := .error 19 Class.typeError "bad" [("name", .string "E"), ("seen", seen)]
  let outer : Value := .object 20 .object [("cause", cause)]
  have leaves : Value.Run [.number .nan, .date 17 ⟨0⟩, .symbol 16 none] 18 :=
    .make (.make (.make (.start 16) (.symbol none) rfl) (.date ⟨0⟩) rfl) (.scalar rfl) rfl
  have array : Value.Run (seen :: _) 19 := leaves.make (.array (by simp)) rfl
  have named : Value.Run (.string "E" :: _) 19 := array.make (.scalar rfl) rfl
  have error : Value.Run (cause :: _) 20 :=
    named.make (@Value.Making.error _ _ _ [("name", .string "E"), ("seen", seen)] (by simp)) rfl
  have object : Value.Run (outer :: _) 21 :=
    error.make (@Value.Making.object _ _ [("cause", cause)] (by simp)) rfl
  have read : Value.Run (cause :: _) 21 := object.make (.property List.mem_cons_self "cause") rfl
  have kept : cause.MessagesKept := by
    intro id cls message entries held
    have listed := Value.mem_parts_iff.2 held
    have parts : cause.parts = [cause, .string "E", seen, .symbol 16 none, .date 17 ⟨0⟩, .number .nan] :=
      rfl
    simp only [parts, cause, seen, List.mem_cons, Value.error.injEq, reduceCtorEq, List.not_mem_nil,
      or_false] at listed
    obtain ⟨-, -, -, rfl⟩ := listed
    decide
  exact validate_of_sameLiteral read List.mem_cons_self List.mem_cons_self rfl ⟨_, rfl⟩ kept

end Schema
end ShapeCheck
