import ShapeCheck.Proofs.Class
import ShapeCheck.Proofs.Schema.Compile
import ShapeCheck.Proofs.Value

namespace ShapeCheck

namespace Class.Sound

variable {known : List Class} {next : Identity}

theorem isInstanceOf_of_isA (sound : Sound known next) {c d : Class} {v : Value} (memberC : c ∈ known)
    (memberD : d ∈ known) (ofKnown : ∀ k ∈ v.class?, k ∈ known) (up : d.isA c = true)
    (isInstance : v.isInstanceOf d = true) : v.isInstanceOf c = true := by
  obtain ⟨k, ofClass, below⟩ := (Option.any_eq_true _ _).1 isInstance
  refine (Option.any_eq_true _ _).2 ⟨k, ofClass, ?_⟩
  exact sound.isA_trans (ofKnown k ofClass) memberD memberC below up

end Class.Sound

namespace Rule

theorem check_instanceOf {cls : Class} {v : Value} :
    (instanceOf cls).check v = .conforms ↔ v.isInstanceOf cls = true := by
  rw [check, Verdict.ofInstance_eq_conforms]

theorem check_prototypedBy_function {cls : Class} {id : Identity} {info : FunctionInfo} :
    (prototypedBy cls).check (.function id info) = .conforms ↔
      ∃ c, info.constructs = some c ∧ c.descendsFrom cls = true := by
  rw [check, Verdict.ofPrototype, Verdict.require_eq_conforms, Option.any_eq_true]

theorem check_prototypedBy_constructor {cls k : Class} {free : Identity} :
    (prototypedBy cls).check ((Value.newConstructor k).run free).1 = .conforms ↔
      k.descendsFrom cls = true := by
  refine check_prototypedBy_function.trans ⟨?_, fun down => ⟨k, rfl, down⟩⟩
  rintro ⟨c, constructs, down⟩
  rwa [← Option.some.inj constructs] at down

theorem check_prototypedBy_other {cls : Class} {v : Value} (other : v.tag ≠ .function) :
    (prototypedBy cls).check v = .conforms ↔ (instanceOf cls).check v = .conforms := by
  rw [check_instanceOf]
  cases v with
  | function => cases other rfl
  | undefined | null => exact iff_of_false nofun Bool.false_ne_true
  | _ => exact Verdict.require_eq_conforms

theorem check_instanceOfWith_eq_all (cls : Class) (props : Entries Rule) (v : Value) :
    (instanceOfWith cls props).check v = (allOf [instanceOf cls, objectLike props]).check v := by
  have both : (allOf [instanceOf cls, objectLike props]).check v =
      (Verdict.ofInstance cls v).andThen
        (((Verdict.ofPresent v).andThen (.all (checkProps props v))).andThen .conforms) :=
    rfl
  rw [both, Verdict.andThen_conforms, check_instanceOfWith, Verdict.andThen_assoc]

theorem fails_instanceOfWith {cls : Class} {props : Entries Rule} {v : Value} {m : Mismatch}
    (failed : (instanceOfWith cls props).check v = .fails m) :
    Verdict.ofInstance cls v = .fails m ∨ FailsUnder props v m := by
  rw [check_instanceOfWith] at failed
  by_cases isInstance : v.isInstanceOf cls = true
  · have present := Verdict.ofPresent_eq_conforms.2 (Value.isNullish_of_isInstanceOf isInstance)
    rw [Verdict.ofInstance_eq_conforms.2 isInstance, present] at failed
    exact .inr (failsUnder_of_all failed)
  · left
    rw [Verdict.ofInstance, Verdict.require_of_not (Bool.not_eq_true _ ▸ isInstance)] at failed ⊢
    exact failed

theorem message_instanceOfWith_ne {cls : Class} {props : Entries Rule} {v : Value} {m : Mismatch}
    (failed : (instanceOfWith cls props).check v = .fails m) (text : String) :
    m.message ≠ "expected non null value, got " ++ text := by
  intro same
  have chars := congrArg String.toList same
  rcases fails_instanceOfWith failed with ofClass | ⟨p, -, inner, -, rfl⟩
  · rw [Verdict.ofInstance, Verdict.require] at ofClass
    split at ofClass
    · cases ofClass
    · cases ofClass
      simp [Mismatch.ofReason, Mismatch.message] at chars
  · simp [Mismatch.message_under] at chars

end Rule

namespace Schema

theorem ofEntries_compiles {entries : List (String × Schema)} :
    (ofEntries entries).Compiles ↔
      ∃ props, allEntriesOk (compileShape (Entries.ofList entries)) = .ok props := by
  simp only [Compiles, ofEntries, compile, bind_eq_ok, pure_eq_ok]
  constructor
  · rintro ⟨_, props, ok, rfl⟩
    exact ⟨props, ok⟩
  · rintro ⟨props, ok⟩
    exact ⟨_, props, ok, rfl⟩

/-- A constructor is prototyped by a class when instances of its class are instances of the class and
the classes differ; no other function is, and all other values are prototyped by the classes they are
instances of. To ask for a class with properties is to ask for the class and then for the properties,
and to ask for less the further up the class is. -/
theorem instance_checks_agree {known : List Class} {next : Identity} (run : Class.Run known next) :
    (∀ c ∈ known, ∀ k ∈ known, ∀ entries free free',
      (Rule.prototypedBy c).check ((Value.newConstructor k).run free).1 = .conforms ↔
        k.same c = false ∧
          (Rule.instanceOf c).check ((Value.newObject k entries).run free').1 = .conforms) ∧
    (∀ c id info, info.constructs = none →
      (Rule.prototypedBy c).check (.function id info) ≠ .conforms) ∧
    (∀ c v, v.tag ≠ .function →
      ((Rule.prototypedBy c).check v = .conforms ↔ (Rule.instanceOf c).check v = .conforms)) ∧
    (∀ c entries, (ofEntries entries).Compiles → ∃ rule like both,
      instanceOfWith c entries = .ok rule ∧ objectLike entries = .ok like ∧
      combine .all [.rule (.instanceOf c), .rule like] = .ok both ∧
      ∀ v, rule.check v = both.check v ∧ ∀ m text, rule.check v = .fails m →
        m.message ≠ "expected non null value, got " ++ text) ∧
    ∀ c ∈ known, ∀ d ∈ known, d.isA c = true → ∀ entries, (ofEntries entries).Compiles →
      ∃ ofD ofC, instanceOfWith d entries = .ok ofD ∧ instanceOfWith c entries = .ok ofC ∧
        ∀ v, (∀ k ∈ v.class?, k ∈ known) → ofD.check v = .conforms → ofC.check v = .conforms := by
  refine ⟨?_, ?_, fun c v => Rule.check_prototypedBy_other, ?_, ?_⟩
  · intro c memberC k memberK entries free free'
    have isInstance : ((Value.newObject k entries).run free').1.isInstanceOf c = k.isA c := rfl
    rw [Rule.check_prototypedBy_constructor, Rule.check_instanceOf, isInstance,
      run.sound.descendsFrom_iff memberK memberC, and_comm]
  · intro c id info plain conforms
    obtain ⟨k, constructs, -⟩ := Rule.check_prototypedBy_function.1 conforms
    cases plain.symm.trans constructs
  · intro c entries compiles
    obtain ⟨props, ok⟩ := ofEntries_compiles.1 compiles
    refine ⟨.instanceOfWith c props, .objectLike props, _, by rw [instanceOfWith, ok]; rfl,
      by rw [objectLike, ok]; rfl, rfl, fun v => ?_⟩
    exact ⟨Rule.check_instanceOfWith_eq_all c props v, fun m text failed =>
      Rule.message_instanceOfWith_ne failed text⟩
  · intro c memberC d memberD up entries compiles
    obtain ⟨props, ok⟩ := ofEntries_compiles.1 compiles
    refine ⟨.instanceOfWith d props, .instanceOfWith c props, by rw [instanceOfWith, ok]; rfl,
      by rw [instanceOfWith, ok]; rfl, fun v ofKnown => ?_⟩
    rw [Rule.check_instanceOfWith_eq_conforms, Rule.check_instanceOfWith_eq_conforms]
    rintro ⟨⟨isInstance, present⟩, properties⟩
    have above := run.sound.isInstanceOf_of_isA memberC memberD ofKnown up isInstance
    exact ⟨⟨above, present⟩, properties⟩

theorem instance_checks_agree_extended :
    let a := Class.extending 16 "A" .object
    let b := Class.extending 17 "B" a
    let wanted := [("open", rule (.kind .boolean))]
    let v := Value.object 18 b [("open", .bool true)]
    Class.Run (b :: a :: Class.standard) 18 ∧
      (Rule.prototypedBy a).check ((Value.newConstructor b).run 18).1 = .conforms ∧
      (Rule.prototypedBy a).check ((Value.newConstructor a).run 18).1 ≠ .conforms ∧
      ∃ ofB ofA, instanceOfWith b wanted = .ok ofB ∧ instanceOfWith a wanted = .ok ofA ∧
        ofB.check v = .conforms ∧ ofA.check v = .conforms := by
  intro a b wanted v
  have first : Class.Run (a :: Class.standard) 17 := .make .start (.root "A") rfl
  have run : Class.Run (b :: a :: Class.standard) 18 :=
    .make first (.under "B" (by simp : a ∈ a :: Class.standard)) rfl
  obtain ⟨makers, -, -, -, upwards⟩ := instance_checks_agree run
  have extended := makers a (by decide) b (by decide) [] 18 18
  have itself := makers a (by decide) a (by decide) [] 18 18
  obtain ⟨ofB, ofA, narrow, wide, higher⟩ :=
    upwards a (by decide) b (by decide) (by decide) wanted ⟨_, rfl⟩
  have accepted : ofB.check v = .conforms := by
    cases narrow
    decide
  refine ⟨run, extended.2 (by decide), fun conforms => ?_, ofB, ofA, narrow, wide, accepted, ?_⟩
  · exact absurd (itself.1 conforms).1 (by decide)
  · refine higher v (fun k ofClass => ?_) accepted
    cases ofClass
    decide

end Schema
end ShapeCheck
