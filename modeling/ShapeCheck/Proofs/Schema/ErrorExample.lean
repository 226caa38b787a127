import ShapeCheck.Proofs.Rule
import ShapeCheck.Proofs.Schema.Compile
import ShapeCheck.Proofs.Value

namespace ShapeCheck.Schema

def Accepts (s : Schema) (v : Value) : Prop :=
  s.validate v = .ok .conforms

theorem accepts_value_iff {model v : Value} :
    Accepts (.value model) v ↔
      ∃ rule, compileValue model = .ok rule ∧ rule.check v = .conforms :=
  validate_value_eq_ok

/-- What an error with these parts asks of a value: a value with properties, its class, its message
and all its entries. -/
def ErrorDemands (cls : Class) (message : String) (entries : Entries Value) (v : Value) : Prop :=
  v.isNullish = false ∧ v.isInstanceOf cls = true ∧ v.get "message" = .string message ∧
    ∀ p ∈ entries, Accepts (.value p.2) (v.get p.1)

theorem forall_errorResults {message : String} {entries : Entries Value}
    (distinct : entries.keys.Nodup) {P : String → Except Error Rule → Prop} :
    (∀ q ∈ errorResults message entries, P q.1 q.2) ↔
      ("message" ∉ entries.keys → P "message" (.ok (.literal (.string message)))) ∧
        ∀ p ∈ entries, P p.1 (compileValue p.2) := by
  have same : Entries.keys (compileEntries entries) = entries.keys :=
    (related_compileEntries entries).keys_eq.symm
  have member (q : String × Except Error Rule) : q ∈ errorResults message entries ↔
      (∃ p ∈ entries, (p.1, compileValue p.2) = q) ∨
        q.1 ∉ entries.keys ∧ q = ("message", .ok (.literal (.string message))) := by
    rw [errorResults, Entries.mem_insertAll (Entries.nodup_keys_singleton _) (same ▸ distinct), same,
      compileEntries_eq_map, List.mem_map, List.mem_singleton]
  constructor
  · intro each
    refine ⟨fun absent => ?_, fun p inside => ?_⟩
    · exact each ("message", _) ((member _).2 (.inr ⟨absent, rfl⟩))
    · exact each (p.1, _) ((member _).2 (.inl ⟨p, inside, rfl⟩))
  · rintro ⟨ofMessage, ofEntries⟩ q inside
    rcases (member q).1 inside with ⟨p, inEntries, rfl⟩ | ⟨absent, rfl⟩
    · exact ofEntries p inEntries
    · exact ofMessage absent

/-- An error whose entries all compile is compiled. Its rule asks for what the error demands, but
for the message only where no entry is under `message`; so the two differ on the values that are
accepted although they have another message. -/
theorem check_error_iff (id : Identity) (cls : Class) (message : String)
    (pairs : List (String × Value))
    (compiles : ∀ p ∈ Entries.ofList pairs, ∃ rule, compileValue p.2 = .ok rule) :
    ∃ rule, compileValue (.error id cls message (Entries.ofList pairs)) = .ok rule ∧
      (∀ v, rule.check v = .conforms ↔
        v.isNullish = false ∧ v.isInstanceOf cls = true ∧
          ("message" ∉ (Entries.ofList pairs).keys → v.get "message" = .string message) ∧
          ∀ p ∈ Entries.ofList pairs, Accepts (.value p.2) (v.get p.1)) ∧
      ∀ v, (rule.check v = .conforms ↔ ErrorDemands cls message (Entries.ofList pairs) v) ↔
        ¬("message" ∈ (Entries.ofList pairs).keys ∧ rule.check v = .conforms ∧
          v.get "message" ≠ .string message) := by
  have distinct := Entries.nodup_keys_ofList pairs
  obtain ⟨props, each⟩ : ∃ props, Entries.Related (fun r rule => r = .ok rule)
      (errorResults message (Entries.ofList pairs)) props :=
    Entries.related_of_forall ((forall_errorResults (P := fun _ r => ∃ rule, r = .ok rule)
      distinct).2 ⟨fun _ => ⟨_, rfl⟩, compiles⟩)
  have accepted (v : Value) : (Rule.instanceOfWith cls props).check v = .conforms ↔
      v.isNullish = false ∧ v.isInstanceOf cls = true ∧
        ("message" ∉ (Entries.ofList pairs).keys → v.get "message" = .string message) ∧
        ∀ p ∈ Entries.ofList pairs, Accepts (.value p.2) (v.get p.1) := by
    have properties : (∀ p ∈ props, p.2.check (v.get p.1) = .conforms) ↔
        ("message" ∉ (Entries.ofList pairs).keys → v.get "message" = .string message) ∧
          ∀ p ∈ Entries.ofList pairs, Accepts (.value p.2) (v.get p.1) := by
      let accept (key : String) (r : Except Error Rule) : Prop :=
        ∃ rule, r = .ok rule ∧ rule.check (v.get key) = .conforms
      refine (each.forall_iff (P := accept) (Q := fun key rule => rule.check (v.get key) = .conforms)
        fun key r rule ok => by simp [accept, ok]).symm.trans ?_
      refine (forall_errorResults (P := accept) distinct).trans ?_
      simp only [accept, Except.ok.injEq, exists_eq_left', Rule.check_literal_eq_conforms,
        Value.sameLiteral_string, accepts_value_iff]
    rw [Rule.check_instanceOfWith_eq_conforms, properties]
    tauto
  refine ⟨_, compileValue_error.2 ⟨props, each, rfl⟩, accepted, fun v => ?_⟩
  rw [accepted, ErrorDemands]
  tauto

theorem check_error_with_name_entry :
    ∃ rule, compileValue (.error 0 Class.typeError "bad" (Entries.ofList [("name", .string "E")])) =
        .ok rule ∧
      rule.check (.error 1 Class.typeError "bad" [("name", .string "E")]) = .conforms ∧
      rule.check (.error 2 Class.typeError "bad" []) ≠ .conforms := by
  obtain ⟨rule, compiled, accepted, -⟩ :=
    check_error_iff 0 Class.typeError "bad" [("name", .string "E")]
      (List.forall_mem_singleton.2 ⟨_, rfl⟩)
  refine ⟨rule, compiled, (accepted _).2 ⟨rfl, rfl, fun _ => rfl, ?_⟩, fun conforms => ?_⟩
  · exact List.forall_mem_singleton.2 rfl
  · obtain ⟨-, -, -, entries⟩ := (accepted _).1 conforms
    obtain ⟨literal, named, same⟩ :=
      accepts_value_iff.1 (entries ("name", .string "E") List.mem_cons_self)
    cases named
    rw [Rule.check_literal_eq_conforms, Value.sameLiteral_string] at same
    exact absurd same (by simp [Value.get, Class.typeError, Class.name])

theorem error_with_message_entry_differs :
    ¬∃ rule, compileValue (.error 0 Class.error "a" (Entries.ofList [("message", .string "b")])) =
        .ok rule ∧
      ∀ v, rule.check v = .conforms ↔
        ErrorDemands Class.error "a" (Entries.ofList [("message", .string "b")]) v := by
  intro given
  obtain ⟨rule, compiled, demanded⟩ := given
  cases compiled
  have other := (demanded (.error 1 Class.error "b" [])).1 (by decide)
  exact absurd other.2.2.1 (by simp [Value.get])

end ShapeCheck.Schema
