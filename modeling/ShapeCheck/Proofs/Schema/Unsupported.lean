import ShapeCheck.Proofs.Schema.Compile
import ShapeCheck.Proofs.Value.Parts

namespace ShapeCheck

variable {α β γ : Type}

def Value.describesNothing (v : Value) : Bool :=
  v.tag = .regexp ∨ v.tag = .function

namespace Schema

/-- Whether a value lies in a schema. Rules are not looked into. -/
inductive Reaches : Schema → Value → Prop
  | value {v w : Value} (held : v.Holds w) : Reaches (value v) w
  | item {items : List Schema} {s : Schema} {w : Value} (member : s ∈ items) (reached : Reaches s w) :
    Reaches (tuple items) w
  | entry {entries : Entries Schema} {p : String × Schema} {w : Value} (member : p ∈ entries)
    (reached : Reaches p.2 w) : Reaches (shape entries) w

mutual

def values : Schema → List Value
  | rule _ => []
  | value v => v.parts
  | tuple items => valuesAll items
  | shape entries => valuesShape entries

def valuesAll : List Schema → List Value
  | [] => []
  | s :: rest => s.values ++ valuesAll rest

def valuesShape : List (String × Schema) → List Value
  | [] => []
  | (_, s) :: rest => s.values ++ valuesShape rest

end

theorem valuesAll_eq_flatMap (items : List Schema) : valuesAll items = items.flatMap values := by
  induction items with
  | nil => rw [valuesAll, List.flatMap_nil]
  | cons s rest ih => rw [valuesAll, List.flatMap_cons, ih]

theorem valuesShape_eq_flatMap (entries : Entries Schema) :
    valuesShape entries = entries.flatMap fun p => p.2.values := by
  induction entries with
  | nil => rw [valuesShape, List.flatMap_nil]
  | cons p rest ih => rw [valuesShape, List.flatMap_cons, ih]

theorem mem_values_iff {s : Schema} {w : Value} : w ∈ s.values ↔ s.Reaches w := by
  induction s using Schema.induct with
  | rule r =>
      rw [values]
      exact iff_of_false List.not_mem_nil nofun
  | value v =>
      rw [values, Value.mem_parts_iff]
      refine ⟨.value, fun reached => ?_⟩
      cases reached with
      | value held => exact held
  | tuple items ih =>
      rw [values, valuesAll_eq_flatMap, List.mem_flatMap]
      constructor
      · rintro ⟨s, member, inside⟩
        exact .item member ((ih s member).1 inside)
      · intro reached
        cases reached with
        | item member reached => exact ⟨_, member, (ih _ member).2 reached⟩
  | shape entries ih =>
      rw [values, valuesShape_eq_flatMap, List.mem_flatMap]
      constructor
      · rintro ⟨p, member, inside⟩
        exact .entry member ((ih p member).1 inside)
      · intro reached
        cases reached with
        | entry member reached => exact ⟨_, member, (ih _ member).2 reached⟩

def Tells (result : Except Error α) (vs : List Value) : Prop :=
  match vs.find? Value.describesNothing with
  | none => ∃ a, result = .ok a
  | some v => result = .error (.unsupported v.tag)

theorem tells_ok (a : α) : Tells (.ok a) [] :=
  ⟨a, rfl⟩

def unsupported? (v : Value) : Option Error :=
  (Option.guard Value.describesNothing v).map fun v => .unsupported v.tag

theorem tells_iff_stopsAtFirst {result : Except Error α} {vs : List Value} :
    Tells result vs ↔ StopsAtFirst unsupported? vs result := by
  have first : vs.findSome? unsupported? =
      (vs.find? Value.describesNothing).map fun v => .unsupported v.tag := by
    rw [← List.findSome?_guard, List.map_findSome?]
    rfl
  rw [Tells, StopsAtFirst, first]
  cases vs.find? Value.describesNothing <;> rfl

theorem Tells.map {result : Except Error α} {vs : List Value} (tells : Tells result vs) (f : α → β) :
    Tells (result >>= fun a => pure (f a)) vs :=
  tells_iff_stopsAtFirst.2 ((tells_iff_stopsAtFirst.1 tells).map f)

theorem Tells.bind {result : Except Error α} {vs ws : List Value} {f : α → Except Error β}
    (tells : Tells result vs) (next : ∀ a, Tells (f a) ws) : Tells (result >>= f) (vs ++ ws) :=
  tells_iff_stopsAtFirst.2 <|
    (tells_iff_stopsAtFirst.1 tells).bind fun a => tells_iff_stopsAtFirst.1 (next a)

theorem tells_allOk {items : List γ} {f : γ → Except Error α} {g : γ → List Value}
    (each : ∀ x ∈ items, Tells (f x) (g x)) : Tells (allOk (items.map f)) (items.flatMap g) := by
  apply tells_iff_stopsAtFirst.2
  apply stopsAtFirst_allOk
  intro x member
  exact tells_iff_stopsAtFirst.1 (each x member)

theorem tells_allEntriesOk {entries : Entries γ} {f : γ → Except Error α} {g : γ → List Value}
    (each : ∀ p ∈ entries, Tells (f p.2) (g p.2)) :
    Tells (allEntriesOk (entries.map fun p => (p.1, f p.2))) (entries.flatMap fun p => g p.2) := by
  induction entries with
  | nil => exact tells_ok []
  | cons p rest ih =>
      rw [List.forall_mem_cons] at each
      exact each.1.bind fun a => (ih each.2).map ((p.1, a) :: ·)

theorem tells_cons {result : Except Error α} {v : Value} {vs : List Value}
    (describes : v.describesNothing = false) : Tells result (v :: vs) ↔ Tells result vs := by
  unfold Tells
  rw [List.find?_cons_of_neg (by simp [describes])]

theorem errorResults_eq (message : String) (entries : Entries Value) :
    errorResults message entries =
      ("message", ((Entries.find? "message" (Entries.ofList entries)).map compileValue).getD
        (.ok (.literal (.string message)))) ::
      ((Entries.ofList entries).filter fun p => p.1 ≠ "message").map fun p =>
        (p.1, compileValue p.2) := by
  rw [errorResults, compileEntries_eq_map, Entries.insertAll_singleton, Entries.ofList_map,
    Entries.find?_map, List.filter_map]
  rfl

theorem compileValue_tells (v : Value) : Tells (compileValue v) v.parts := by
  induction v using Value.induct with
  | array id items ih =>
      rw [Value.parts_array, tells_cons rfl, compileValue, compileValues_eq_map]
      exact (tells_allOk ih).map _
  | object id cls entries ih =>
      rw [Value.parts_object, tells_cons rfl, compileValue, compileEntries_eq_map]
      exact (tells_allEntriesOk ih).map _
  | error id cls message entries ih =>
      have each (p : String × Value) (member : p ∈ Entries.ofList entries) :=
        ih p (Entries.mem_of_mem_ofList member)
      have results := errorResults_eq message entries
      rw [errorResults] at results
      rw [Value.parts_error, tells_cons rfl, compileValue, results, allEntriesOk]
      -- First what counts as the message, then the entries that are left.
      refine Tells.map (Tells.bind ?_ fun rule => Tells.map (tells_allEntriesOk ?_) _) _
      · cases found : Entries.find? "message" (Entries.ofList entries) with
        | none => exact tells_ok _
        | some v =>
            exact each _ ((Entries.find?_eq_some_iff (Entries.nodup_keys_ofList entries)).1 found)
      · exact fun p member => each p (List.mem_of_mem_filter member)
  | other v notArray notObject notError =>
      rw [Value.parts_other notArray notObject notError]
      cases v with
      | array => cases notArray rfl
      | object => cases notObject rfl
      | error => cases notError rfl
      | regexp => rfl
      | function => rfl
      | _ => exact ⟨_, rfl⟩

theorem compile_tells (s : Schema) : Tells s.compile s.values := by
  induction s using Schema.induct with
  | rule r => exact tells_ok r
  | value v => exact compileValue_tells v
  | tuple items ih =>
      rw [compile, compileAll_eq_map, values, valuesAll_eq_flatMap]
      exact (tells_allOk ih).map _
  | shape entries ih =>
      rw [compile, compileShape_eq_map, values, valuesShape_eq_flatMap]
      exact (tells_allEntriesOk ih).map _

/-- A schema fails to compile exactly when a pattern or a function lies in it, and the error then
names the first of these. -/
theorem compile_error_iff (s : Schema) :
    ((∃ e, s.compile = .error e) ↔ ∃ v, s.Reaches v ∧ (v.tag = .regexp ∨ v.tag = .function)) ∧
      ∀ e, s.compile = .error e ↔
        ∃ v, s.values.find? Value.describesNothing = some v ∧ e = .unsupported v.tag := by
  have told := compile_tells s
  unfold Tells at told
  cases first : s.values.find? Value.describesNothing with
  | none =>
      rw [first] at told
      obtain ⟨rule, ok⟩ := told
      refine ⟨iff_of_false (by simp [ok]) ?_, by simp [ok]⟩
      rintro ⟨v, reached, tag⟩
      have described := List.find?_eq_none.1 first v (mem_values_iff.2 reached)
      exact described (decide_eq_true tag)
  | some v =>
      rw [first] at told
      have reached : s.Reaches v := mem_values_iff.1 (List.mem_of_find?_eq_some first)
      have nothing : v.describesNothing = true := List.find?_some first
      have tag : v.tag = .regexp ∨ v.tag = .function := of_decide_eq_true nothing
      refine ⟨iff_of_true ⟨_, told⟩ ⟨v, reached, tag⟩, fun e => ?_⟩
      rw [told]
      simp [eq_comm]

-- An entry under the key of the message is looked at first, wherever it stands.
example (info : FunctionInfo) (p : Pattern) :
    (tuple [rule .anything, value (.error 0 Class.error "bad"
      [("code", .function 1 info), ("message", .regexp 2 p)])]).compile =
      .error (.unsupported .regexp) := rfl

end Schema
end ShapeCheck
