import ShapeCheck.Proofs.Yaml.Conversion
import ShapeCheck.Yaml.Reading

namespace ShapeCheck.Yaml

/-- What text can say: different keys in each mapping, and numbers that are in range. -/
structure WellRead (y : Yaml) : Prop where
  distinct : EachMapping DistinctKeys y
  inRange : ∀ n, y.Holds (number n) → n.InRange

/-! ## Values from their parts -/

theorem wellRead_of_inRange {n : WrittenNumber} (inRange : n.InRange) : WellRead (number n) := by
  refine ⟨eachMapping_of_scalar nofun, fun m held => ?_⟩
  cases held
  exact inRange

theorem wellRead_sequence {items : List Yaml} (each : ∀ v ∈ items, WellRead v) :
    WellRead (sequence items) := by
  refine ⟨eachMapping_sequence.2 fun v member => (each v member).distinct, fun n held => ?_⟩
  cases held with
  | item member inside => exact (each _ member).inRange n inside

theorem wellRead_mapping {entries : List (Yaml × Yaml)} (distinct : DistinctKeys entries)
    (each : ∀ e ∈ entries, WellRead e.2) : WellRead (mapping entries) := by
  refine ⟨eachMapping_mapping.2 ⟨distinct, fun e member => (each e member).distinct⟩,
    fun n held => ?_⟩
  cases held with
  | value member inside => exact (each _ member).inRange n inside

theorem wellRead_tagged {content : Yaml} (inner : WellRead content) (tag : String) :
    WellRead (tagged tag content) := by
  refine ⟨eachMapping_tagged.2 inner.distinct, fun n held => ?_⟩
  cases held with
  | content inside => exact inner.inRange n inside

/-! ## Scalars -/

theorem wellRead_null : WellRead null :=
  ⟨eachMapping_of_scalar nofun, nofun⟩

theorem wellRead_bool (b : Bool) : WellRead (bool b) :=
  ⟨eachMapping_of_scalar nofun, nofun⟩

theorem wellRead_string (s : String) : WellRead (string s) :=
  ⟨eachMapping_of_scalar nofun, nofun⟩

theorem wellRead_float (x : Binary64) : WellRead (number (.float x)) :=
  wellRead_of_inRange trivial

theorem wellRead_of_sizeOf {n : Int} (fits : sizeOf n = .fits) : WellRead (number (.int n)) := by
  refine wellRead_of_inRange ?_
  rw [sizeOf] at fits
  split at fits
  · assumption
  · split at fits <;> cases fits

theorem wellRead_floatOrText (s : String) : WellRead (floatOrText s) := by
  rw [floatOrText]
  split
  · exact wellRead_string s
  · split
    · exact wellRead_float _
    · exact wellRead_string s

theorem wellRead_of_ofPlain? {s : String} {y : Yaml} (read : ofPlain? s = some y) : WellRead y := by
  rw [ofPlain?] at read
  split at read
  · cases read
    exact wellRead_null
  split at read
  · cases read
    exact wellRead_bool _
  · cases read
    exact wellRead_floatOrText s
  · split at read
    next fits =>
      cases read
      exact wellRead_of_sizeOf fits
    · cases read
    · cases read
      exact wellRead_floatOrText s

theorem wellRead_of_ofTagged? {tag s : String} {y : Yaml} (read : ofTagged? tag s = some y) :
    WellRead y := by
  rw [ofTagged?] at read
  split at read
  · obtain ⟨b, -, rfl⟩ := Option.map_eq_some_iff.1 read
    exact wellRead_bool b
  split at read
  · obtain ⟨n, -, sized⟩ := Option.bind_eq_some_iff.1 read
    obtain ⟨fits, made⟩ := Option.ite_none_right_eq_some.1 sized
    cases made
    exact wellRead_of_sizeOf fits
  split at read
  · obtain ⟨x, -, rfl⟩ := Option.map_eq_some_iff.1 read
    exact wellRead_float x
  split at read
  · obtain ⟨-, made⟩ := Option.ite_none_right_eq_some.1 read
    cases made
    exact wellRead_null
  · cases read
    exact wellRead_string s

theorem wellRead_of_ofScalar? {tag : Option String} {s : String} {plain : Bool} {y : Yaml}
    (read : ofScalar? tag s plain = some y) : WellRead y := by
  cases tag with
  | some tag => exact wellRead_of_ofTagged? read
  | none =>
      rw [ofScalar?, ofUntagged?] at read
      split at read
      · exact wellRead_of_ofPlain? read
      · cases read
        exact wellRead_string s

namespace Node

/-! ## Nodes -/

section
variable {α β : Type} {P : α → Prop} {Q : β → Prop}

def Gives (P : α → Prop) (m : Expansion α) : Prop :=
  ∀ left r, m.run left = some r → P r.1

theorem gives_pure {a : α} (holds : P a) : Gives P (pure a) := by
  intro left r run
  cases run
  exact holds

theorem gives_failure : Gives P failure := nofun

theorem gives_lift {o : Option α} (each : ∀ a, o = some a → P a) : Gives P (StateT.lift o) := by
  intro left r run
  obtain ⟨a, found, made⟩ := Option.bind_eq_some_iff.1 run
  cases made
  exact each a found

theorem Gives.bind {m : Expansion α} {f : α → Expansion β} (first : Gives P m)
    (rest : ∀ a, P a → Gives Q (f a)) : Gives Q (m >>= f) := by
  intro left r run
  rw [StateT.run_bind, Option.bind_eq_bind, Option.bind_eq_some_iff] at run
  obtain ⟨⟨a, less⟩, ran, run⟩ := run
  exact rest a (first left _ ran) less r run

theorem gives_any (m : Expansion α) : Gives (fun _ => True) m :=
  fun _ _ _ => trivial

theorem gives_mapM {f : β → Expansion α} {items : List β} (each : ∀ b ∈ items, Gives P (f b)) :
    Gives (fun made => ∀ a ∈ made, P a) (items.mapM f) := by
  induction items with
  | nil => exact gives_pure nofun
  | cons b rest ih =>
      rw [List.forall_mem_cons] at each
      rw [List.mapM_cons]
      exact each.1.bind fun a here => (ih each.2).bind fun made others =>
        gives_pure (List.forall_mem_cons.2 ⟨here, others⟩)

end

theorem distinctKeys_append {entries : List (Yaml × Yaml)} {k v : Yaml}
    (distinct : DistinctKeys entries) (other : hasKey k entries = false) :
    DistinctKeys (entries ++ [(k, v)]) := by
  refine List.pairwise_append.2 ⟨distinct, List.pairwise_singleton _ _, fun e member f last => ?_⟩
  rw [List.mem_singleton.1 last]
  exact Bool.not_eq_true _ ▸ List.any_eq_false.1 other e member

theorem distinct?_eq_some {entries pairs : List (Yaml × Yaml)} {y : Yaml}
    (distinct : DistinctKeys entries) (made : distinct? entries pairs = some y) :
    DistinctKeys (entries ++ pairs) ∧ y = .mapping (entries ++ pairs) := by
  induction pairs generalizing entries with
  | nil =>
      cases made
      rw [List.append_nil]
      exact ⟨distinct, rfl⟩
  | cons p rest ih =>
      rw [distinct?] at made
      split at made
      · cases made
      next other =>
        -- The invariant is that the keys of the entries so far are different.
        rw [List.append_cons]
        exact ih (distinctKeys_append distinct (Bool.not_eq_true _ ▸ other)) made

theorem gives_withTag {tag : Option String} {content : Option String → Expansion Yaml}
    (each : ∀ tag, Gives WellRead (content tag)) : Gives WellRead (withTag tag content) := by
  cases tag with
  | none => exact each none
  | some name =>
      unfold withTag
      dsimp only
      split
      · exact gives_failure
      · exact (each none).bind fun y inner => gives_pure (wellRead_tagged inner _)
      · exact each _

section
variable (targets : List (Nat × Node)) (depth : Nat) (p : Properties)

theorem expand_scalar (text : String) (plain : Bool) :
    (scalar p text plain).expand targets depth =
      withTag p.tag fun tag => Yaml.ofScalar? tag text plain := by
  rw [expand]
  rfl

theorem expand_sequence (items : List Node) :
    (sequence p items).expand targets (depth + 1) = withTag p.tag fun _ => do
      return .sequence (← items.mapM (expand targets depth)) := by
  rw [expand]
  rfl

theorem expand_mapping (entries : List (Node × Node)) :
    (mapping p entries).expand targets (depth + 1) = withTag p.tag (fun _ => do
      let pairs ← entries.mapM fun (k, v) => do
        return (← expand targets depth k, ← expand targets depth v)
      distinct? [] pairs) := by
  rw [expand]
  rfl

end

theorem gives_expand (targets : List (Nat × Node)) (depth : Nat) (n : Node) :
    Gives WellRead (n.expand targets depth) := by
  induction depth generalizing n with
  | zero =>
      rw [expand]
      refine (gives_any _).bind fun n _ => ?_
      cases n with
      | scalar p text plain =>
          exact gives_withTag fun tag => gives_lift fun y => wellRead_of_ofScalar?
      | _ => exact gives_failure
  | succ depth ih =>
      rw [expand]
      -- An alias may stand for any node, so all that is known of it is its form.
      refine (gives_any _).bind fun n _ => ?_
      cases n with
      | scalar p text plain =>
          exact gives_withTag fun tag => gives_lift fun y => wellRead_of_ofScalar?
      | sequence p items =>
          exact gives_withTag fun tag => (gives_mapM fun v _ => ih v).bind fun made each =>
            gives_pure (wellRead_sequence each)
      | mapping p entries =>
          refine gives_withTag fun tag => ?_
          refine (gives_mapM (P := fun e => WellRead e.2) fun e _ => ?pair).bind fun pairs each => ?_
          case pair =>
            exact (gives_any _).bind fun k _ => (ih e.2).bind fun v value => gives_pure value
          refine gives_lift fun y made => ?_
          obtain ⟨distinct, rfl⟩ := distinct?_eq_some .nil made
          exact wellRead_mapping distinct each
      | aliasOf target => exact gives_failure

end Node

theorem wellRead_of_read? {text : String} {y : Yaml} (read : read? text = some y) : WellRead y := by
  simp only [read?, Option.bind_eq_bind, Option.bind_eq_some_iff] at read
  obtain ⟨_, -, root, -, valued⟩ := read
  obtain ⟨r, run, rfl⟩ := Option.map_eq_some_iff.1 valued
  exact Node.gives_expand _ _ _ _ r run

/-! ## Numbers by their ranges -/

def signed? : WrittenNumber → Option Int
  | .int n => if -2 ^ 63 ≤ n ∧ n < 2 ^ 63 then some n else none
  | .float _ => none

def unsigned? : WrittenNumber → Option Int
  | .int n => if 0 ≤ n ∧ n < 2 ^ 64 then some n else none
  | .float _ => none

def float64? (n : WrittenNumber) : Option Binary64 :=
  some n.toBinary64

/-- The JSON number for a number: as a whole number with a sign, else as one without, else as a
float. -/
def numberByRange (n : WrittenNumber) : Except String WrittenNumber :=
  match signed? n with
  | some i => .ok (.int i)
  | none =>
    match unsigned? n with
    | some u => .ok (.int u)
    | none =>
      match float64? n with
      | some x =>
        if x.isFinite then .ok (.float x) else .error (Error.message (.notFinite x))
      | none => .error ("unsupported YAML number: " ++ (number n).describe)

theorem numberByRange_eq {n : WrittenNumber} (inRange : n.InRange) :
    numberByRange n = (finiteNumber n).mapError Error.message := by
  cases n with
  | int n =>
      obtain ⟨least, most⟩ := inRange
      rw [numberByRange, signed?]
      split
      next i signed =>
        obtain ⟨-, same⟩ := Option.ite_none_right_eq_some.1 signed
        cases same
        rfl
      next unsigned =>
        have positive : 0 ≤ n ∧ n < 2 ^ 64 := by
          simp only [ite_eq_right_iff, reduceCtorEq, imp_false] at unsigned
          omega
        rw [unsigned?, if_pos positive]
        rfl
  | float x =>
      rw [finiteNumber]
      cases finite : x.isFinite <;>
        simp [numberByRange, signed?, unsigned?, float64?, WrittenNumber.toBinary64, finite,
          Except.mapError]

/-- The numbers that text can say are converted by the range that they are in. -/
theorem numberByRange_of_read? {text : String} {y : Yaml} (read : read? text = some y)
    {n : WrittenNumber} (held : y.Holds (number n)) :
    numberByRange n = (finiteNumber n).mapError Error.message :=
  numberByRange_eq ((wellRead_of_read? read).inRange n held)

end ShapeCheck.Yaml
