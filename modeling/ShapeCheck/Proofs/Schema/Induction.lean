import ShapeCheck.Proofs.Entries
import ShapeCheck.Schema

namespace ShapeCheck

@[elab_as_elim]
theorem Value.induct {motive : Value → Prop}
    (array : ∀ id items, (∀ v ∈ items, motive v) → motive (.array id items))
    (object : ∀ id cls (entries : Entries Value), (∀ p ∈ entries, motive p.2) →
      motive (.object id cls entries))
    (error : ∀ id cls message (entries : Entries Value), (∀ p ∈ entries, motive p.2) →
      motive (.error id cls message entries))
    (other : ∀ v : Value, v.tag ≠ .array → v.tag ≠ .object → v.tag ≠ .error → motive v)
    (v : Value) : motive v :=
  match v with
  | .array id items => array id items fun v _ => induct array object error other v
  | .object id cls entries => object id cls entries fun p _ => induct array object error other p.2
  | .error id cls message entries =>
    error id cls message entries fun p _ => induct array object error other p.2
  | .undefined | .null | .bool _ | .number _ | .bigint _ | .string _ | .symbol _ _ | .date _ _
  | .regexp _ _ | .function _ _ => other _ nofun nofun nofun
decreasing_by
  · simp only [Value.array.sizeOf_spec]
    have := List.sizeOf_lt_of_mem ‹v ∈ items›
    omega
  · simp only [Value.object.sizeOf_spec]
    have := Entries.sizeOf_value_lt ‹p ∈ entries›
    omega
  · simp only [Value.error.sizeOf_spec]
    have := Entries.sizeOf_value_lt ‹p ∈ entries›
    omega

@[elab_as_elim]
theorem Schema.induct {motive : Schema → Prop} (rule : ∀ r, motive (.rule r))
    (value : ∀ v, motive (.value v))
    (tuple : ∀ items, (∀ s ∈ items, motive s) → motive (.tuple items))
    (shape : ∀ entries : Entries Schema, (∀ p ∈ entries, motive p.2) → motive (.shape entries))
    (s : Schema) : motive s :=
  match s with
  | .rule r => rule r
  | .value v => value v
  | .tuple items => tuple items fun s _ => induct rule value tuple shape s
  | .shape entries => shape entries fun p _ => induct rule value tuple shape p.2
decreasing_by
  · simp only [Schema.tuple.sizeOf_spec]
    have := List.sizeOf_lt_of_mem ‹s ∈ items›
    omega
  · simp only [Schema.shape.sizeOf_spec]
    have := Entries.sizeOf_value_lt ‹p ∈ entries›
    omega

end ShapeCheck
