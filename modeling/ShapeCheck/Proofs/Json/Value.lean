import ShapeCheck.Json
import ShapeCheck.Proofs.Entries
import ShapeCheck.Value.Tag

namespace ShapeCheck.Json

@[elab_as_elim]
theorem induct {motive : Json → Prop} (null : motive .null) (bool : ∀ b, motive (.bool b))
    (number : ∀ n, motive (.number n)) (string : ∀ s, motive (.string s))
    (array : ∀ items, (∀ j ∈ items, motive j) → motive (.array items))
    (object : ∀ entries : Entries Json, (∀ p ∈ entries, motive p.2) → motive (.object entries))
    (j : Json) : motive j :=
  match j with
  | .null => null
  | .bool b => bool b
  | .number n => number n
  | .string s => string s
  | .array items => array items fun j _ => induct null bool number string array object j
  | .object entries => object entries fun p _ => induct null bool number string array object p.2
decreasing_by
  · simp only [Json.array.sizeOf_spec]
    have := List.sizeOf_lt_of_mem ‹j ∈ items›
    omega
  · simp only [Json.object.sizeOf_spec]
    have := Entries.sizeOf_value_lt ‹p ∈ entries›
    omega

mutual

/-- Whether a value stands for a document: scalars do by being equal, arrays and objects by their
parts. -/
def Represents : Json → Value → Prop
  | null, v => v = .null
  | bool b, v => v = .bool b
  | number n, v => v = .number n.toBinary64
  | string s, v => v = .string s
  | array items, v => ∃ id values, v = .array id values ∧ RepresentsItems items values
  | object entries, v =>
    ∃ id pairs, v = .object id .object (Entries.ofList pairs) ∧ RepresentsEntries entries pairs

def RepresentsItems : List Json → List Value → Prop
  | [], values => values = []
  | j :: rest, values => ∃ v vs, values = v :: vs ∧ Represents j v ∧ RepresentsItems rest vs

def RepresentsEntries : List (String × Json) → List (String × Value) → Prop
  | [], pairs => pairs = []
  | (key, j) :: rest, pairs =>
    ∃ v ps, pairs = (key, v) :: ps ∧ Represents j v ∧ RepresentsEntries rest ps

end

theorem representsItems_iff {items : List Json} {values : List Value} :
    RepresentsItems items values ↔ List.Forall₂ Represents items values := by
  induction items generalizing values with
  | nil => rw [RepresentsItems, List.forall₂_nil_left_iff]
  | cons j rest ih =>
      rw [RepresentsItems, List.forall₂_cons_left_iff]
      simp only [ih]
      constructor
      · intro given
        obtain ⟨v, vs, rfl, hv, hvs⟩ := given
        exact ⟨v, vs, hv, hvs, rfl⟩
      · intro given
        obtain ⟨v, vs, hv, hvs, rfl⟩ := given
        exact ⟨v, vs, rfl, hv, hvs⟩

theorem representsEntries_iff {entries : Entries Json} {pairs : Entries Value} :
    RepresentsEntries entries pairs ↔ Entries.Related Represents entries pairs := by
  induction entries generalizing pairs with
  | nil => rw [RepresentsEntries, Entries.Related, List.forall₂_nil_left_iff]
  | cons p rest ih =>
      rw [RepresentsEntries, Entries.Related, List.forall₂_cons_left_iff]
      simp only [ih]
      constructor
      · intro given
        obtain ⟨v, ps, rfl, hv, hps⟩ := given
        exact ⟨(p.1, v), ps, ⟨rfl, hv⟩, hps, rfl⟩
      · intro given
        obtain ⟨⟨key, v⟩, ps, ⟨rfl, hv⟩, hps, rfl⟩ := given
        exact ⟨v, ps, rfl, hv, hps⟩

theorem represents_array {items : List Json} {v : Value} :
    Represents (.array items) v ↔
      ∃ id values, v = .array id values ∧ List.Forall₂ Represents items values := by
  simp only [Represents, representsItems_iff]

theorem represents_object {entries : Entries Json} {v : Value} (h : Represents (.object entries) v) :
    ∃ id values, v = .object id .object values ∧
      Entries.Related Represents (Entries.ofList entries) values := by
  obtain ⟨id, pairs, rfl, related⟩ := h
  exact ⟨id, Entries.ofList pairs, rfl, (representsEntries_iff.1 related).ofList⟩

def tag : Json → Tag
  | null => .null
  | bool _ => .boolean
  | number _ => .number
  | string _ => .string
  | array _ => .array
  | object _ => .object

theorem Represents.tag_eq {j : Json} {v : Value} (h : Represents j v) : v.tag = j.tag := by
  cases j with
  | array => obtain ⟨_, _, rfl, _⟩ := h; rfl
  | object => obtain ⟨_, _, rfl, _⟩ := h; rfl
  | _ => cases h; rfl

mutual

theorem represents_toValue (j : Json) (next : Identity) :
    Represents j (j.toValue.run next).1 := by
  cases j with
  | array items => exact ⟨_, _, rfl, representsItems_toValues items next⟩
  | object entries => exact ⟨_, _, rfl, representsEntries_toEntries entries next⟩
  | _ => rfl

theorem representsItems_toValues (items : List Json) (next : Identity) :
    RepresentsItems items ((toValues items).run next).1 := by
  cases items with
  | nil => rfl
  | cons j rest => exact ⟨_, _, rfl, represents_toValue j next, representsItems_toValues rest _⟩

theorem representsEntries_toEntries (entries : List (String × Json)) (next : Identity) :
    RepresentsEntries entries ((toEntries entries).run next).1 := by
  cases entries with
  | nil => rfl
  | cons p rest =>
      obtain ⟨key, j⟩ := p
      exact ⟨_, _, rfl, represents_toValue j next, representsEntries_toEntries rest _⟩

end

end ShapeCheck.Json
