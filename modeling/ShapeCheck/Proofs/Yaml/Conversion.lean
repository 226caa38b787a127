import ShapeCheck.Proofs.Entries
import ShapeCheck.Proofs.Except
import ShapeCheck.Proofs.Yaml.Key

namespace ShapeCheck.Yaml

@[elab_as_elim]
theorem induct {motive : Yaml → Prop} (null : motive .null) (bool : ∀ b, motive (.bool b))
    (number : ∀ n, motive (.number n)) (string : ∀ s, motive (.string s))
    (sequence : ∀ items, (∀ v ∈ items, motive v) → motive (.sequence items))
    (mapping : ∀ entries : List (Yaml × Yaml), (∀ e ∈ entries, motive e.2) →
      motive (.mapping entries))
    (tagged : ∀ tag content, motive content → motive (.tagged tag content)) (y : Yaml) : motive y :=
  match y with
  | .null => null
  | .bool b => bool b
  | .number n => number n
  | .string s => string s
  | .sequence items =>
      sequence items fun v _ => induct null bool number string sequence mapping tagged v
  | .mapping entries =>
      mapping entries fun e _ => induct null bool number string sequence mapping tagged e.2
  | .tagged tag content =>
      tagged tag content (induct null bool number string sequence mapping tagged content)
decreasing_by
  · simp only [Yaml.sequence.sizeOf_spec]
    have := List.sizeOf_lt_of_mem ‹v ∈ items›
    omega
  · simp only [Yaml.mapping.sizeOf_spec]
    have := Entries.sizeOf_value_lt ‹e ∈ entries›
    omega
  · simp only [Yaml.tagged.sizeOf_spec]
    omega

/-! ## When a conversion succeeds -/

theorem finiteNumber_eq_ok {n m : WrittenNumber} (finite : finiteNumber n = .ok m) : m = n := by
  cases n with
  | int n => exact (Except.ok.inj finite).symm
  | float x =>
      rw [finiteNumber] at finite
      split at finite
      · exact (Except.ok.inj finite).symm
      · cases finite

theorem keyText_eq_ok {k : Yaml} {text : String} :
    k.keyText = .ok text ↔ k.keyText? = some text := by
  rw [keyText]
  cases k.keyText? <;> simp

theorem itemsToJson_eq_ok {items : List Yaml} {js : List Json} :
    itemsToJson items = .ok js ↔ List.Forall₂ (fun v j => v.toJson = .ok j) items js := by
  induction items generalizing js with
  | nil => simp [itemsToJson, eq_comm]
  | cons v rest ih =>
      simp only [itemsToJson, bind_eq_ok, pure_eq_ok, ih, List.forall₂_cons_left_iff]
      constructor
      · rintro ⟨j, head, js, tail, rfl⟩
        exact ⟨j, js, head, tail, rfl⟩
      · rintro ⟨j, js, head, tail, rfl⟩
        exact ⟨j, head, js, tail, rfl⟩

def EntryToJson (e : Yaml × Yaml) (p : String × Json) : Prop :=
  e.1.keyText? = some p.1 ∧ e.2.toJson = .ok p.2

theorem entriesToJson_eq_ok {entries : List (Yaml × Yaml)} {pairs : Entries Json} :
    entriesToJson entries = .ok pairs ↔ List.Forall₂ EntryToJson entries pairs := by
  induction entries generalizing pairs with
  | nil => simp [entriesToJson, eq_comm]
  | cons e rest ih =>
      simp only [entriesToJson, bind_eq_ok, pure_eq_ok, ih, List.forall₂_cons_left_iff, keyText_eq_ok]
      constructor
      · rintro ⟨key, text, j, head, pairs, tail, rfl⟩
        exact ⟨(key, j), pairs, ⟨text, head⟩, tail, rfl⟩
      · rintro ⟨p, pairs, ⟨text, head⟩, tail, rfl⟩
        exact ⟨p.1, text, p.2, head, pairs, tail, rfl⟩

theorem toJson_sequence {items : List Yaml} {j : Json} :
    (sequence items).toJson = .ok j ↔
      ∃ js, List.Forall₂ (fun v j => v.toJson = .ok j) items js ∧ j = .array js := by
  simp only [toJson, bind_eq_ok, pure_eq_ok, itemsToJson_eq_ok]

theorem toJson_mapping {entries : List (Yaml × Yaml)} {j : Json} :
    (mapping entries).toJson = .ok j ↔
      ∃ pairs, List.Forall₂ EntryToJson entries pairs ∧ j = .object (Entries.ofList pairs) := by
  simp only [toJson, bind_eq_ok, pure_eq_ok, entriesToJson_eq_ok]

/-! ## The values in a value -/

/-- The values in a value, keys apart. -/
inductive Holds : Yaml → Yaml → Prop
  | self (y : Yaml) : Holds y y
  | item {items : List Yaml} {v x : Yaml} (member : v ∈ items) (inside : Holds v x) :
      Holds (sequence items) x
  | value {entries : List (Yaml × Yaml)} {e : Yaml × Yaml} {x : Yaml} (member : e ∈ entries)
      (inside : Holds e.2 x) : Holds (mapping entries) x
  | content {tag : String} {c x : Yaml} (inside : Holds c x) : Holds (tagged tag c) x

def EachMapping (P : List (Yaml × Yaml) → Prop) (y : Yaml) : Prop :=
  ∀ entries, y.Holds (mapping entries) → P entries

section
variable {P : List (Yaml × Yaml) → Prop}

theorem eachMapping_of_scalar {y : Yaml} (scalar : ∀ entries, ¬ y.Holds (mapping entries)) :
    EachMapping P y :=
  fun entries inside => absurd inside (scalar entries)

theorem eachMapping_sequence {items : List Yaml} :
    EachMapping P (sequence items) ↔ ∀ v ∈ items, EachMapping P v := by
  constructor
  · intro each v member entries inside
    exact each entries (.item member inside)
  · intro each entries inside
    cases inside with
    | item member inside => exact each _ member entries inside

theorem eachMapping_mapping {entries : List (Yaml × Yaml)} :
    EachMapping P (mapping entries) ↔ P entries ∧ ∀ e ∈ entries, EachMapping P e.2 := by
  constructor
  · intro each
    exact ⟨each entries (.self _), fun e member others inside => each others (.value member inside)⟩
  · rintro ⟨here, each⟩ others inside
    cases inside with
    | self => exact here
    | value member inside => exact each _ member others inside

theorem eachMapping_tagged {tag : String} {content : Yaml} :
    EachMapping P (tagged tag content) ↔ EachMapping P content := by
  constructor
  · intro each entries inside
    exact each entries (.content inside)
  · intro each entries inside
    cases inside with
    | content inside => exact each entries inside

end

/-! ## Different keys -/

def DistinctKeys (entries : List (Yaml × Yaml)) : Prop :=
  entries.Pairwise fun e f => same e.1 f.1 = false

instance (entries : List (Yaml × Yaml)) : Decidable (DistinctKeys entries) :=
  inferInstanceAs (Decidable (entries.Pairwise fun e f => same e.1 f.1 = false))

theorem of_mem_put {key value : Yaml} {entries : List (Yaml × Yaml)} {e : Yaml × Yaml}
    (member : e ∈ put key value entries) :
    (e.1 = key ∨ ∃ f ∈ entries, e.1 = f.1) ∧ (e.2 = value ∨ e ∈ entries) := by
  induction entries with
  | nil =>
      cases List.mem_singleton.1 member
      exact ⟨.inl rfl, .inl rfl⟩
  | cons f rest ih =>
      rw [put] at member
      split at member
      · rcases List.mem_cons.1 member with rfl | member
        · exact ⟨.inr ⟨f, List.mem_cons_self, rfl⟩, .inl rfl⟩
        · have inside := List.mem_cons_of_mem f member
          exact ⟨.inr ⟨e, inside, rfl⟩, .inr inside⟩
      · rcases List.mem_cons.1 member with rfl | member
        · exact ⟨.inr ⟨f, List.mem_cons_self, rfl⟩, .inr List.mem_cons_self⟩
        · obtain ⟨key, value⟩ := ih member
          exact ⟨key.imp_right fun ⟨g, inside, same⟩ => ⟨g, List.mem_cons_of_mem _ inside, same⟩,
            value.imp_right (List.mem_cons_of_mem _)⟩

theorem DistinctKeys.put {entries : List (Yaml × Yaml)} (distinct : DistinctKeys entries)
    (key value : Yaml) : DistinctKeys (put key value entries) := by
  induction entries with
  | nil => exact List.pairwise_singleton _ _
  | cons f rest ih =>
      obtain ⟨first, others⟩ := List.pairwise_cons.1 distinct
      rw [Yaml.put]
      split
      · exact List.pairwise_cons.2 ⟨first, others⟩
      · rename_i other
        refine List.pairwise_cons.2 ⟨fun e member => ?_, ih others⟩
        rcases (of_mem_put member).1 with same | ⟨g, inside, same⟩
        · rw [same]
          exact Bool.not_eq_true _ ▸ other
        · rw [same]
          exact first g inside

theorem eachMapping_ofPairs {pairs : List (Yaml × Yaml)}
    (each : ∀ p ∈ pairs, EachMapping DistinctKeys p.2) : EachMapping DistinctKeys (ofPairs pairs) := by
  rw [ofPairs, eachMapping_mapping]
  have step {entries : List (Yaml × Yaml)} (distinct : DistinctKeys entries)
      (inner : ∀ e ∈ entries, EachMapping DistinctKeys e.2) :
      let built := pairs.foldl (fun es p => Yaml.put p.1 p.2 es) entries
      DistinctKeys built ∧ ∀ e ∈ built, EachMapping DistinctKeys e.2 := by
    induction pairs generalizing entries with
    | nil => exact ⟨distinct, inner⟩
    | cons p rest ih =>
        rw [List.forall_mem_cons] at each
        refine ih each.2 (distinct.put p.1 p.2) fun e member => ?_
        rcases (of_mem_put member).2 with same | inside
        · exact same ▸ each.1
        · exact inner e inside
  exact step .nil nofun

/-- Whether a mapping has a text and a number or a Boolean written like it as keys. -/
def Clash (entries : List (Yaml × Yaml)) : Prop :=
  ∃ e ∈ entries, ∃ f ∈ entries, e.1.ClashesWith f.1

instance (entries : List (Yaml × Yaml)) : Decidable (Clash entries) :=
  inferInstanceAs (Decidable (∃ e ∈ entries, ∃ f ∈ entries, e.1.ClashesWith f.1))

theorem map_keyText?_eq_iff {entries : List (Yaml × Yaml)} {fields : Entries Json} :
    (entries.map fun e => e.1.keyText?) = fields.keys.map some ↔
      List.Forall₂ (fun e f => e.1.keyText? = some f.1) entries fields := by
  rw [← List.forall₂_eq_eq_eq, Entries.keys, List.map_map, List.forall₂_map_left_iff,
    List.forall₂_map_right_iff]
  rfl

theorem nodup_keys_iff_not_clash {entries : List (Yaml × Yaml)} {pairs : Entries Json}
    (distinct : DistinctKeys entries) (related : List.Forall₂ EntryToJson entries pairs) :
    pairs.keys.Nodup ↔ ¬ Clash entries := by
  have given : (entries.map fun e => e.1.keyText?) = pairs.keys.map some :=
    map_keyText?_eq_iff.2 (related.imp fun _ _ given => given.1)
  rw [← List.nodup_map_iff (Option.some_injective String), ← given]
  constructor
  · rintro nodup ⟨e, member, f, member', clash⟩
    have entry : e = f := List.inj_on_of_nodup_map nodup member member' clash.keyText?_eq
    exact not_clashesWith_self f.1 (entry ▸ clash)
  · intro clear
    refine List.pairwise_map.2 (distinct.imp_of_mem fun {e f} member member' other texts => clear ?_)
    have inside : e.1.keyText? ∈ pairs.keys.map some := by
      rw [← given]
      exact List.mem_map_of_mem member
    obtain ⟨text, -, has⟩ := List.mem_map.1 inside
    rcases same_or_clashesWith has.symm (texts ▸ has.symm) with same | clash | clash
    · rw [same] at other
      cases other
    · exact ⟨e, member, f, member', clash⟩
    · exact ⟨f, member', e, member, clash⟩

/-! ## Nothing lost -/

/-- Whether a document has all that is in a value: an entry for each entry of a mapping, in the same
order, and the texts of keys for keys. -/
inductive Keeps : Yaml → Json → Prop
  | null : Keeps null .null
  | bool (b : Bool) : Keeps (bool b) (.bool b)
  | number (n : WrittenNumber) : Keeps (number n) (.number n)
  | string (s : String) : Keeps (string s) (.string s)
  | sequence {items : List Yaml} {js : List Json} (each : List.Forall₂ Keeps items js) :
      Keeps (sequence items) (.array js)
  | mapping {entries : List (Yaml × Yaml)} {fields : Entries Json}
      (texts : (entries.map fun e => e.1.keyText?) = fields.keys.map some)
      (each : List.Forall₂ Keeps (entries.map Prod.snd) (fields.map Prod.snd))
      (distinct : fields.keys.Nodup) :
      Keeps (mapping entries) (.object fields)
  | tagged {tag : String} {content : Yaml} {j : Json} (kept : Keeps content j) :
      Keeps (tagged tag content) j

theorem keeps_sequence {items : List Yaml} {js : List Json} :
    Keeps (sequence items) (.array js) ↔ List.Forall₂ Keeps items js :=
  ⟨fun h => by cases h; assumption, .sequence⟩

theorem keeps_mapping {entries : List (Yaml × Yaml)} {fields : Entries Json} :
    Keeps (mapping entries) (.object fields) ↔
      List.Forall₂ (fun e f => e.1.keyText? = some f.1 ∧ Keeps e.2 f.2) entries fields ∧
        fields.keys.Nodup := by
  have values : List.Forall₂ (fun (e : Yaml × Yaml) f => Keeps e.2 f.2) entries fields ↔
      List.Forall₂ Keeps (entries.map Prod.snd) (fields.map Prod.snd) := by
    rw [List.forall₂_map_left_iff, List.forall₂_map_right_iff]
  rw [forall₂_and, ← map_keyText?_eq_iff, values]
  exact ⟨fun h => by cases h; exact ⟨⟨‹_›, ‹_›⟩, ‹_›⟩, fun ⟨⟨texts, each⟩, distinct⟩ =>
    .mapping texts each distinct⟩

theorem keeps_tagged {tag : String} {content : Yaml} {j : Json} :
    Keeps (tagged tag content) j ↔ Keeps content j :=
  ⟨fun h => by cases h; assumption, .tagged⟩

theorem keeps_iff {y : Yaml} {j : Json} (distinct : EachMapping DistinctKeys y)
    (converted : y.toJson = .ok j) : Keeps y j ↔ EachMapping (¬ Clash ·) y := by
  induction y using Yaml.induct generalizing j with
  | null =>
      cases converted
      exact iff_of_true .null (eachMapping_of_scalar nofun)
  | bool b =>
      cases converted
      exact iff_of_true (.bool b) (eachMapping_of_scalar nofun)
  | number n =>
      simp only [toJson, bind_eq_ok, pure_eq_ok] at converted
      obtain ⟨m, finite, rfl⟩ := converted
      cases finiteNumber_eq_ok finite
      exact iff_of_true (.number n) (eachMapping_of_scalar nofun)
  | string s =>
      cases converted
      exact iff_of_true (.string s) (eachMapping_of_scalar nofun)
  | sequence items ih =>
      rw [eachMapping_sequence] at distinct
      obtain ⟨js, related, rfl⟩ := toJson_sequence.1 converted
      rw [keeps_sequence, eachMapping_sequence]
      exact forall₂_iff_forall_mem related fun v member j => ih v member (distinct v member)
  | mapping entries ih =>
      obtain ⟨here, distinct⟩ := eachMapping_mapping.1 distinct
      obtain ⟨pairs, related, rfl⟩ := toJson_mapping.1 converted
      rw [keeps_mapping, eachMapping_mapping, and_iff_left (Entries.nodup_keys_ofList pairs),
        ← nodup_keys_iff_not_clash here related]
      have each := forall₂_iff_forall_mem related
        (S := fun e f => e.1.keyText? = some f.1 ∧ Keeps e.2 f.2)
        (P := fun e => EachMapping (¬ Clash ·) e.2) fun e member p given => by
          rw [and_iff_right given.1]
          exact ih e member (distinct e member) given.2
      constructor
      · intro kept
        -- As many fields as entries: no key was written again.
        have nodup := Entries.length_ofList_eq_iff.1 (kept.length_eq.symm.trans related.length_eq)
        rw [Entries.ofList_of_nodup nodup] at kept
        exact ⟨nodup, each.1 kept⟩
      · rintro ⟨nodup, clear⟩
        rw [Entries.ofList_of_nodup nodup]
        exact each.2 clear
  | tagged tag content ih =>
      rw [eachMapping_tagged] at distinct
      rw [toJson] at converted
      rw [keeps_tagged, eachMapping_tagged]
      exact ih distinct converted

/-! ## The objects that mappings become -/

theorem exists_toJson_of_holds {y x : Yaml} (inside : y.Holds x) {j : Json}
    (converted : y.toJson = .ok j) : ∃ k, x.toJson = .ok k := by
  induction inside generalizing j with
  | self => exact ⟨j, converted⟩
  | item member _ ih =>
      obtain ⟨js, related, -⟩ := toJson_sequence.1 converted
      obtain ⟨k, part⟩ := exists_of_forall₂_of_mem related member
      exact ih part
  | value member _ ih =>
      obtain ⟨pairs, related, -⟩ := toJson_mapping.1 converted
      obtain ⟨p, part⟩ := exists_of_forall₂_of_mem related member
      exact ih part.2
  | content _ ih =>
      rw [toJson] at converted
      exact ih converted

theorem rel_find? {entries : List (Yaml × Yaml)} {pairs : Entries Json}
    (related : List.Forall₂ EntryToJson entries pairs) (text : String) :
    Option.Rel (fun e value => e.2.toJson = .ok value)
      (entries.find? fun e => e.1.keyText? == some text) (Entries.find? text pairs) := by
  induction related with
  | nil => exact .none
  | @cons e p _ _ head _ ih =>
      rw [List.find?_cons, Entries.find?_cons, head.1]
      by_cases same : text = p.1
      · rw [if_pos same, same, beq_self_eq_true]
        exact .some head.2
      · rw [if_neg same, beq_false_of_ne (fun h => same (Option.some.inj h).symm)]
        exact ih

/-- A conversion keeps everything just when no mapping has a text and a number or a Boolean written
like it as keys. In any case an object holds under each text the last entry of the mapping with a key
of that text. -/
theorem toJson_keeps_iff {y : Yaml} {j : Json} (distinct : EachMapping DistinctKeys y)
    (converted : y.toJson = .ok j) :
    (Keeps y j ↔ EachMapping (¬ Clash ·) y) ∧
      EachMapping (fun entries => ∃ fields : Entries Json,
        (mapping entries).toJson = .ok (.object fields) ∧
        (fields.length = entries.length ↔ ¬ Clash entries) ∧
        ∀ text, Option.Rel (fun e value => e.2.toJson = .ok value)
          (entries.reverse.find? fun e => e.1.keyText? == some text) (fields.find? text)) y := by
  refine ⟨keeps_iff distinct converted, fun entries inside => ?_⟩
  obtain ⟨k, part⟩ := exists_toJson_of_holds inside converted
  obtain ⟨pairs, related, rfl⟩ := toJson_mapping.1 part
  refine ⟨Entries.ofList pairs, part, ?_, fun text => ?_⟩
  · rw [related.length_eq, Entries.length_ofList_eq_iff,
      nodup_keys_iff_not_clash (distinct entries inside) related]
  · rw [Entries.find?_ofList]
    exact rel_find? (List.forall₂_reverse_iff.2 related) text

theorem toJson_keeps_like_keys :
    Keeps
      (mapping [(number (.int 1), sequence [mapping [(bool true, null)], number (.int 0)]),
        (number (.float ⟨false, 1023, 0⟩), string "a"), (string "01", tagged "!t" (bool false))])
      (.object [("1", .array [.object [("true", .null)], .number (.int 0)]), ("1.0", .string "a"),
        ("01", .bool false)]) := by
  refine (toJson_keeps_iff ?distinct rfl).1.2 ?clear
  case distinct =>
    have inner : EachMapping DistinctKeys (ofPairs [(bool true, null)]) :=
      eachMapping_ofPairs (List.forall_mem_singleton.2 (eachMapping_of_scalar nofun))
    suffices built : EachMapping DistinctKeys (ofPairs
        [(number (.int 1), sequence [ofPairs [(bool true, null)], number (.int 0)]),
          (number (.float ⟨false, 1023, 0⟩), string "a"), (string "01", tagged "!t" (bool false))])
      from built
    refine eachMapping_ofPairs ?_
    simp only [eachMapping_sequence, eachMapping_tagged, List.forall_mem_cons]
    exact ⟨⟨inner, eachMapping_of_scalar nofun, nofun⟩, eachMapping_of_scalar nofun,
      eachMapping_of_scalar nofun, nofun⟩
  case clear =>
    simp only [eachMapping_mapping, eachMapping_sequence, eachMapping_tagged, List.forall_mem_cons]
    exact ⟨by decide, ⟨⟨by decide, eachMapping_of_scalar nofun, nofun⟩, eachMapping_of_scalar nofun,
      nofun⟩, eachMapping_of_scalar nofun, eachMapping_of_scalar nofun, nofun⟩

theorem toJson_loses_entry :
    let y := mapping [(number (.int 1), string "a"), (string "1", string "b")]
    let j := Json.object [("1", .string "b")]
    EachMapping DistinctKeys y ∧ y.toJson = .ok j ∧ ¬ Keeps y j := by
  refine ⟨?_, rfl, ?_⟩
  · simp only [eachMapping_mapping, List.forall_mem_cons]
    exact ⟨by decide, eachMapping_of_scalar nofun, eachMapping_of_scalar nofun, nofun⟩
  · intro kept
    cases (keeps_mapping.1 kept).1 with
    | cons _ rest => cases rest

end ShapeCheck.Yaml
