import ShapeCheck.Proofs.Yaml.Conversion

/-!
# What conversion cannot keep

JSON has neither a float that is not finite nor a key without a text. `places` lists the values and
the keys of a document in the order in which they stand there, and `Place.fault?` tells of each of
them, taken by itself, what is wrong with it.

* `mem_places_value`, `mem_places_key`: the places are the values that a document holds and the keys
  of the mappings in it.
* `toJson_error_iff`: a conversion fails just when some place has a fault, and tells the first.
-/

namespace ShapeCheck.Yaml

inductive Place
  | value (y : Yaml)
  | key (k : Yaml)

def canBeKey : Yaml → Bool
  | string _ | number _ | bool _ => true
  | null | sequence _ | mapping _ | tagged _ _ => false

def Place.fault? : Place → Option Error
  | value (number (.float x)) => if x.isFinite then none else some (.notFinite x)
  | value _ => none
  | key k => if k.canBeKey then none else some (.unsupportedKey k)

mutual

/-- The places of a document from front to back: a value comes before what it holds, and a key
before its value. Keys are not looked into. -/
def places : Yaml → List Place
  | y@(sequence items) => .value y :: placesOfItems items
  | y@(mapping entries) => .value y :: placesOfEntries entries
  | y@(tagged _ content) => .value y :: content.places
  | y => [.value y]

def placesOfItems : List Yaml → List Place
  | [] => []
  | v :: rest => v.places ++ placesOfItems rest

def placesOfEntries : List (Yaml × Yaml) → List Place
  | [] => []
  | (k, v) :: rest => .key k :: v.places ++ placesOfEntries rest

end

theorem placesOfItems_eq_flatMap (items : List Yaml) : placesOfItems items = items.flatMap places := by
  induction items with
  | nil => rw [placesOfItems, List.flatMap_nil]
  | cons v rest ih => rw [placesOfItems, List.flatMap_cons, ih]

theorem placesOfEntries_eq_flatMap (entries : List (Yaml × Yaml)) :
    placesOfEntries entries = entries.flatMap fun e => .key e.1 :: e.2.places := by
  induction entries with
  | nil => rw [placesOfEntries, List.flatMap_nil]
  | cons e rest ih => rw [placesOfEntries, List.flatMap_cons, ih]

def ownPlaces : Yaml → List Place
  | y@(mapping entries) => .value y :: entries.map fun e => .key e.1
  | y => [.value y]

theorem value_mem_ownPlaces (y : Yaml) : .value y ∈ y.ownPlaces := by
  cases y <;> exact List.mem_cons_self

theorem mem_places_iff {y : Yaml} {p : Place} : p ∈ y.places ↔ ∃ x, y.Holds x ∧ p ∈ x.ownPlaces := by
  induction y using Yaml.induct with
  | null | bool | number | string =>
      rw [places]
      · exact ⟨fun member => ⟨_, .self _, member⟩, fun ⟨x, held, member⟩ => by cases held; exact member⟩
      all_goals nofun
  | sequence items ih =>
      rw [places, placesOfItems_eq_flatMap, List.mem_cons, List.mem_flatMap]
      constructor
      · rintro (rfl | ⟨v, member, inside⟩)
        · exact ⟨_, .self _, value_mem_ownPlaces _⟩
        · obtain ⟨x, held, own⟩ := (ih v member).1 inside
          exact ⟨x, .item member held, own⟩
      · rintro ⟨x, held, own⟩
        cases held with
        | self => exact .inl (List.mem_singleton.1 own)
        | item member held => exact .inr ⟨_, member, (ih _ member).2 ⟨x, held, own⟩⟩
  | mapping entries ih =>
      rw [places, placesOfEntries_eq_flatMap, List.mem_cons, List.mem_flatMap]
      simp only [List.mem_cons]
      constructor
      · rintro (rfl | ⟨e, member, rfl | inside⟩)
        · exact ⟨_, .self _, value_mem_ownPlaces _⟩
        · exact ⟨_, .self _, List.mem_cons_of_mem _ (List.mem_map_of_mem member)⟩
        · obtain ⟨x, held, own⟩ := (ih e member).1 inside
          exact ⟨x, .value member held, own⟩
      · rintro ⟨x, held, own⟩
        cases held with
        | self =>
            rcases List.mem_cons.1 own with rfl | key
            · exact .inl rfl
            · obtain ⟨e, member, rfl⟩ := List.mem_map.1 key
              exact .inr ⟨e, member, .inl rfl⟩
        | value member held => exact .inr ⟨_, member, .inr ((ih _ member).2 ⟨x, held, own⟩)⟩
  | tagged tag content ih =>
      rw [places, List.mem_cons, ih]
      constructor
      · rintro (rfl | ⟨x, held, own⟩)
        · exact ⟨_, .self _, value_mem_ownPlaces _⟩
        · exact ⟨x, .content held, own⟩
      · rintro ⟨x, held, own⟩
        cases held with
        | self => exact .inl (List.mem_singleton.1 own)
        | content held => exact .inr ⟨x, held, own⟩

theorem mem_places_value {y x : Yaml} : .value x ∈ y.places ↔ y.Holds x := by
  have own (z : Yaml) : .value x ∈ z.ownPlaces ↔ z = x := by
    cases z <;> simp [ownPlaces, eq_comm]
  simp only [mem_places_iff, own, exists_eq_right]

theorem mem_places_key {y k : Yaml} :
    .key k ∈ y.places ↔ ∃ entries, y.Holds (mapping entries) ∧ ∃ v, (k, v) ∈ entries := by
  have own (z : Yaml) :
      .key k ∈ z.ownPlaces ↔ ∃ entries, z = mapping entries ∧ ∃ v, (k, v) ∈ entries := by
    cases z <;> simp [ownPlaces]
  simp only [mem_places_iff, own]
  constructor
  · rintro ⟨_, held, entries, rfl, entry⟩
    exact ⟨entries, held, entry⟩
  · rintro ⟨entries, held, entry⟩
    exact ⟨_, held, entries, rfl, entry⟩

theorem keyText_stops (k : Yaml) : StopsAtFirst Place.fault? [.key k] k.keyText := by
  cases k with
  | string | number | bool => exact ⟨_, rfl⟩
  | null | sequence | mapping | tagged => rfl

theorem finiteNumber_stops (n : WrittenNumber) :
    StopsAtFirst Place.fault? [.value (number n)] (finiteNumber n) := by
  cases n with
  | int n => exact ⟨_, rfl⟩
  | float x =>
      rw [finiteNumber]
      split
      next finite => exact (StopsAtFirst.cons_iff (if_pos finite)).2 (.nil _)
      next infinite => exact .cons_error (if_neg infinite)

theorem itemsToJson_stops {items : List Yaml}
    (each : ∀ v ∈ items, StopsAtFirst Place.fault? v.places v.toJson) :
    StopsAtFirst Place.fault? (items.flatMap places) (itemsToJson items) := by
  induction items with
  | nil => exact .nil []
  | cons v rest ih =>
      rw [List.forall_mem_cons] at each
      rw [itemsToJson, List.flatMap_cons]
      exact each.1.bind fun j => (ih each.2).map (j :: ·)

theorem entriesToJson_stops {entries : List (Yaml × Yaml)}
    (each : ∀ e ∈ entries, StopsAtFirst Place.fault? e.2.places e.2.toJson) :
    StopsAtFirst Place.fault? (entries.flatMap fun e => .key e.1 :: e.2.places)
      (entriesToJson entries) := by
  induction entries with
  | nil => exact .nil []
  | cons e rest ih =>
      rw [List.forall_mem_cons] at each
      rw [entriesToJson, List.flatMap_cons]
      exact (keyText_stops e.1).bind fun key => each.1.bind fun j => (ih each.2).map ((key, j) :: ·)

theorem toJson_stops (y : Yaml) : StopsAtFirst Place.fault? y.places y.toJson := by
  induction y using Yaml.induct with
  | null | bool | string => exact ⟨_, rfl⟩
  | number n => exact (finiteNumber_stops n).map Json.number
  | sequence items ih =>
      rw [places, placesOfItems_eq_flatMap, StopsAtFirst.cons_iff rfl, toJson]
      exact (itemsToJson_stops ih).map Json.array
  | mapping entries ih =>
      rw [places, placesOfEntries_eq_flatMap, StopsAtFirst.cons_iff rfl, toJson]
      exact (entriesToJson_stops ih).map fun pairs => Json.object (Entries.ofList pairs)
  | tagged tag content ih =>
      rw [places, StopsAtFirst.cons_iff rfl, toJson]
      exact ih

theorem isSome_fault?_value {y : Yaml} :
    (Place.value y).fault?.isSome ↔ ∃ x, y = number (.float x) ∧ x.isFinite = false := by
  cases y with
  | number n =>
      cases n with
      | int n => exact iff_of_false nofun nofun
      | float x => cases finite : x.isFinite <;> simp [Place.fault?, finite]
  | _ => exact iff_of_false nofun nofun

theorem isSome_fault?_key {k : Yaml} : (Place.key k).fault?.isSome ↔ k.canBeKey = false := by
  cases able : k.canBeKey <;> simp [Place.fault?, able]

/-- A conversion fails just when a value in the document is a float that is not finite, or a key of a
mapping in it is neither a text nor a number nor a Boolean. The error is that of the first such place
in the document. -/
theorem toJson_error_iff (y : Yaml) :
    ((∃ e, y.toJson = .error e) ↔
      (∃ x : Binary64, x.isFinite = false ∧ y.Holds (number (.float x))) ∨
        ∃ entries, y.Holds (mapping entries) ∧ ∃ e ∈ entries, e.1.canBeKey = false) ∧
      ∀ e, y.toJson = .error e ↔
        ∃ before p after, y.places = before ++ p :: after ∧ p.fault? = some e ∧
          ∀ q ∈ before, q.fault? = none := by
  refine ⟨?_, fun e => (toJson_stops y).error_iff⟩
  rw [(toJson_stops y).exists_error_iff]
  constructor
  · rintro ⟨p, member, faulty⟩
    cases p with
    | value v =>
        obtain ⟨x, rfl, infinite⟩ := isSome_fault?_value.1 faulty
        exact .inl ⟨x, infinite, mem_places_value.1 member⟩
    | key k =>
        obtain ⟨entries, held, v, entry⟩ := mem_places_key.1 member
        exact .inr ⟨entries, held, (k, v), entry, isSome_fault?_key.1 faulty⟩
  · rintro (⟨x, infinite, held⟩ | ⟨entries, held, e, entry, unable⟩)
    · exact ⟨.value _, mem_places_value.2 held, isSome_fault?_value.2 ⟨x, rfl, infinite⟩⟩
    · exact ⟨.key e.1, mem_places_key.2 ⟨entries, held, e.2, entry⟩, isSome_fault?_key.2 unable⟩

-- The key of the second entry comes before its value; infinity is no fault as a key.
example : (mapping [(number (.float (.infinity false)), string "a"),
    (null, number (.float .nan))]).toJson = .error (.unsupportedKey null) := rfl

end ShapeCheck.Yaml
