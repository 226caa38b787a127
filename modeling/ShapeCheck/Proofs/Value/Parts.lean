import ShapeCheck.Proofs.Schema.Induction

namespace ShapeCheck.Value

variable {α : Type}

/-- Whether one value is another or lies in it. The entries of an error are those that it has when
they are written one after another. -/
inductive Holds : Value → Value → Prop
  | self (v : Value) : Holds v v
  | item {id : Identity} {items : List Value} {v w : Value} (member : v ∈ items) (held : Holds v w) :
    Holds (array id items) w
  | entry {id : Identity} {cls : Class} {entries : Entries Value} {p : String × Value} {w : Value}
    (member : p ∈ entries) (held : Holds p.2 w) : Holds (object id cls entries) w
  | errorEntry {id : Identity} {cls : Class} {message : String} {entries : Entries Value}
    {p : String × Value} {w : Value} (member : p ∈ Entries.ofList entries) (held : Holds p.2 w) :
    Holds (error id cls message entries) w

theorem Holds.ofErrorEntry {id : Identity} {cls : Class} {message : String} {entries : Entries Value}
    {p : String × Value} {w : Value} (distinct : entries.keys.Nodup) (member : p ∈ entries)
    (held : p.2.Holds w) : (error id cls message entries).Holds w :=
  .errorEntry (by rwa [Entries.ofList_of_nodup distinct]) held

def messageFirst (entries : Entries (List α)) : List α :=
  (Entries.find? "message" entries).getD [] ++
    (entries.filter fun p => p.1 ≠ "message").flatMap Prod.snd

mutual

def parts : Value → List Value
  | v@(array _ items) => v :: itemParts items
  | v@(object _ _ entries) => v :: (entryParts entries).flatMap Prod.snd
  | v@(error _ _ _ entries) => v :: messageFirst (Entries.ofList (entryParts entries))
  | v => [v]

def itemParts : List Value → List Value
  | [] => []
  | v :: rest => v.parts ++ itemParts rest

def entryParts : List (String × Value) → List (String × List Value)
  | [] => []
  | (key, v) :: rest => (key, v.parts) :: entryParts rest

end

theorem itemParts_eq_flatMap (items : List Value) : itemParts items = items.flatMap parts := by
  induction items with
  | nil => rw [itemParts, List.flatMap_nil]
  | cons v rest ih => rw [itemParts, List.flatMap_cons, ih]

theorem entryParts_eq_map (entries : Entries Value) :
    entryParts entries = entries.map fun p => (p.1, p.2.parts) := by
  induction entries with
  | nil => rw [entryParts, List.map_nil]
  | cons p rest ih => rw [entryParts, List.map_cons, ih]

theorem parts_array (id : Identity) (items : List Value) :
    (array id items).parts = array id items :: items.flatMap parts := by
  rw [parts, itemParts_eq_flatMap]

theorem parts_object (id : Identity) (cls : Class) (entries : Entries Value) :
    (object id cls entries).parts =
      object id cls entries :: entries.flatMap fun p => p.2.parts := by
  rw [parts, entryParts_eq_map, List.flatMap_map]

theorem parts_error (id : Identity) (cls : Class) (message : String) (entries : Entries Value) :
    (error id cls message entries).parts =
      error id cls message entries ::
        (((Entries.find? "message" (Entries.ofList entries)).map parts).getD [] ++
          ((Entries.ofList entries).filter fun p => p.1 ≠ "message").flatMap fun p => p.2.parts) := by
  rw [parts, entryParts_eq_map, Entries.ofList_map, messageFirst, Entries.find?_map, List.filter_map,
    List.flatMap_map]
  rfl

theorem parts_other {v : Value} (notArray : v.tag ≠ .array) (notObject : v.tag ≠ .object)
    (notError : v.tag ≠ .error) : v.parts = [v] := by
  cases v with
  | array => cases notArray rfl
  | object => cases notObject rfl
  | error => cases notError rfl
  | _ => rfl

theorem holds_array_iff {id : Identity} {items : List Value} {w : Value} :
    (array id items).Holds w ↔ w = array id items ∨ ∃ v ∈ items, v.Holds w := by
  constructor
  · intro held
    cases held with
    | self => exact .inl rfl
    | item member held => exact .inr ⟨_, member, held⟩
  · rintro (rfl | ⟨v, member, held⟩)
    · exact .self _
    · exact .item member held

theorem holds_object_iff {id : Identity} {cls : Class} {entries : Entries Value} {w : Value} :
    (object id cls entries).Holds w ↔ w = object id cls entries ∨ ∃ p ∈ entries, p.2.Holds w := by
  constructor
  · intro held
    cases held with
    | self => exact .inl rfl
    | entry member held => exact .inr ⟨_, member, held⟩
  · rintro (rfl | ⟨p, member, held⟩)
    · exact .self _
    · exact .entry member held

theorem holds_error_iff {id : Identity} {cls : Class} {message : String} {entries : Entries Value}
    {w : Value} : (error id cls message entries).Holds w ↔
      w = error id cls message entries ∨ ∃ p ∈ Entries.ofList entries, p.2.Holds w := by
  constructor
  · intro held
    cases held with
    | self => exact .inl rfl
    | errorEntry member held => exact .inr ⟨_, member, held⟩
  · rintro (rfl | ⟨p, member, held⟩)
    · exact .self _
    · exact .errorEntry member held

theorem holds_other_iff {v w : Value} (notArray : v.tag ≠ .array) (notObject : v.tag ≠ .object)
    (notError : v.tag ≠ .error) : v.Holds w ↔ w = v := by
  constructor
  · intro held
    cases held with
    | self => rfl
    | item => cases notArray rfl
    | entry => cases notObject rfl
    | errorEntry => cases notError rfl
  · rintro rfl
    exact .self _

theorem mem_parts_iff {v w : Value} : w ∈ v.parts ↔ v.Holds w := by
  induction v using Value.induct with
  | array id items ih =>
      rw [parts_array, holds_array_iff, List.mem_cons, List.mem_flatMap]
      exact or_congr_right (exists_congr fun v => and_congr_right (ih v))
  | object id cls entries ih =>
      rw [parts_object, holds_object_iff, List.mem_cons, List.mem_flatMap]
      exact or_congr_right (exists_congr fun p => and_congr_right (ih p))
  | error id cls message entries ih =>
      have distinct := Entries.nodup_keys_ofList entries
      have each (p : String × Value) (member : p ∈ Entries.ofList entries) :=
        ih p (Entries.mem_of_mem_ofList member)
      rw [parts_error, holds_error_iff, List.mem_cons, List.mem_append, List.mem_flatMap]
      refine or_congr_right ⟨?_, ?_⟩
      · rintro (first | ⟨p, member, inside⟩)
        · cases found : Entries.find? "message" (Entries.ofList entries) with
          | none => simp [found] at first
          | some v =>
              have member := (Entries.find?_eq_some_iff distinct).1 found
              refine ⟨("message", v), member, (each _ member).1 ?_⟩
              simpa [found] using first
        · have member := List.mem_of_mem_filter member
          exact ⟨p, member, (each p member).1 inside⟩
      · rintro ⟨p, member, held⟩
        have inside := (each p member).2 held
        -- The entry under `message` is taken out of its place and put first.
        by_cases named : p.1 = "message"
        · obtain ⟨key, v⟩ := p
          subst named
          have found := (Entries.find?_eq_some_iff distinct).2 member
          exact .inl (by simpa [found] using inside)
        · exact .inr ⟨p, List.mem_filter.2 ⟨member, by simpa using named⟩, inside⟩
  | other v notArray notObject notError =>
      rw [parts_other notArray notObject notError, holds_other_iff notArray notObject notError,
        List.mem_singleton]

end ShapeCheck.Value
