import ShapeCheck.Proofs.Value.Run
import ShapeCheck.Value.Text

namespace ShapeCheck

namespace Value

inductive Plain : Value → Prop
  | literal {v : Value} (scalar : v.identity? = none ∨ v.tag = .symbol ∨ v.tag = .date) : Plain v
  | array {id : Identity} {items : List Value} (each : ∀ v ∈ items, Plain v) : Plain (array id items)
  | object {id : Identity} {cls : Class} {entries : Entries Value} (distinct : entries.keys.Nodup)
    (each : ∀ p ∈ entries, Plain p.2) : Plain (object id cls entries)

theorem plain_array_iff {id : Identity} {items : List Value} :
    (array id items).Plain ↔ ∀ v ∈ items, v.Plain := by
  constructor
  · intro plain
    cases plain with
    | literal scalar => simp [identity?, tag] at scalar
    | array each => exact each
  · exact .array

theorem plain_object_iff {id : Identity} {cls : Class} {entries : Entries Value} :
    (object id cls entries).Plain ↔ entries.keys.Nodup ∧ ∀ p ∈ entries, p.2.Plain := by
  constructor
  · intro plain
    cases plain with
    | literal scalar => simp [identity?, tag] at scalar
    | object distinct each => exact ⟨distinct, each⟩
  · exact fun given => .object given.1 given.2

def itemPart (i : Nat) : Value → Option Value
  | array _ items => items[i]?
  | _ => none

def entryPart (key : String) : Value → Option Value
  | object _ _ entries => Entries.find? key entries
  | _ => none

def listed : Option Value → List String
  | some (object _ _ entries) => Entries.keys entries
  | _ => []

inductive Reordered : Value → Value → Prop
  | object {id id' : Identity} {cls : Class} {entries entries' : Entries Value}
    (distinct : entries.keys.Nodup) (reordered : entries.Perm entries') :
    Reordered (object id cls entries) (object id' cls entries')

/-- Another order, another class, or one more entry under a key that is not listed. -/
inductive Unseen (part : Option Value) : Value → Value → Prop
  | reordered {v v' : Value} (reordered : Reordered v v') : Unseen part v v'
  | reclassed {id id' : Identity} {cls cls' : Class} {entries : Entries Value} :
    Unseen part (object id cls entries) (object id' cls' entries)
  | added {id id' : Identity} {cls : Class} {before after : Entries Value} {key : String} {v : Value}
    (unlisted : key ∉ listed part) :
    Unseen part (object id cls (before ++ after)) (object id' cls (before ++ (key, v) :: after))

/-- A change at one place, at any depth. The identities of what is around it are of no concern. -/
inductive Inside (change : Option Value → Value → Value → Prop) :
    Option Value → Value → Value → Prop
  | here {part : Option Value} {v v' : Value} (changed : change part v v') : Inside change part v v'
  | item {part : Option Value} {id id' : Identity} {before after : List Value} {v v' : Value}
    (inner : Inside change (part.bind (itemPart before.length)) v v') :
    Inside change part (array id (before ++ v :: after)) (array id' (before ++ v' :: after))
  | entry {part : Option Value} {id id' : Identity} {cls : Class} {before after : Entries Value}
    {key : String} {v v' : Value} (inner : Inside change (part.bind (entryPart key)) v v') :
    Inside change part (object id cls (before ++ (key, v) :: after))
      (object id' cls (before ++ (key, v') :: after))

variable {part : Option Value} {v v' : Value}

theorem Unseen.tags (unseen : Unseen part v v') : v.tag = .object ∧ v'.tag = .object := by
  cases unseen with
  | reordered reordered => cases reordered; exact ⟨rfl, rfl⟩
  | reclassed => exact ⟨rfl, rfl⟩
  | added => exact ⟨rfl, rfl⟩

theorem Unseen.get_eq (unseen : Unseen part v v') {key : String} (seen : key ∈ listed part) :
    v'.get key = v.get key := by
  cases unseen with
  | reordered reordered =>
      cases reordered with
      | object distinct reordered => rw [get, get, Entries.find?_perm reordered.symm distinct]
  | reclassed => rfl
  | @added _ _ _ before after k v unlisted =>
      have other : key ≠ k := by
        rintro rfl
        exact unlisted seen
      rw [get, get, Entries.find?_append, Entries.find?_append, Entries.find?_cons, if_neg other]

theorem Inside.tag_eq (inside : Inside Unseen part v v') : v'.tag = v.tag := by
  cases inside with
  | here unseen => exact unseen.tags.2.trans unseen.tags.1.symm
  | item => rfl
  | entry => rfl

theorem Inside.container (inside : Inside Unseen part v v') : v.tag = .array ∨ v.tag = .object := by
  cases inside with
  | here unseen => exact .inr unseen.tags.1
  | item => exact .inl rfl
  | entry => exact .inr rfl

theorem toText_eq_of_container (container : v.tag = .array ∨ v.tag = .object) :
    v.toText = v.tag.toText := by
  cases v with
  | array | object => rfl
  | _ => simp [tag] at container

end Value
end ShapeCheck
