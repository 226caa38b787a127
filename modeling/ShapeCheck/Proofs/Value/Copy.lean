import ShapeCheck.Proofs.Value.Run
import ShapeCheck.Value.Text

namespace ShapeCheck.Value

inductive Copies : Value → Value → Prop
  | scalar {v : Value} (plain : v.identity? = none) : Copies v v
  | symbol (id : Identity) (description : Option String) :
    Copies (symbol id description) (symbol id description)
  | date {id id' : Identity} (instant : Instant) : Copies (date id instant) (date id' instant)
  | regexp {id id' : Identity} (pattern : Pattern) : Copies (regexp id pattern) (regexp id' pattern)
  | function {id id' : Identity} (info : FunctionInfo) : Copies (function id info) (function id' info)
  | array {id id' : Identity} {items items' : List Value} (each : List.Forall₂ Copies items items') :
    Copies (array id items) (array id' items')
  | object {id id' : Identity} (cls : Class) {entries entries' : Entries Value}
    (keys : entries.keys = entries'.keys)
    (each : List.Forall₂ Copies (entries.map Prod.snd) (entries'.map Prod.snd)) :
    Copies (object id cls entries) (object id' cls entries')
  | error {id id' : Identity} (cls : Class) (message : String) {entries entries' : Entries Value}
    (keys : entries.keys = entries'.keys)
    (each : List.Forall₂ Copies (entries.map Prod.snd) (entries'.map Prod.snd)) :
    Copies (error id cls message entries) (error id' cls message entries')

namespace Copies

variable {v v' : Value}

theorem tag_eq (copy : Copies v v') : v'.tag = v.tag := by
  cases copy <;> rfl

theorem class?_eq (copy : Copies v v') : v'.class? = v.class? := by
  cases copy <;> rfl

theorem isNullish_eq (copy : Copies v v') : v'.isNullish = v.isNullish := by
  cases copy <;> rfl

theorem get_plain (plain : v.identity? = none) (key : String) : (v.get key).identity? = none := by
  have distinct : v.entryKeys.Nodup := by
    cases v with
    | object => cases plain
    | error => cases plain
    | _ => exact List.nodup_nil
  rcases holds_get distinct key with held | scalar
  · rwa [eq_of_holds_of_plain plain held]
  · exact scalar

theorem getD {items items' : List Value} (each : List.Forall₂ Copies items items') (i : Nat) :
    Copies (items.getD i undefined) (items'.getD i undefined) := by
  induction each generalizing i with
  | nil => exact .scalar rfl
  | cons head _ ih =>
      cases i with
      | zero => exact head
      | succ i => exact ih i

theorem itemAt {items items' : List Value} (each : List.Forall₂ Copies items items') (key : String) :
    Copies (Value.itemAt items key) (Value.itemAt items' key) := by
  unfold Value.itemAt
  split
  · exact getD each _
  · exact .scalar rfl

theorem get (copy : Copies v v') (key : String) : Copies (v.get key) (v'.get key) := by
  cases copy with
  | scalar plain => exact .scalar (get_plain plain key)
  | symbol | date => exact .scalar rfl
  | regexp | function =>
      simp only [Value.get]
      split
      · exact .scalar rfl
      · split <;> exact .scalar rfl
  | array each =>
      simp only [Value.get, each.length_eq]
      split
      · exact .scalar rfl
      · exact itemAt each key
  | @object _ _ cls entries entries' keys each =>
      have found := (Entries.related_iff.2 ⟨keys, each⟩).find? key
      simp only [Value.get]
      generalize Entries.find? key entries = here, Entries.find? key entries' = there at found ⊢
      cases found with
      | none => exact .scalar rfl
      | some copy => exact copy
  | @error _ _ cls message entries entries' keys each =>
      have found := (Entries.related_iff.2 ⟨keys, each⟩).find? key
      simp only [Value.get]
      generalize Entries.find? key entries = here, Entries.find? key entries' = there at found ⊢
      split
      · exact .scalar rfl
      · cases found with
        | none =>
            dsimp only
            split <;> exact .scalar rfl
        | some copy => exact copy

theorem errorName_eq (cls : Class) {entries entries' : Entries Value}
    (related : Entries.Related Copies entries entries') :
    errorName cls entries' = errorName cls entries := by
  have found := related.find? "name"
  unfold errorName
  generalize Entries.find? "name" entries = here, Entries.find? "name" entries' = there at found ⊢
  cases found with
  | none => rfl
  | some copy => cases copy <;> rfl

theorem toText_eq (copy : Copies v v') : v'.toText = v.toText := by
  cases copy with
  | error cls message keys each =>
      rw [toText, toText, errorName_eq cls (Entries.related_iff.2 ⟨keys, each⟩)]
  | _ => rfl

theorem sameLiteral_eq {e e' : Value} (copyE : Copies e e') (copyV : Copies v v')
    (literal : e.identity? = none ∨ e.tag = .symbol ∨ e.tag = .date)
    (dates : ∀ {id i j}, e = .date id i → v = .date id j → i = j)
    (dates' : ∀ {id i j}, e' = .date id i → v' = .date id j → i = j) :
    e'.sameLiteral v' = e.sameLiteral v := by
  have eq_of_instants {id a : Identity} {i j : Instant} (same : id = a → i = j) :
      (Value.date id i).sameLiteral (.date a j) = (i == j) := by
    rw [sameLiteral, identical, Bool.or_eq_right_iff_imp, beq_iff_eq, beq_iff_eq]
    exact same
  cases copyE with
  | scalar plain => cases copyV <;> cases e <;> first | rfl | cases plain
  | symbol => cases copyV <;> rfl
  | @date id id' i =>
      cases copyV with
      | @date a a' j =>
          rw [eq_of_instants fun same => dates' rfl (same ▸ rfl),
            eq_of_instants fun same => dates rfl (same ▸ rfl)]
      | @scalar v plain => cases v <;> first | rfl | cases plain
      | _ => rfl
  | _ => simp [identity?, tag] at literal

end Copies
end ShapeCheck.Value
