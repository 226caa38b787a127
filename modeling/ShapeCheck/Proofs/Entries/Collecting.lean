import ShapeCheck.Proofs.Entries
import ShapeCheck.Schema
import ShapeCheck.Value.Property

namespace ShapeCheck.Entries

variable {α : Type} {pairs : List (String × α)} {es fs : Entries α} {key : String} {value : α}

/-- The value is the last one that comes under the key. -/
def LastUnder (key : String) (value : α) (pairs : List (String × α)) : Prop :=
  ∃ before after, pairs = before ++ (key, value) :: after ∧ key ∉ keys after

def Earlier (pairs : List (String × α)) (k l : String) : Prop :=
  (keys pairs).idxOf k < (keys pairs).idxOf l

structure Collects (pairs : List (String × α)) (es : Entries α) : Prop where
  distinct : es.keys.Nodup
  ordered : es.keys.Pairwise (Earlier pairs)
  mem_iff : ∀ key value, (key, value) ∈ es ↔ LastUnder key value pairs

/-- Ways to build entries out of a list: from all of it at once, or from all but the last and then
with one more entry. -/
inductive Built : List (String × α) → Entries α → Prop
  | ofList (pairs : List (String × α)) : Built pairs (ofList pairs)
  | insert {pairs : List (String × α)} {es : Entries α} (built : Built pairs es) (key : String)
    (value : α) : Built (pairs ++ [(key, value)]) (insert key value es)

theorem lastUnder_iff : LastUnder key value pairs ↔ find? key pairs.reverse = some value := by
  rw [find?, List.lookup_eq_some_iff]
  constructor
  · rintro ⟨before, after, rfl, absent⟩
    refine ⟨after.reverse, before.reverse, by simp, fun p member => ?_⟩
    rw [bne_iff_ne]
    rintro rfl
    exact absent (List.mem_map_of_mem (List.mem_reverse.1 member))
  · rintro ⟨after, before, reversed, each⟩
    refine ⟨before.reverse, after.reverse, ?_, fun member => ?_⟩
    · rw [← List.reverse_reverse pairs, reversed]
      simp
    · obtain ⟨p, inside, rfl⟩ := List.mem_map.1 member
      simpa using each p (List.mem_reverse.1 inside)

theorem earlier_append_iff {k l : String} (memberK : k ∈ keys pairs) (memberL : l ∈ keys pairs)
    (more : List (String × α)) : Earlier (pairs ++ more) k l ↔ Earlier pairs k l := by
  rw [Earlier, keys_append, List.idxOf_append_of_mem memberK, List.idxOf_append_of_mem memberL,
    Earlier]

theorem earlier_new {k l : String} (member : k ∈ keys pairs) (new : l ∉ keys pairs)
    (more : List (String × α)) : Earlier (pairs ++ more) k l := by
  rw [Earlier, keys_append, List.idxOf_append_of_mem member, List.idxOf_append_of_notMem new]
  exact Nat.lt_add_right _ (List.idxOf_lt_length_of_mem member)

namespace Collects

theorem of_find? (distinct : es.keys.Nodup) (ordered : es.keys.Pairwise (Earlier pairs))
    (found : ∀ key, find? key es = find? key pairs.reverse) : Collects pairs es where
  distinct := distinct
  ordered := ordered
  mem_iff key value := by rw [← find?_eq_some_iff distinct, found, lastUnder_iff]

theorem find?_eq_some_iff (h : Collects pairs es) :
    find? key es = some value ↔ LastUnder key value pairs := by
  rw [Entries.find?_eq_some_iff h.distinct, h.mem_iff]

theorem find?_eq (h : Collects pairs es) (key : String) : find? key es = find? key pairs.reverse := by
  apply Option.ext
  intro value
  rw [h.find?_eq_some_iff, lastUnder_iff]

theorem mem_keys_iff (h : Collects pairs es) : key ∈ es.keys ↔ key ∈ keys pairs := by
  have missing : key ∉ es.keys ↔ key ∉ keys pairs := by
    rw [← find?_eq_none_iff, h.find?_eq, find?_eq_none_iff, keys, List.map_reverse,
      List.mem_reverse, keys]
  exact not_iff_not.1 missing

theorem nil : Collects ([] : List (String × α)) [] :=
  of_find? List.nodup_nil List.Pairwise.nil fun _ => rfl

theorem ordered_append (h : Collects pairs es) (more : List (String × α)) :
    es.keys.Pairwise (Earlier (pairs ++ more)) := by
  refine h.ordered.imp_of_mem fun memberK memberL earlier => ?_
  exact (earlier_append_iff (h.mem_keys_iff.1 memberK) (h.mem_keys_iff.1 memberL) more).2 earlier

theorem ordered_insert (h : Collects pairs es) (key : String) (value : α) :
    (keys (Entries.insert key value es)).Pairwise (Earlier (pairs ++ [(key, value)])) := by
  by_cases member : key ∈ es.keys
  · rw [keys_insert_of_mem member]
    exact h.ordered_append _
  · -- A new key is written last, and nowhere is it earlier than the others.
    rw [insert_of_notMem member, keys_append, List.pairwise_append]
    refine ⟨h.ordered_append _, List.pairwise_singleton _ _, fun k inside l last => ?_⟩
    obtain rfl : l = key := List.mem_singleton.1 last
    exact earlier_new (h.mem_keys_iff.1 inside) (mt h.mem_keys_iff.2 member) _

theorem insert (h : Collects pairs es) (key : String) (value : α) :
    Collects (pairs ++ [(key, value)]) (Entries.insert key value es) := by
  refine of_find? (nodup_keys_insert h.distinct) (h.ordered_insert key value) fun k => ?_
  rw [find?_insert, h.find?_eq, List.reverse_concat, find?_cons]

theorem insertAll (h : Collects pairs es) (more : List (String × α)) :
    Collects (pairs ++ more) (Entries.insertAll es more) := by
  induction more generalizing pairs es with
  | nil => rwa [List.append_nil]
  | cons p rest ih =>
      have written := ih (h.insert p.1 p.2)
      rwa [List.append_assoc] at written

theorem unique (h : Collects pairs es) (h' : Collects pairs fs) : es = fs := by
  have reordered : es.Perm fs := by
    rw [List.perm_ext_iff_of_nodup (.of_map Prod.fst h.distinct) (.of_map Prod.fst h'.distinct)]
    intro p
    exact (h.mem_iff p.1 p.2).trans (h'.mem_iff p.1 p.2).symm
  have ordered : es.Pairwise fun p q => Earlier pairs p.1 q.1 := List.pairwise_map.1 h.ordered
  have ordered' : fs.Pairwise fun p q => Earlier pairs p.1 q.1 := List.pairwise_map.1 h'.ordered
  -- The same entries in one order: what comes first in the list decides.
  refine reordered.eq_of_pairwise (fun p q _ _ before after => ?_) ordered ordered'
  exact absurd after (Nat.lt_asymm before)

end Collects

theorem collects_ofList (pairs : List (String × α)) : Collects pairs (ofList pairs) :=
  Collects.nil.insertAll pairs

example : ofList [("a", 1), ("b", 2), ("a", 3)] = [("a", 3), ("b", 2)] := by decide

theorem Built.collects (built : Built pairs es) : Collects pairs es := by
  induction built with
  | ofList pairs => exact collects_ofList pairs
  | insert _ key value ih => exact ih.insert key value

theorem built_iff : Built pairs es ↔ es = ofList pairs := by
  constructor
  · intro built
    exact built.collects.unique (collects_ofList pairs)
  · rintro rfl
    exact .ofList pairs

theorem ofEntries_examples (pairs : List (String × Value)) :
    Schema.ofEntries (Schema.examples pairs) = .shape (Schema.examples (ofList pairs)) :=
  congrArg Schema.shape (ofList_map Schema.value pairs)

/-- However they are built, objects, errors and shapes collect the entries that they are given. So an
object has the last value under each key, and a shape of examples is the shape of the object that has
the same entries. -/
theorem containers_collect (pairs : List (String × Value)) (schemas : List (String × Schema))
    (cls : Class) (message : String) (next : Identity) :
    (∃ entries : Entries Value, Collects pairs entries ∧
      (Value.newObject cls pairs).run next = (.object next cls entries, next + 1) ∧
      (Value.newError cls message pairs).run next = (.error next cls message entries, next + 1) ∧
      (∀ key value, find? key entries = some value ↔ LastUnder key value pairs) ∧
      (∀ key, LastUnder key ((Value.object next cls entries).get key) pairs ∨
        key ∉ keys pairs ∧ (Value.object next cls entries).get key = .undefined) ∧
      Schema.ofEntries (Schema.examples pairs) = .shape (Schema.examples entries) ∧
      Schema.ofEntries (Schema.examples entries) = .shape (Schema.examples entries)) ∧
    ∃ shapes : Entries Schema, Collects schemas shapes ∧
      Schema.ofEntries schemas = .shape shapes ∧ ∀ es, Built schemas es ↔ es = shapes := by
  have collected := collects_ofList pairs
  refine ⟨⟨ofList pairs, collected, rfl, rfl, fun key value => collected.find?_eq_some_iff,
    fun key => ?read, ofEntries_examples pairs, ?again⟩,
    ofList schemas, collects_ofList schemas, rfl, fun es => built_iff⟩
  case read =>
    rw [Value.get]
    cases found : find? key (ofList pairs) with
    | some value => exact .inl (collected.find?_eq_some_iff.1 found)
    | none =>
        have missing : key ∉ keys (ofList pairs) := find?_eq_none_iff.1 found
        exact .inr ⟨mt collected.mem_keys_iff.2 missing, rfl⟩
  case again =>
    rw [ofEntries_examples, ofList_of_nodup collected.distinct]

end ShapeCheck.Entries
