import Mathlib.Data.List.Forall2
import Mathlib.Data.List.Nodup
import Mathlib.Data.List.Perm.Basic
import Mathlib.Data.Option.Basic
import ShapeCheck.Entries

namespace ShapeCheck

theorem forall₂_choose {α β γ : Type} {R : α → β → Prop} {S : β → γ → Prop} {T : α → γ → Prop}
    {as : List α} {bs : List β} (related : List.Forall₂ R as bs)
    (choose : ∀ a ∈ as, ∀ b, R a b → ∃ c, S b c ∧ T a c) :
    ∃ cs, List.Forall₂ S bs cs ∧ List.Forall₂ T as cs := by
  induction related with
  | nil => exact ⟨[], .nil, .nil⟩
  | cons head _ ih =>
      obtain ⟨c, hS, hT⟩ := choose _ List.mem_cons_self _ head
      obtain ⟨cs, hSs, hTs⟩ := ih fun a ha => choose a (List.mem_cons_of_mem _ ha)
      exact ⟨c :: cs, .cons hS hSs, .cons hT hTs⟩

theorem forall₂_imp_of_mem {α β : Type} {R S : α → β → Prop} {as : List α} {bs : List β}
    (related : List.Forall₂ R as bs) (each : ∀ a ∈ as, ∀ b ∈ bs, R a b → S a b) :
    List.Forall₂ S as bs := by
  induction related with
  | nil => exact .nil
  | cons head _ ih =>
      refine .cons (each _ List.mem_cons_self _ List.mem_cons_self head) (ih ?_)
      exact fun a member b member' =>
        each a (List.mem_cons_of_mem _ member) b (List.mem_cons_of_mem _ member')

theorem forall₂_flip_of_mem {α β : Type} {R : α → β → Prop} {S : β → α → Prop} {as : List α}
    {bs : List β} (related : List.Forall₂ R as bs) (each : ∀ a ∈ as, ∀ b, R a b → S b a) :
    List.Forall₂ S bs as :=
  (forall₂_imp_of_mem (S := fun a b => S b a) related fun a member b _ => each a member b).flip

theorem forall₂_trans_of_mem {α β γ : Type} {R : α → β → Prop} {S : β → γ → Prop} {T : α → γ → Prop}
    {as : List α} {bs : List β} {cs : List γ} (first : List.Forall₂ R as bs)
    (second : List.Forall₂ S bs cs) (each : ∀ a ∈ as, ∀ b c, R a b → S b c → T a c) :
    List.Forall₂ T as cs := by
  induction first generalizing cs with
  | nil => cases second; exact .nil
  | cons head _ ih =>
      cases second with
      | cons head' tail' =>
          exact .cons (each _ List.mem_cons_self _ _ head head')
            (ih tail' fun a member => each a (List.mem_cons_of_mem _ member))

theorem forall₂_and {α β : Type} {R S : α → β → Prop} {as : List α} {bs : List β} :
    List.Forall₂ (fun a b => R a b ∧ S a b) as bs ↔ List.Forall₂ R as bs ∧ List.Forall₂ S as bs := by
  induction as generalizing bs with
  | nil => cases bs <;> simp
  | cons a as ih =>
      cases bs with
      | nil => simp
      | cons b bs =>
          simp only [List.forall₂_cons, ih]
          tauto

theorem forall₂_iff_forall_mem {α β : Type} {R S : α → β → Prop} {P : α → Prop} {as : List α}
    {bs : List β} (related : List.Forall₂ R as bs)
    (each : ∀ a ∈ as, ∀ b, R a b → (S a b ↔ P a)) : List.Forall₂ S as bs ↔ ∀ a ∈ as, P a := by
  induction related with
  | nil => simp
  | cons head _ ih =>
      rw [List.forall_mem_cons] at each
      rw [List.forall₂_cons, List.forall_mem_cons, each.1 _ head, ih each.2]

theorem exists_of_forall₂_of_mem {α β : Type} {R : α → β → Prop} {as : List α} {bs : List β}
    (related : List.Forall₂ R as bs) {a : α} (member : a ∈ as) : ∃ b, R a b := by
  have each := forall₂_iff_forall_mem (P := fun a => ∃ b, R a b) related fun _ _ b given =>
    iff_of_true given ⟨b, given⟩
  exact each.1 related a member

theorem exists_forall₂_iff {α β : Type} {R : α → β → Prop} {as : List α} :
    (∃ bs, List.Forall₂ R as bs) ↔ ∀ a ∈ as, ∃ b, R a b := by
  constructor
  · rintro ⟨bs, related⟩ a member
    exact exists_of_forall₂_of_mem related member
  · intro each
    induction as with
    | nil => exact ⟨[], .nil⟩
    | cons a as ih =>
        obtain ⟨⟨b, head⟩, tail⟩ := List.forall_mem_cons.1 each
        obtain ⟨bs, related⟩ := ih tail
        exact ⟨b :: bs, .cons head related⟩

theorem getElem?_of_forall₂ {α β : Type} {R : α → β → Prop} {as : List α} {bs : List β}
    (related : List.Forall₂ R as bs) {i : Nat} {b : β} (found : bs[i]? = some b) :
    ∃ a, as[i]? = some a ∧ R a b := by
  induction related generalizing i with
  | nil => cases found
  | cons head _ ih =>
      cases i with
      | zero => cases found; exact ⟨_, rfl, head⟩
      | succ i => exact ih found

theorem forall₂_replaced {α : Type} {R : α → α → Prop} (refl : ∀ a, R a a) (before after : List α)
    {a b : α} (related : R a b) : List.Forall₂ R (before ++ a :: after) (before ++ b :: after) := by
  apply List.rel_append
  · exact List.forall₂_same.2 fun a _ => refl a
  · exact .cons related (List.forall₂_same.2 fun a _ => refl a)

theorem forall₂_iff_both_of_mem {α β : Type} {P Q : α → β → Prop} {R : β → α → Prop} {as : List α}
    {bs : List β} (each : ∀ a ∈ as, ∀ b, P a b ↔ Q a b ∧ R b a) :
    List.Forall₂ P as bs ↔ List.Forall₂ Q as bs ∧ List.Forall₂ R bs as := by
  induction as generalizing bs with
  | nil => cases bs <;> simp
  | cons a as ih =>
      rw [List.forall_mem_cons] at each
      cases bs with
      | nil => simp
      | cons b bs =>
          simp only [List.forall₂_cons, each.1, ih each.2]
          tauto

namespace Entries

variable {α β : Type}

theorem sizeOf_value_lt {κ : Type} [SizeOf κ] [SizeOf α] {p : κ × α} {es : List (κ × α)}
    (h : p ∈ es) : sizeOf p.2 < sizeOf es := by
  have member := List.sizeOf_lt_of_mem h
  have part : sizeOf p = 1 + sizeOf p.1 + sizeOf p.2 := by cases p; rfl
  omega

@[simp] theorem keys_nil : keys ([] : Entries α) = [] := rfl

@[simp] theorem keys_cons (p : String × α) (es : Entries α) : keys (p :: es) = p.1 :: keys es := rfl

theorem keys_append (es fs : Entries α) : keys (es ++ fs) = es.keys ++ fs.keys :=
  List.map_append

theorem nodup_keys_singleton (p : String × α) : (keys [p]).Nodup :=
  List.nodup_singleton _

@[simp] theorem find?_nil (key : String) : find? key ([] : Entries α) = none := rfl

theorem find?_cons (key : String) (p : String × α) (es : Entries α) :
    find? key (p :: es) = if key = p.1 then some p.2 else find? key es := by
  obtain ⟨k, value⟩ := p
  by_cases h : key = k
  · simp [find?, h]
  · simp [find?, List.lookup_cons, h, beq_eq_false_iff_ne.2 h]

theorem find?_append (key : String) (es fs : Entries α) :
    find? key (es ++ fs) = (find? key es).or (find? key fs) := by
  induction es with
  | nil => rfl
  | cons p es ih =>
      rw [List.cons_append, find?_cons, find?_cons, ih]
      split <;> rfl

theorem find?_replaced (before after : Entries α) (k : String) (a b : α) (key : String) :
    find? key (before ++ (k, b) :: after) = find? key (before ++ (k, a) :: after) ∨
      key = k ∧ find? key (before ++ (k, a) :: after) = some a ∧
        find? key (before ++ (k, b) :: after) = some b := by
  simp only [find?_append, find?_cons]
  cases find? key before with
  | some c => exact .inl rfl
  | none =>
      by_cases same : key = k
      · exact .inr (by simp [same])
      · exact .inl (by simp [same])

theorem find?_eq_none_iff {key : String} {es : Entries α} : find? key es = none ↔ key ∉ es.keys := by
  induction es with
  | nil => simp
  | cons p es ih => by_cases h : key = p.1 <;> simp [find?_cons, h, ih]

theorem mem_keys_insert {key k : String} {value : α} {es : Entries α} :
    k ∈ keys (insert key value es) ↔ k = key ∨ k ∈ es.keys := by
  induction es with
  | nil => simp [insert]
  | cons p es ih =>
      by_cases h : p.1 = key
      · simp [insert, h]
      · simp only [insert, h, if_false, keys_cons, List.mem_cons, ih]
        tauto

theorem nodup_keys_insert {key : String} {value : α} {es : Entries α} (h : es.keys.Nodup) :
    (keys (insert key value es)).Nodup := by
  induction es with
  | nil => simp [insert]
  | cons p es ih =>
      rw [keys_cons, List.nodup_cons] at h
      by_cases hk : p.1 = key
      · simpa [insert, hk] using hk ▸ h
      · rw [insert, if_neg hk, keys_cons, List.nodup_cons, mem_keys_insert]
        exact ⟨fun member => member.elim hk h.1, ih h.2⟩

theorem nodup_keys_insertAll {es : Entries α} (pairs : List (String × α)) (h : es.keys.Nodup) :
    (keys (insertAll es pairs)).Nodup := by
  induction pairs generalizing es with
  | nil => exact h
  | cons p rest ih => exact ih (nodup_keys_insert h)

theorem nodup_keys_ofList (pairs : List (String × α)) : (keys (ofList pairs)).Nodup :=
  nodup_keys_insertAll pairs List.nodup_nil

theorem find?_insert (key k : String) (value : α) (es : Entries α) :
    find? k (insert key value es) = if k = key then some value else find? k es := by
  induction es with
  | nil => simp [insert, find?_cons]
  | cons p es ih =>
      by_cases h : p.1 = key
      · by_cases hk : k = key <;> simp [insert, find?_cons, h, hk]
      · by_cases hk : k = p.1
        · subst hk
          simp [insert, find?_cons, h]
        · simp [insert, find?_cons, h, hk, ih]

theorem find?_insertAll (key : String) (es : Entries α) (pairs : List (String × α)) :
    find? key (insertAll es pairs) = (find? key pairs.reverse).or (find? key es) := by
  induction pairs generalizing es with
  | nil => simp [insertAll]
  | cons p rest ih =>
      have step : insertAll es (p :: rest) = insertAll (insert p.1 p.2 es) rest := rfl
      have last : find? key (p :: rest).reverse =
          (find? key rest.reverse).or (find? key [p]) := by
        rw [List.reverse_cons, find?, List.lookup_append]
        rfl
      rw [step, ih, last, Option.or_assoc, find?_insert, find?_cons]
      by_cases h : key = p.1 <;> simp [h]

theorem find?_ofList (key : String) (pairs : List (String × α)) :
    find? key (ofList pairs) = find? key pairs.reverse := by
  rw [ofList, find?_insertAll, find?_nil, Option.or_none]

theorem find?_eq_some_iff {key : String} {value : α} {es : Entries α} (h : es.keys.Nodup) :
    find? key es = some value ↔ (key, value) ∈ es := by
  induction es with
  | nil => simp
  | cons p es ih =>
      rw [keys_cons, List.nodup_cons] at h
      rw [find?_cons, List.mem_cons, ← ih h.2, Prod.ext_iff]
      by_cases hk : key = p.1
      · have absent : find? key es = none := find?_eq_none_iff.2 (hk ▸ h.1)
        simp [hk, eq_comm, hk ▸ absent]
      · simp [hk]

theorem find?_reverse {es : Entries α} (h : es.keys.Nodup) (key : String) :
    find? key es.reverse = find? key es := by
  have reversed : (keys es.reverse).Nodup := by
    rwa [keys, List.map_reverse, List.nodup_reverse]
  apply Option.ext
  intro value
  rw [find?_eq_some_iff reversed, find?_eq_some_iff h, List.mem_reverse]

theorem mem_insertAll {es pairs : Entries α} (hes : es.keys.Nodup) (hpairs : pairs.keys.Nodup)
    {p : String × α} : p ∈ insertAll es pairs ↔ p ∈ pairs ∨ p.1 ∉ pairs.keys ∧ p ∈ es := by
  obtain ⟨key, value⟩ := p
  rw [← find?_eq_some_iff (nodup_keys_insertAll pairs hes), find?_insertAll,
    find?_reverse hpairs, Option.or_eq_some_iff, find?_eq_some_iff hpairs, find?_eq_some_iff hes,
    find?_eq_none_iff]

theorem mem_of_mem_insertAll {es : Entries α} {pairs : List (String × α)} {p : String × α}
    (h : p ∈ insertAll es pairs) : p ∈ es ∨ p ∈ pairs := by
  induction pairs generalizing es with
  | nil => exact .inl h
  | cons q rest ih =>
      have written : ∀ {es : Entries α}, p ∈ insert q.1 q.2 es → p ∈ es ∨ p = q := by
        intro es member
        induction es with
        | nil => exact .inr (List.mem_singleton.1 member)
        | cons r es ihe =>
            by_cases hk : r.1 = q.1
            · rw [insert, if_pos hk, List.mem_cons, hk] at member
              exact member.elim .inr fun m => .inl (List.mem_cons_of_mem _ m)
            · rw [insert, if_neg hk, List.mem_cons] at member
              rcases member with rfl | member
              · exact .inl List.mem_cons_self
              · exact (ihe member).imp_left (List.mem_cons_of_mem _)
      rcases ih h with member | member
      · rcases written member with member | rfl
        · exact .inl member
        · exact .inr List.mem_cons_self
      · exact .inr (List.mem_cons_of_mem _ member)

theorem mem_of_mem_ofList {pairs : List (String × α)} {p : String × α} (h : p ∈ ofList pairs) :
    p ∈ pairs := by
  simpa using mem_of_mem_insertAll h

theorem insert_of_notMem {key : String} {value : α} {es : Entries α} (h : key ∉ es.keys) :
    insert key value es = es ++ [(key, value)] := by
  induction es with
  | nil => rfl
  | cons p es ih =>
      rw [keys_cons, List.mem_cons, not_or] at h
      rw [insert, if_neg (Ne.symm h.1), ih h.2, List.cons_append]

theorem insertAll_of_nodup {es pairs : Entries α} (h : (keys (es ++ pairs)).Nodup) :
    insertAll es pairs = es ++ pairs := by
  induction pairs generalizing es with
  | nil => simp [insertAll]
  | cons p rest ih =>
      have step : insertAll es (p :: rest) = insertAll (insert p.1 p.2 es) rest := rfl
      have absent : p.1 ∉ es.keys := by
        rw [keys_append, keys_cons, List.nodup_append] at h
        exact fun member => h.2.2 p.1 member p.1 List.mem_cons_self rfl
      rw [step, insert_of_notMem absent, ih (by simpa using h), List.append_assoc,
        List.singleton_append]

theorem ofList_of_nodup {pairs : Entries α} (h : pairs.keys.Nodup) : ofList pairs = pairs :=
  insertAll_of_nodup h

theorem keys_insert_of_mem {key : String} {value : α} {es : Entries α} (h : key ∈ es.keys) :
    keys (insert key value es) = es.keys := by
  induction es with
  | nil => cases h
  | cons p es ih =>
      by_cases hk : p.1 = key
      · rw [insert, if_pos hk, keys_cons, keys_cons, hk]
      · rw [keys_cons, List.mem_cons] at h
        rw [insert, if_neg hk, keys_cons, keys_cons, ih (h.resolve_left (Ne.symm hk))]

theorem keys_insertAll (es : Entries α) (pairs : List (String × α)) :
    keys (insertAll es pairs) = es.keys ++ ((keys pairs).removeAll es.keys).eraseDups := by
  induction pairs generalizing es with
  | nil => simp [insertAll]
  | cons p rest ih =>
      have step : insertAll es (p :: rest) = insertAll (insert p.1 p.2 es) rest := rfl
      rw [step, ih, keys_cons, List.cons_removeAll]
      by_cases member : p.1 ∈ es.keys
      · rw [keys_insert_of_mem member, List.contains_iff_mem.2 member, if_neg (by decide)]
      · have appended : keys (insert p.1 p.2 es) = es.keys ++ [p.1] := by
          rw [insert_of_notMem member, keys_append]
          rfl
        have others : (keys rest).removeAll (es.keys ++ [p.1]) =
            ((keys rest).removeAll es.keys).filter fun k => !k == p.1 := by
          simp [List.removeAll, List.filter_filter, Bool.and_comm, beq_eq_decide]
        rw [appended, others, if_pos (by simpa using member), List.eraseDups_cons,
          List.append_assoc, List.singleton_append]

theorem keys_ofList (pairs : List (String × α)) : keys (ofList pairs) = (keys pairs).eraseDups := by
  rw [ofList, keys_insertAll, keys_nil, List.nil_append, List.removeAll_nil]

theorem length_ofList_eq_iff {pairs : Entries α} :
    (ofList pairs).length = pairs.length ↔ pairs.keys.Nodup := by
  constructor
  · intro same
    have subset : keys (ofList pairs) ⊆ pairs.keys := by
      intro key member
      obtain ⟨p, inside, rfl⟩ := List.mem_map.1 member
      exact List.mem_map_of_mem (mem_of_mem_ofList inside)
    have lengths : pairs.keys.length = (keys (ofList pairs)).length := by
      rw [keys, keys, List.length_map, List.length_map, same]
    have distinct := nodup_keys_ofList pairs
    exact ((List.subperm_of_subset distinct subset).perm_of_length_le
      (Nat.le_of_eq lengths)).nodup_iff.1 distinct
  · intro distinct
    rw [ofList_of_nodup distinct]

theorem filter_insert (key : String) (value : α) (es : Entries α) :
    (insert key value es).filter (fun p => p.1 ≠ key) = es.filter fun p => p.1 ≠ key := by
  induction es with
  | nil => simp [insert]
  | cons p es ih =>
      by_cases h : p.1 = key
      · simp [insert, h]
      · rw [insert, if_neg h, List.filter_cons, List.filter_cons, ih]

theorem filter_insert_of_ne {key k : String} (h : k ≠ key) (value : α) (es : Entries α) :
    (insert k value es).filter (fun p => p.1 ≠ key) =
      insert k value (es.filter fun p => p.1 ≠ key) := by
  induction es with
  | nil => simp [insert, h]
  | cons p es ih =>
      by_cases hk : p.1 = k
      · simp [insert, hk, h]
      · rw [insert, if_neg hk, List.filter_cons, List.filter_cons, ih]
        by_cases hkey : p.1 = key <;> simp [insert, hk, hkey]

theorem insertAll_singleton (key : String) (value : α) (pairs : List (String × α)) :
    insertAll [(key, value)] pairs = (key, (find? key (ofList pairs)).getD value) ::
      (ofList pairs).filter fun p => p.1 ≠ key := by
  have general (es : Entries α) :
      insertAll ((key, (find? key es).getD value) :: es.filter fun p => p.1 ≠ key) pairs =
        (key, (find? key (insertAll es pairs)).getD value) ::
          (insertAll es pairs).filter fun p => p.1 ≠ key := by
    induction pairs generalizing es with
    | nil => rfl
    | cons p rest ih =>
        have step (es : Entries α) : insertAll es (p :: rest) = insertAll (insert p.1 p.2 es) rest :=
          rfl
        rw [step, step, ← ih, find?_insert]
        by_cases h : p.1 = key
        · subst h
          rw [insert, if_pos rfl, if_pos rfl, filter_insert, Option.getD_some]
        · rw [insert, if_neg (Ne.symm h), if_neg (Ne.symm h), filter_insert_of_ne h]
  exact general []

def Related (R : α → β → Prop) : Entries α → Entries β → Prop :=
  List.Forall₂ fun p q => p.1 = q.1 ∧ R p.2 q.2

theorem related_of_forall {R : α → β → Prop} {es : Entries α} (each : ∀ p ∈ es, ∃ b, R p.2 b) :
    ∃ fs, Related R es fs := by
  apply exists_forall₂_iff.2
  intro p member
  obtain ⟨b, related⟩ := each p member
  exact ⟨(p.1, b), rfl, related⟩

theorem related_iff {R : α → β → Prop} {es : Entries α} {fs : Entries β} :
    Related R es fs ↔ es.keys = fs.keys ∧ List.Forall₂ R (es.map Prod.snd) (fs.map Prod.snd) := by
  rw [Related, forall₂_and, List.forall₂_map_left_iff, List.forall₂_map_right_iff, keys, keys,
    ← List.forall₂_eq_eq_eq, List.forall₂_map_left_iff, List.forall₂_map_right_iff]

namespace Related

variable {R : α → β → Prop} {es : Entries α} {fs : Entries β}

theorem keys_eq (h : Related R es fs) : es.keys = fs.keys := by
  induction h with
  | nil => rfl
  | cons head _ ih => rw [keys_cons, keys_cons, head.1, ih]

theorem insert {a : α} {b : β} (h : Related R es fs) (key : String) (hab : R a b) :
    Related R (Entries.insert key a es) (Entries.insert key b fs) := by
  induction h with
  | nil => exact .cons ⟨rfl, hab⟩ .nil
  | @cons p q es fs head tail ih =>
      by_cases hk : p.1 = key
      · rw [Entries.insert, Entries.insert, if_pos hk, if_pos (head.1 ▸ hk)]
        exact .cons ⟨head.1, hab⟩ tail
      · rw [Entries.insert, Entries.insert, if_neg hk, if_neg (head.1 ▸ hk)]
        exact .cons head ih

theorem insertAll {ps : Entries α} {qs : Entries β} (h : Related R es fs) (hpq : Related R ps qs) :
    Related R (Entries.insertAll es ps) (Entries.insertAll fs qs) := by
  induction hpq generalizing es fs with
  | nil => exact h
  | @cons p q ps qs head _ ih =>
      have written := h.insert p.1 head.2
      rw [show Entries.insertAll es (p :: ps) = Entries.insertAll (Entries.insert p.1 p.2 es) ps
        from rfl, show Entries.insertAll fs (q :: qs) =
        Entries.insertAll (Entries.insert p.1 q.2 fs) qs by rw [head.1]; rfl]
      exact ih written

theorem ofList (h : Related R es fs) : Related R (Entries.ofList es) (Entries.ofList fs) :=
  insertAll .nil h

theorem imp_of_mem {S : α → β → Prop} (h : Related R es fs)
    (each : ∀ p ∈ es, ∀ q ∈ fs, R p.2 q.2 → S p.2 q.2) : Related S es fs :=
  forall₂_imp_of_mem h fun p member q member' related =>
    ⟨related.1, each p member q member' related.2⟩

theorem eq_map {f : α → β} (h : Related (fun a b => f a = b) es fs) :
    fs = es.map fun p => (p.1, f p.2) := by
  induction h with
  | nil => rfl
  | cons head _ ih => rw [List.map_cons, ← ih, head.1, head.2]

theorem through {γ : Type} {S : α → γ → Prop} {T : β → γ → Prop} {gs : Entries γ}
    (h : Related R es fs) (h' : Related S es gs) (each : ∀ a b c, R a b → S a c → T b c) :
    Related T fs gs := by
  induction h generalizing gs with
  | nil => cases h'; exact .nil
  | cons head _ ih =>
      cases h' with
      | cons head' tail' =>
          exact .cons ⟨head.1.symm.trans head'.1, each _ _ _ head.2 head'.2⟩ (ih tail')

theorem choose {γ : Type} {S : β → γ → Prop} {T : α → γ → Prop} (h : Related R es fs)
    (each : ∀ p ∈ es, ∀ b, R p.2 b → ∃ c, S b c ∧ T p.2 c) :
    ∃ gs, Related S fs gs ∧ Related T es gs := by
  refine forall₂_choose h fun p member q related => ?_
  obtain ⟨c, hS, hT⟩ := each p member q.2 related.2
  exact ⟨(p.1, c), ⟨related.1.symm, hS⟩, rfl, hT⟩

theorem forall_iff {P : String → α → Prop} {Q : String → β → Prop} (h : Related R es fs)
    (common : ∀ key a b, R a b → (P key a ↔ Q key b)) :
    (∀ p ∈ es, P p.1 p.2) ↔ ∀ q ∈ fs, Q q.1 q.2 := by
  induction h with
  | nil => simp
  | cons head _ ih =>
      rw [List.forall_mem_cons, List.forall_mem_cons, ih, ← head.1, common _ _ _ head.2]

theorem forall_of_mem {Q : String → β → Prop} (h : Related R es fs)
    (each : ∀ p ∈ es, ∀ b, R p.2 b → Q p.1 b) : ∀ q ∈ fs, Q q.1 q.2 := by
  induction h with
  | nil => simp
  | cons head _ ih =>
      rw [List.forall_mem_cons] at each
      rw [List.forall_mem_cons, ← head.1]
      exact ⟨each.1 _ head.2, ih each.2⟩

theorem find? (h : Related R es fs) (key : String) :
    Option.Rel R (Entries.find? key es) (Entries.find? key fs) := by
  induction h with
  | nil => exact .none
  | @cons p q _ _ head _ ih =>
      rw [find?_cons, find?_cons, ← head.1]
      split
      · exact .some head.2
      · exact ih

theorem exists_find?_of_mem (h : Related R es fs) (distinct : es.keys.Nodup) {q : String × β}
    (member : q ∈ fs) : ∃ a, Entries.find? q.1 es = some a ∧ R a q.2 := by
  have found := h.find? q.1
  rw [(find?_eq_some_iff (h.keys_eq ▸ distinct)).2 member] at found
  generalize Entries.find? q.1 es = value at found ⊢
  cases found with
  | some related => exact ⟨_, rfl, related⟩

end Related

theorem related_filterMap {R : α → β → Prop} {f : String → Option β} {es : Entries α}
    (each : ∀ p ∈ es, ∃ b, f p.1 = some b ∧ R p.2 b) :
    Related R es (es.filterMap fun p => (f p.1).map fun b => (p.1, b)) := by
  induction es with
  | nil => exact .nil
  | cons p es ih =>
      obtain ⟨⟨b, found, head⟩, tail⟩ := List.forall_mem_cons.1 each
      rw [List.filterMap_cons, found]
      exact .cons ⟨rfl, head⟩ (ih tail)

theorem find?_perm {es fs : Entries α} (reordered : es.Perm fs) (distinct : fs.keys.Nodup)
    (key : String) : find? key es = find? key fs := by
  have distinct' : es.keys.Nodup := (reordered.map Prod.fst).nodup_iff.2 distinct
  apply Option.ext
  intro value
  rw [find?_eq_some_iff distinct', find?_eq_some_iff distinct, reordered.mem_iff]

/-- Where keys are distinct, to relate entries up to their order is to relate what is found under each
key. -/
theorem exists_perm_related_iff {R : α → β → Prop} {es : Entries α} {fs : Entries β}
    (distinct : es.keys.Nodup) (distinct' : fs.keys.Nodup) :
    (∃ gs : Entries β, gs.Perm fs ∧ Related R es gs) ↔
      ∀ key, Option.Rel R (find? key es) (find? key fs) := by
  constructor
  · rintro ⟨gs, reordered, related⟩ key
    rw [← find?_perm reordered distinct']
    exact related.find? key
  · intro found
    -- The entries of `fs` in the order of `es`.
    let gs : Entries β := es.filterMap fun p => (find? p.1 fs).map fun b => (p.1, b)
    have mem_gs {q : String × β} : q ∈ gs ↔ q.1 ∈ es.keys ∧ q ∈ fs := by
      obtain ⟨key, b⟩ := q
      simp only [gs, List.mem_filterMap, Option.map_eq_some_iff, Prod.mk.injEq,
        find?_eq_some_iff distinct', keys, List.mem_map]
      constructor
      · rintro ⟨p, member, value, there, rfl, rfl⟩
        exact ⟨⟨p, member, rfl⟩, there⟩
      · rintro ⟨⟨p, member, rfl⟩, there⟩
        exact ⟨p, member, b, there, rfl, rfl⟩
    have related : Related R es gs := by
      refine related_filterMap (f := fun key => find? key fs) fun p member => ?_
      have there := found p.1
      rw [(find?_eq_some_iff distinct).2 member] at there
      generalize find? p.1 fs = value at there ⊢
      cases there with
      | some head => exact ⟨_, rfl, head⟩
    have distinctG : (keys gs).Nodup := related.keys_eq ▸ distinct
    refine ⟨gs, ?_, related⟩
    rw [List.perm_ext_iff_of_nodup (.of_map Prod.fst distinctG) (.of_map Prod.fst distinct')]
    intro q
    rw [mem_gs, and_iff_right_iff_imp]
    intro member
    have there := found q.1
    rw [(find?_eq_some_iff distinct').2 member] at there
    by_contra absent
    rw [find?_eq_none_iff.2 absent] at there
    cases there

theorem related_map_map {γ δ : Type} {R : γ → δ → Prop} {f : α → γ} {g : β → δ} {es : Entries α}
    {fs : Entries β} : Related R (es.map fun p => (p.1, f p.2)) (fs.map fun p => (p.1, g p.2)) ↔
      Related (fun a b => R (f a) (g b)) es fs := by
  rw [Related, List.forall₂_map_left_iff, List.forall₂_map_right_iff]
  rfl

theorem related_map (f : α → β) (es : Entries α) :
    Related (fun a b => f a = b) es (es.map fun p => (p.1, f p.2)) := by
  rw [Related, List.forall₂_map_right_iff, List.forall₂_same]
  exact fun _ _ => ⟨rfl, rfl⟩

theorem ofList_map (f : α → β) (pairs : List (String × α)) :
    ofList (pairs.map fun p => (p.1, f p.2)) = (ofList pairs).map fun p => (p.1, f p.2) :=
  (related_map f pairs).ofList.eq_map

theorem find?_map (f : α → β) (key : String) (es : Entries α) :
    find? key (es.map fun p => (p.1, f p.2)) = (find? key es).map f := by
  induction es with
  | nil => rfl
  | cons p es ih =>
      rw [List.map_cons, find?_cons, find?_cons, ih]
      split <;> rfl

end Entries
end ShapeCheck
