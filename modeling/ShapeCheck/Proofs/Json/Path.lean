import ShapeCheck.Proofs.Binary64.Exact
import ShapeCheck.Proofs.Json.Value
import ShapeCheck.Proofs.Value.Copy
import ShapeCheck.Proofs.Value.Property

/-!
# Paths into documents

A path leads from a document to a part of it, by keys of objects and positions of arrays, and the
texts of its steps lead from a value to a property of a property.

* `Represents.follow`: where a path leads in a document, its texts lead to a value of the part there.
* `exists_at?_of_holds`: all that the value of a document holds is the value of such a part.
* `toValue_follow`: to read from the value of a document is to read from the document.
-/

namespace ShapeCheck

theorem WrittenNumber.Fits.isFinite_toBinary64 {n : WrittenNumber} (fits : n.Fits) :
    n.toBinary64.isFinite = true := by
  cases n with
  | int n =>
      obtain ⟨least, most⟩ := fits
      exact Binary64.isFinite_ofRatio _ (by omega)
  | float x => exact fits

def Value.follow (v : Value) (path : List String) : Value :=
  path.foldl Value.get v

theorem Value.follow_undefined (path : List String) : undefined.follow path = undefined := by
  induction path with
  | nil => rfl
  | cons key rest ih => exact ih

namespace Json

inductive Step
  | key (k : String)
  | position (i : Nat)

def Step.text : Step → String
  | key k => k
  | position i => toString i

def step? : Json → Step → Option Json
  | object entries, .key k => Entries.find? k entries.reverse
  | array items, .position i => items[i]?
  | _, _ => none

def at? (j : Json) (path : List Step) : Option Json :=
  path.foldlM step? j

inductive Lacks : Json → Step → Prop
  | key {entries : Entries Json} {k : String} (absent : k ∉ entries.keys) :
    Lacks (object entries) (.key k)
  | position {items : List Json} {i : Nat} (beyond : items.length ≤ i) :
    Lacks (array items) (.position i)

theorem at?_cons (j : Json) (s : Step) (path : List Step) :
    j.at? (s :: path) = (j.step? s).bind fun k => k.at? path :=
  List.foldlM_cons

variable {j k : Json} {v w : Value} {s : Step} {path : List Step}

theorem Represents.copies (here : Represents j v) (there : Represents j w) : v.Copies w := by
  induction j using Json.induct generalizing v w with
  | null | bool | number | string =>
      cases here
      cases there
      exact .scalar rfl
  | array items ih =>
      obtain ⟨id, values, rfl, each⟩ := represents_array.1 here
      obtain ⟨id', values', rfl, each'⟩ := represents_array.1 there
      have copied : List.Forall₂ (fun v j => ∀ w, Represents j w → v.Copies w) values items :=
        forall₂_flip_of_mem each fun j member v here w there => ih j member here there
      exact .array (forall₂_trans_of_mem copied each' fun _ _ _ w copies there => copies w there)
  | object entries ih =>
      obtain ⟨id, props, rfl, related⟩ := represents_object here
      obtain ⟨id', props', rfl, related'⟩ := represents_object there
      have copied : Entries.Related (fun j v => ∀ w, Represents j w → v.Copies w)
          (Entries.ofList entries) props :=
        related.imp_of_mem fun p member q _ here w there =>
          ih p (Entries.mem_of_mem_ofList member) here there
      obtain ⟨keys, each⟩ := Entries.related_iff.1
        (copied.through related' fun j v w copies there => copies w there)
      exact .object Class.object keys each

theorem Represents.keys {entries : Entries Json} (here : Represents (.object entries) v) :
    ∃ (id : Identity) (props : Entries Value), v = .object id .object props ∧
      props.keys = entries.keys.eraseDups ∧ props.keys.Nodup := by
  obtain ⟨id, props, rfl, related⟩ := represents_object here
  have same : Entries.keys props = entries.keys.eraseDups :=
    related.keys_eq.symm.trans (Entries.keys_ofList entries)
  exact ⟨id, props, rfl, same, related.keys_eq ▸ Entries.nodup_keys_ofList entries⟩

theorem Represents.step (here : Represents j v) (found : j.step? s = some k) :
    Represents k (v.get s.text) := by
  unfold step? at found
  split at found
  case h_1 entries key =>
    obtain ⟨id, props, rfl, related⟩ := represents_object here
    have last : Entries.find? key entries.reverse = some k := found
    have there := related.find? key
    rw [Entries.find?_ofList, last] at there
    rw [Step.text, Value.get]
    generalize Entries.find? key props = prop at there ⊢
    cases there with
    | some represents => exact represents
  case h_2 items i =>
    obtain ⟨id, values, rfl, each⟩ := represents_array.1 here
    obtain ⟨w, there, represents⟩ := getElem?_of_forall₂ each.flip found
    rw [Step.text, Value.get_array_position, List.getD_eq_getElem?_getD, there]
    exact represents
  case h_3 => cases found

theorem Represents.get_of_lacks (here : Represents j v) (lacks : j.Lacks s) :
    v.get s.text = .undefined := by
  cases lacks with
  | @key entries k absent =>
      obtain ⟨id, props, rfl, keys, -⟩ := here.keys
      have none : Entries.find? k props = none := by
        rwa [Entries.find?_eq_none_iff, keys, List.mem_eraseDups]
      rw [Step.text, Value.get, none]
      rfl
  | @position items i beyond =>
      obtain ⟨id, values, rfl, each⟩ := represents_array.1 here
      rw [Step.text, Value.get_array_position, List.getD_eq_getElem?_getD,
        List.getElem?_eq_none (each.length_eq ▸ beyond)]
      rfl

theorem Represents.follow (here : Represents j v) (found : j.at? path = some k) :
    Represents k (v.follow (path.map Step.text)) := by
  induction path generalizing j v with
  | nil => cases found; exact here
  | cons s rest ih =>
      rw [at?_cons, Option.bind_eq_some_iff] at found
      obtain ⟨next, first, others⟩ := found
      exact ih (here.step first) others

theorem at?_of_step? (first : j.step? s = some k) (rest : List Step) :
    j.at? (s :: rest) = k.at? rest := by
  rw [at?_cons, first]
  rfl

theorem exists_at?_of_holds (here : Represents j v) (held : v.Holds w) :
    ∃ path k, j.at? path = some k ∧ Represents k w := by
  induction j using Json.induct generalizing v with
  | null | bool | number | string =>
      cases here
      cases held
      exact ⟨[], _, rfl, rfl⟩
  | array items ih =>
      obtain ⟨id, values, rfl, each⟩ := represents_array.1 here
      rcases Value.holds_array_iff.1 held with rfl | ⟨x, member, inner⟩
      · exact ⟨[], _, rfl, here⟩
      · obtain ⟨i, there⟩ := List.mem_iff_getElem?.1 member
        obtain ⟨next, first, represents⟩ := getElem?_of_forall₂ each there
        obtain ⟨path, k, led, last⟩ := ih next (List.mem_of_getElem? first) represents inner
        have step : (array items).step? (.position i) = some next := first
        exact ⟨.position i :: path, k, (at?_of_step? step path).trans led, last⟩
  | object entries ih =>
      obtain ⟨id, props, rfl, related⟩ := represents_object here
      rcases Value.holds_object_iff.1 held with rfl | ⟨p, member, inner⟩
      · exact ⟨[], _, rfl, here⟩
      · have distinct := Entries.nodup_keys_ofList entries
        obtain ⟨next, first, represents⟩ := related.exists_find?_of_mem distinct member
        have inside := Entries.mem_of_mem_ofList ((Entries.find?_eq_some_iff distinct).1 first)
        obtain ⟨path, k, led, last⟩ := ih (p.1, next) inside represents inner
        have step : (object entries).step? (.key p.1) = some next :=
          (Entries.find?_ofList p.1 entries).symm.trans first
        exact ⟨.key p.1 :: path, k, (at?_of_step? step path).trans led, last⟩

theorem exists_number_of_represents {x : Binary64} (here : Represents j (.number x)) :
    ∃ n, j = .number n ∧ x = n.toBinary64 := by
  cases j with
  | number n => exact ⟨n, rfl, Value.number.inj here⟩
  | array => obtain ⟨_, _, other, _⟩ := here; cases other
  | object => obtain ⟨_, _, other, _⟩ := here; cases other
  | _ => cases here

/-- To read from the value of a document is to read from the document and make a value of what is
there; beyond an object or an array in which there is nothing, there is nothing. Objects have each key
once, where it comes first, and all numbers are finite. -/
theorem toValue_follow (j : Json) (next : Identity) :
    let v := (j.toValue.run next).1
    (∀ path k, j.at? path = some k →
        ∀ next', (v.follow (path.map Step.text)).Copies (k.toValue.run next').1) ∧
      (∀ path k s, j.at? path = some k → k.Lacks s →
        ∀ more, v.follow (path.map Step.text ++ s.text :: more) = .undefined) ∧
      (∀ path (entries : Entries Json), j.at? path = some (.object entries) →
        ∃ (id : Identity) (props : Entries Value),
          v.follow (path.map Step.text) = .object id .object props ∧
            props.keys = entries.keys.eraseDups ∧ props.keys.Nodup) ∧
      ((∀ path n, j.at? path = some (.number n) → n.Fits) →
        ∀ x, v.Holds (.number x) → x.isFinite = true) := by
  have made := represents_toValue j next
  refine ⟨?reached, ?lacking, ?objects, ?numbers⟩
  case reached =>
    intro path k found next'
    exact (made.follow found).copies (represents_toValue k next')
  case lacking =>
    intro path k s found lacks more
    rw [Value.follow, List.foldl_append, List.foldl_cons]
    change ((Value.follow _ _).get s.text).follow more = .undefined
    rw [(made.follow found).get_of_lacks lacks, Value.follow_undefined]
  case objects =>
    intro path entries found
    exact (made.follow found).keys
  case numbers =>
    intro fits x held
    obtain ⟨path, k, found, represents⟩ := exists_at?_of_holds made held
    obtain ⟨n, rfl, rfl⟩ := exists_number_of_represents represents
    exact (fits path n found).isFinite_toBinary64

theorem toValue_follow_rows :
    let row : Json := .object [("id", .number (.int 7)), ("name", .string "x"), ("id", .null)]
    let v := ((toValue (.object [("rows", .array [row])])).run default).1
    (v.follow ["rows", "0", "id"]).Copies .null ∧ v.follow ["rows", "1", "id"] = .undefined ∧
      (∃ (id : Identity) (props : Entries Value),
        v.follow ["rows", "0"] = .object id .object props ∧ props.keys = ["id", "name"]) ∧
      ∀ x, ((toValue (.array [.number (.int 7)])).run default).1.Holds (.number x) →
        x.isFinite = true := by
  intro row v
  obtain ⟨reached, lacking, objects, -⟩ := toValue_follow (.object [("rows", .array [row])]) default
  refine ⟨?_, ?_, ?_, ?_⟩
  · exact reached [.key "rows", .position 0, .key "id"] .null (by rfl) default
  · exact lacking [.key "rows"] (.array [row]) (.position 1) (by rfl) (.position (by decide)) ["id"]
  · obtain ⟨id, props, led, keys, -⟩ := objects [.key "rows", .position 0] _ (by rfl)
    exact ⟨id, props, led, keys⟩
  · refine (toValue_follow (.array [.number (.int 7)]) default).2.2.2 fun path n led => ?_
    match path with
    | [] | .key _ :: _ | .position (_ + 1) :: _ | .position 0 :: .key _ :: _
    | .position 0 :: .position _ :: _ => cases led
    | [.position 0] =>
        cases led
        exact ⟨by decide, by decide⟩

end Json
end ShapeCheck
