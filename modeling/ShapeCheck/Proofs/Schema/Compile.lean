import ShapeCheck.Assertion
import ShapeCheck.Proofs.Entries
import ShapeCheck.Proofs.Except

namespace ShapeCheck

variable {ε α β γ π : Type}

theorem allOk_eq_ok {results : List (Except ε α)} {as : List α} :
    allOk results = .ok as ↔ List.Forall₂ (fun r a => r = .ok a) results as := by
  induction results generalizing as with
  | nil => simp [allOk, eq_comm]
  | cons r rest ih =>
      simp only [allOk, bind_eq_ok, pure_eq_ok, ih, List.forall₂_cons_left_iff]
      constructor
      · intro given
        obtain ⟨a, ha, as, has, rfl⟩ := given
        exact ⟨a, as, ha, has, rfl⟩
      · intro given
        obtain ⟨a, as, ha, has, rfl⟩ := given
        exact ⟨a, ha, as, has, rfl⟩

theorem allEntriesOk_eq_ok {results : Entries (Except ε α)} {entries : Entries α} :
    allEntriesOk results = .ok entries ↔ Entries.Related (fun r a => r = .ok a) results entries := by
  induction results generalizing entries with
  | nil => simp [allEntriesOk, Entries.Related, eq_comm]
  | cons p rest ih =>
      simp only [allEntriesOk, bind_eq_ok, pure_eq_ok, ih, Entries.Related,
        List.forall₂_cons_left_iff]
      constructor
      · intro given
        obtain ⟨a, ha, as, has, rfl⟩ := given
        exact ⟨(p.1, a), as, ⟨rfl, ha⟩, has, rfl⟩
      · intro given
        obtain ⟨⟨key, a⟩, as, ⟨rfl, ha⟩, has, rfl⟩ := given
        exact ⟨a, ha, as, has, rfl⟩

theorem stopsAtFirst_allOk {fault? : π → Option ε} {places : γ → List π} {f : γ → Except ε α}
    {xs : List γ} (each : ∀ x ∈ xs, StopsAtFirst fault? (places x) (f x)) :
    StopsAtFirst fault? (xs.flatMap places) (allOk (xs.map f)) := by
  induction xs with
  | nil => exact .nil []
  | cons x rest ih =>
      rw [List.forall_mem_cons] at each
      exact each.1.bind fun a => (ih each.2).map (a :: ·)

theorem allOk_map_ok (as : List α) : allOk (as.map .ok) = (.ok as : Except ε (List α)) :=
  allOk_eq_ok.2 (List.forall₂_map_left_iff.2 (List.forall₂_same.2 fun _ _ => rfl))

theorem allEntriesOk_map_ok (entries : Entries α) :
    allEntriesOk (entries.map fun p => (p.1, .ok p.2)) = (.ok entries : Except ε (Entries α)) := by
  refine allEntriesOk_eq_ok.2 (List.forall₂_map_left_iff.2 (List.forall₂_same.2 fun _ _ => ?_))
  exact ⟨rfl, rfl⟩

theorem allOk_map (f : α → β) (results : List (Except ε α)) :
    allOk (results.map (Except.map f)) = (allOk results).map (List.map f) := by
  induction results with
  | nil => rfl
  | cons r rest ih =>
      rw [List.map_cons, allOk, allOk, ih]
      cases r with
      | error e => rfl
      | ok a => cases allOk rest <;> rfl

theorem allEntriesOk_map (f : α → β) (results : Entries (Except ε α)) :
    allEntriesOk (results.map fun p => (p.1, p.2.map f)) =
      (allEntriesOk results).map (List.map fun p => (p.1, f p.2)) := by
  induction results with
  | nil => rfl
  | cons p rest ih =>
      obtain ⟨key, r⟩ := p
      rw [List.map_cons, allEntriesOk, allEntriesOk, ih]
      cases r with
      | error e => rfl
      | ok a => cases allEntriesOk rest <;> rfl

namespace Schema

theorem compileValues_eq_map (items : List Value) : compileValues items = items.map compileValue := by
  induction items with
  | nil => rw [compileValues, List.map_nil]
  | cons v rest ih => rw [compileValues, List.map_cons, ih]

theorem compileEntries_eq_map (entries : List (String × Value)) :
    compileEntries entries = entries.map fun p => (p.1, compileValue p.2) := by
  induction entries with
  | nil => rw [compileEntries, List.map_nil]
  | cons p rest ih => rw [compileEntries, List.map_cons, ih]

theorem compileAll_eq_map (items : List Schema) : compileAll items = items.map compile := by
  induction items with
  | nil => rw [compileAll, List.map_nil]
  | cons s rest ih => rw [compileAll, List.map_cons, ih]

theorem compileShape_eq_map (entries : List (String × Schema)) :
    compileShape entries = entries.map fun p => (p.1, p.2.compile) := by
  induction entries with
  | nil => rw [compileShape, List.map_nil]
  | cons p rest ih => rw [compileShape, List.map_cons, ih]

theorem related_compileEntries (entries : Entries Value) :
    Entries.Related (fun v r => compileValue v = r) entries (compileEntries entries) := by
  rw [compileEntries_eq_map]
  exact Entries.related_map compileValue entries

theorem allEntriesOk_compileEntries {entries : Entries Value} {props : Entries Rule} :
    allEntriesOk (compileEntries entries) = .ok props ↔
      Entries.Related (fun v rule => compileValue v = .ok rule) entries props := by
  rw [allEntriesOk_eq_ok, compileEntries_eq_map, Entries.Related, List.forall₂_map_left_iff]
  rfl

theorem compileValue_array {id : Identity} {items : List Value} {rule : Rule} :
    compileValue (.array id items) = .ok rule ↔
      ∃ rules, List.Forall₂ (fun v rule => compileValue v = .ok rule) items rules ∧
        rule = .tuple rules := by
  simp only [compileValue, bind_eq_ok, pure_eq_ok, allOk_eq_ok, compileValues_eq_map,
    List.forall₂_map_left_iff]

theorem compileValue_object {id : Identity} {cls : Class} {entries : Entries Value} {rule : Rule} :
    compileValue (.object id cls entries) = .ok rule ↔
      ∃ props, Entries.Related (fun v rule => compileValue v = .ok rule) entries props ∧
        rule = .objectShape props := by
  simp only [compileValue, bind_eq_ok, pure_eq_ok, allEntriesOk_compileEntries]

def errorResults (message : String) (entries : Entries Value) : Entries (Except Error Rule) :=
  Entries.insertAll [("message", .ok (.literal (.string message)))] (compileEntries entries)

theorem compileValue_error {id : Identity} {cls : Class} {message : String}
    {entries : Entries Value} {rule : Rule} :
    compileValue (.error id cls message entries) = .ok rule ↔
      ∃ props, Entries.Related (fun r rule => r = .ok rule) (errorResults message entries) props ∧
        rule = .instanceOfWith cls props := by
  simp only [compileValue, bind_eq_ok, pure_eq_ok, allEntriesOk_eq_ok, errorResults]

theorem compileValue_other {v : Value} {rule : Rule} (notArray : v.tag ≠ .array)
    (notObject : v.tag ≠ .object) (notError : v.tag ≠ .error) (compiled : compileValue v = .ok rule) :
    rule = .literal v := by
  cases v with
  | array => cases notArray rfl
  | object => cases notObject rfl
  | error => cases notError rfl
  | regexp => cases compiled
  | function => cases compiled
  | _ => cases compiled; rfl

theorem validate_value_eq_ok {s v : Value} {verdict : Verdict} :
    (value s).validate v = .ok verdict ↔
      ∃ rule, compileValue s = .ok rule ∧ rule.check v = verdict := by
  simp only [validate, compile, bind_eq_ok, pure_eq_ok]
  exact exists_congr fun _ => and_congr_right fun _ => eq_comm

def Compiles (s : Schema) : Prop :=
  ∃ rule, s.compile = .ok rule

theorem exists_allOk_iff {schemas : List Schema} :
    (∃ rules, allOk (schemas.map compile) = .ok rules) ↔ ∀ s ∈ schemas, s.Compiles := by
  simp only [allOk_eq_ok, List.forall₂_map_left_iff]
  exact exists_forall₂_iff

theorem compile_tuple {items : List Schema} {rule : Rule} :
    compile (.tuple items) = .ok rule ↔
      ∃ rules, List.Forall₂ (fun s rule => compile s = .ok rule) items rules ∧
        rule = .tuple rules := by
  simp only [compile, bind_eq_ok, pure_eq_ok, allOk_eq_ok, compileAll_eq_map,
    List.forall₂_map_left_iff]

theorem compile_shape {entries : Entries Schema} {rule : Rule} :
    compile (.shape entries) = .ok rule ↔
      ∃ props, Entries.Related (fun s rule => compile s = .ok rule) entries props ∧
        rule = .objectShape props := by
  simp only [compile, bind_eq_ok, pure_eq_ok, allEntriesOk_eq_ok, compileShape_eq_map,
    Entries.Related, List.forall₂_map_left_iff]

end Schema
end ShapeCheck
