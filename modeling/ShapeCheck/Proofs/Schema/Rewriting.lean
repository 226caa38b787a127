import Mathlib.Logic.Relation
import ShapeCheck.Proofs.Schema.Compile
import ShapeCheck.Rule.Check

/-!
# Ways to write a schema

A program writes a schema with calls that make rules of other schemas, and such a call fails at once
when one of those has a fault. A `Draft` is a schema as it is written. Arrays and objects can be
written out as tuples and shapes, and any part can be made a rule beforehand (`Step`): no part of a
draft that is rewritten in this way changes what the whole means (`rewrites_agree`).
-/

namespace ShapeCheck.Schema

inductive Wrapper
  | compiled
  | arrayOf
  | not
  | nullable
  | nullish
  | optional

def Wrapper.apply : Wrapper → Schema → Except Error Rule
  | compiled => compile
  | arrayOf => Schema.arrayOf
  | not => Schema.not
  | nullable => Schema.nullable
  | nullish => Schema.nullish
  | optional => Schema.optional

def Wrapper.rule : Wrapper → Rule → Rule
  | compiled => id
  | arrayOf => .arrayOf
  | not => .not
  | nullable => .nullable
  | nullish => .nullish
  | optional => .optional

theorem Wrapper.apply_eq (call : Wrapper) (s : Schema) : call.apply s = s.compile.map call.rule := by
  cases call
  case compiled => cases h : s.compile <;> simp [apply, rule, h, Except.map]
  all_goals rfl

inductive Grouper
  | objectShape
  | objectLike
  | instanceOfWith (cls : Class)

def Grouper.apply : Grouper → List (String × Schema) → Except Error Rule
  | objectShape => Schema.objectShape
  | objectLike => Schema.objectLike
  | instanceOfWith cls => Schema.instanceOfWith cls

def Grouper.rule : Grouper → Entries Rule → Rule
  | objectShape => .objectShape
  | objectLike => .objectLike
  | instanceOfWith cls => .instanceOfWith cls

theorem Grouper.apply_eq (call : Grouper) (entries : List (String × Schema)) :
    call.apply entries = (allEntriesOk (Entries.ofList (compileShape entries))).map call.rule := by
  have commuted : compileShape (Entries.ofList entries) = Entries.ofList (compileShape entries) := by
    rw [compileShape_eq_map, compileShape_eq_map, Entries.ofList_map]
  cases call <;> rw [← commuted] <;> rfl

def combineRules (c : Combinator) (rules : List Rule) : Except Error Rule :=
  if rules.length < 2 then .error (.tooFewRules c rules.length) else .ok (c.combine rules)

theorem combine_eq (c : Combinator) (schemas : List Schema) :
    combine c schemas = allOk (schemas.map compile) >>= combineRules c := by
  rw [combine, compileAll_eq_map]
  rfl

inductive Draft
  | rule (rule : Rule)
  | value (model : Value)
  | tuple (items : List Draft)
  | shape (entries : List (String × Draft))
  | wrap (call : Wrapper) (item : Draft)
  | group (call : Grouper) (entries : List (String × Draft))
  | combine (combinator : Combinator) (items : List Draft)

namespace Draft

mutual

def build : Draft → Except Error Schema
  | rule r => .ok (.rule r)
  | value v => .ok (.value v)
  | tuple items => return .tuple (← allOk (buildAll items))
  | shape entries => return .ofEntries (← allEntriesOk (buildEntries entries))
  | wrap call item => return .rule (← call.apply (← item.build))
  | group call entries => return .rule (← call.apply (← allEntriesOk (buildEntries entries)))
  | combine c items => return .rule (← Schema.combine c (← allOk (buildAll items)))

def buildAll : List Draft → List (Except Error Schema)
  | [] => []
  | d :: rest => d.build :: buildAll rest

def buildEntries : List (String × Draft) → List (String × Except Error Schema)
  | [] => []
  | (key, d) :: rest => (key, d.build) :: buildEntries rest

end

def compile (d : Draft) : Except Error Rule := do
  (← d.build).compile

/-! ## Rewriting -/

/-- One part of a draft, at any depth, written in another way. -/
inductive Step : Draft → Draft → Prop
  | array (id : Identity) (items : List Value) :
    Step (value (.array id items)) (tuple (items.map value))
  | object (id : Identity) (cls : Class) (entries : Entries Value) (distinct : entries.keys.Nodup) :
    Step (value (.object id cls entries)) (shape (entries.map fun p => (p.1, value p.2)))
  | compiled {d : Draft} {r : Rule} (ok : d.compile = .ok r) : Step d (rule r)
  | tuple {d e : Draft} (before after : List Draft) (step : Step d e) :
    Step (tuple (before ++ d :: after)) (tuple (before ++ e :: after))
  | shape {d e : Draft} (before after : List (String × Draft)) (key : String) (step : Step d e) :
    Step (shape (before ++ (key, d) :: after)) (shape (before ++ (key, e) :: after))
  | wrap {d e : Draft} (call : Wrapper) (step : Step d e) : Step (wrap call d) (wrap call e)
  | group {d e : Draft} (call : Grouper) (before after : List (String × Draft)) (key : String)
    (step : Step d e) :
    Step (group call (before ++ (key, d) :: after)) (group call (before ++ (key, e) :: after))
  | combine {d e : Draft} (c : Combinator) (before after : List Draft) (step : Step d e) :
    Step (combine c (before ++ d :: after)) (combine c (before ++ e :: after))

abbrev Rewrites : Draft → Draft → Prop :=
  Relation.EqvGen Step

/-! ## What a draft comes to -/

def outcome (d : Draft) : Except Error (Except Error Rule) :=
  d.build.map Schema.compile

theorem buildAll_eq_map (items : List Draft) : buildAll items = items.map build := by
  induction items with
  | nil => rw [buildAll, List.map_nil]
  | cons d rest ih => rw [buildAll, List.map_cons, ih]

theorem buildEntries_eq_map (entries : List (String × Draft)) :
    buildEntries entries = entries.map fun p => (p.1, p.2.build) := by
  induction entries with
  | nil => rw [buildEntries, List.map_nil]
  | cons p rest ih => rw [buildEntries, List.map_cons, ih]

theorem map_outcome (items : List Draft) :
    items.map outcome = (buildAll items).map (Except.map Schema.compile) := by
  rw [buildAll_eq_map, List.map_map]
  rfl

theorem map_outcome_entries (entries : List (String × Draft)) :
    (entries.map fun p => (p.1, p.2.outcome)) =
      (buildEntries entries).map fun p => (p.1, p.2.map Schema.compile) := by
  rw [buildEntries_eq_map, List.map_map]
  rfl

theorem outcome_tuple (items : List Draft) :
    (tuple items).outcome =
      (allOk (items.map outcome)).map fun results => (allOk results).map .tuple := by
  rw [map_outcome, allOk_map, outcome, build]
  cases allOk (buildAll items) with
  | error e => rfl
  | ok schemas =>
      simp only [Except.map, bind, Except.bind, pure, Except.pure, Schema.compile, compileAll_eq_map]

theorem outcome_shape (entries : List (String × Draft)) :
    (shape entries).outcome =
      (allEntriesOk (entries.map fun p => (p.1, p.2.outcome))).map fun results =>
        (allEntriesOk (Entries.ofList results)).map .objectShape := by
  rw [map_outcome_entries, allEntriesOk_map, outcome, build]
  cases allEntriesOk (buildEntries entries) with
  | error e => rfl
  | ok schemas =>
      simp only [Except.map, bind, Except.bind, pure, Except.pure, Schema.compile, ofEntries,
        compileShape_eq_map, Entries.ofList_map]

theorem outcome_wrap (call : Wrapper) (d : Draft) :
    (wrap call d).outcome = d.outcome >>= fun result => (result.map call.rule).map .ok := by
  rw [outcome, outcome, build]
  cases d.build with
  | error e => rfl
  | ok s =>
      simp only [bind, Except.bind, Except.map, Wrapper.apply_eq]
      cases s.compile <;> rfl

theorem outcome_group (call : Grouper) (entries : List (String × Draft)) :
    (group call entries).outcome =
      allEntriesOk (entries.map fun p => (p.1, p.2.outcome)) >>= fun results =>
        ((allEntriesOk (Entries.ofList results)).map call.rule).map .ok := by
  rw [map_outcome_entries, allEntriesOk_map, outcome, build]
  cases allEntriesOk (buildEntries entries) with
  | error e => rfl
  | ok schemas =>
      simp only [bind, Except.bind, Except.map, Grouper.apply_eq, compileShape_eq_map]
      cases allEntriesOk (Entries.ofList (schemas.map fun p => (p.1, p.2.compile))) <;> rfl

theorem outcome_combine (c : Combinator) (items : List Draft) :
    (combine c items).outcome =
      allOk (items.map outcome) >>= fun results => (allOk results >>= combineRules c).map .ok := by
  rw [map_outcome, allOk_map, outcome, build]
  cases allOk (buildAll items) with
  | error e => rfl
  | ok schemas =>
      simp only [bind, Except.bind, Except.map, combine_eq]
      cases allOk (schemas.map Schema.compile) with
      | error e => rfl
      | ok rules => cases h : combineRules c rules <;> simp [h, pure, Except.pure, Schema.compile]

theorem compile_eq (d : Draft) : d.compile = d.outcome >>= id := by
  rw [compile, outcome]
  cases d.build <;> rfl

/-! ## Rewriting keeps the meaning -/

theorem outcome_array (id : Identity) (items : List Value) :
    (value (.array id items)).outcome = (tuple (items.map value)).outcome := by
  have parts : (items.map value).map outcome = (compileValues items).map .ok := by
    rw [compileValues_eq_map, List.map_map, List.map_map]
    rfl
  rw [outcome_tuple, parts, allOk_map_ok]
  rfl

theorem outcome_object (id : Identity) (cls : Class) {entries : Entries Value}
    (distinct : entries.keys.Nodup) :
    (value (.object id cls entries)).outcome =
      (shape (entries.map fun p => (p.1, value p.2))).outcome := by
  have parts : ((entries.map fun p => (p.1, value p.2)).map fun p => (p.1, p.2.outcome)) =
      (compileEntries entries).map fun p => (p.1, .ok p.2) := by
    rw [compileEntries_eq_map, List.map_map, List.map_map]
    rfl
  have same : Entries.keys (compileEntries entries) = entries.keys :=
    (related_compileEntries entries).keys_eq.symm
  rw [outcome_shape, parts, allEntriesOk_map_ok]
  change _ = Except.ok ((allEntriesOk (Entries.ofList (compileEntries entries))).map _)
  rw [Entries.ofList_of_nodup (same ▸ distinct)]
  rfl

theorem outcome_of_compile {d : Draft} {r : Rule} (ok : d.compile = .ok r) :
    d.outcome = .ok (.ok r) := by
  rw [compile_eq, bind_eq_ok] at ok
  obtain ⟨result, outcome, rfl⟩ := ok
  exact outcome

theorem outcome_step {d e : Draft} (step : Step d e) : d.outcome = e.outcome := by
  induction step with
  | array id items => exact outcome_array id items
  | object id cls entries distinct => exact outcome_object id cls distinct
  | compiled ok => exact outcome_of_compile ok
  -- What a draft comes to depends only on what its parts come to.
  | tuple before after _ ih => simp only [outcome_tuple, List.map_append, List.map_cons, ih]
  | shape before after key _ ih => simp only [outcome_shape, List.map_append, List.map_cons, ih]
  | wrap call _ ih => rw [outcome_wrap, outcome_wrap, ih]
  | group call before after key _ ih =>
      simp only [outcome_group, List.map_append, List.map_cons, ih]
  | combine c before after _ ih =>
      simp only [outcome_combine, List.map_append, List.map_cons, ih]

theorem outcome_rewrites {d e : Draft} (rewrites : Rewrites d e) : d.outcome = e.outcome := by
  induction rewrites with
  | rel d e step => exact outcome_step step
  | refl d => rfl
  | symm d e _ ih => exact ih.symm
  | trans d e f _ _ first second => exact first.trans second

/-- Drafts that can be rewritten into each other fail alike, or their rules say the same about every
value. -/
theorem rewrites_agree {d e : Draft} (rewrites : Rewrites d e) :
    (∃ error, d.compile = .error error ∧ e.compile = .error error) ∨
      ∃ r s, d.compile = .ok r ∧ e.compile = .ok s ∧ ∀ v, r.check v = s.check v := by
  have same : d.compile = e.compile := by
    rw [compile_eq, compile_eq, outcome_rewrites rewrites]
  rw [← same]
  cases d.compile with
  | error error => exact .inl ⟨error, rfl, rfl⟩
  | ok r => exact .inr ⟨r, r, rfl, rfl, fun _ => rfl⟩

theorem rewrites_agree_inside :
    ∃ r s, (combine .any [wrap .arrayOf (value (.object 0 .object [("a", .null)])),
        value (.array 1 [.object 0 .object [("a", .null)], .string "b"])]).compile = .ok r ∧
      (combine .any [wrap .arrayOf (rule (.objectShape [("a", .literal .null)])),
        tuple [shape [("a", value .null)], value (.string "b")]]).compile = .ok s ∧
      ∀ v, r.check v = s.check v := by
  let object : Value := .object 0 .object [("a", .null)]
  let before : Draft := wrap .arrayOf (value object)
  have array : Rewrites (combine .any [before, value (.array 1 [object, .string "b"])])
      (combine .any [before, tuple [value object, value (.string "b")]]) :=
    .rel _ _ (.combine .any [before] [] (.array 1 [object, .string "b"]))
  have nested : Rewrites (combine .any [before, tuple [value object, value (.string "b")]])
      (combine .any [before, tuple [shape [("a", value .null)], value (.string "b")]]) := by
    refine .rel _ _ (.combine .any [before] [] (.tuple [] [value (.string "b")] ?_))
    exact .object 0 .object [("a", .null)] (by decide)
  have earlier : Rewrites
      (combine .any [before, tuple [shape [("a", value .null)], value (.string "b")]])
      (combine .any [wrap .arrayOf (rule (.objectShape [("a", .literal .null)])),
        tuple [shape [("a", value .null)], value (.string "b")]]) :=
    .rel _ _ (.combine .any [] [_] (.wrap .arrayOf (.compiled rfl)))
  rcases rewrites_agree (.trans _ _ _ array (.trans _ _ _ nested earlier)) with failed | agreed
  · obtain ⟨error, failed, -⟩ := failed
    cases failed
  · exact agreed

end Draft
end ShapeCheck.Schema
