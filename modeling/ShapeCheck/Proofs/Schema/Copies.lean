import ShapeCheck.Assertion
import ShapeCheck.Proofs.Rule
import ShapeCheck.Proofs.Schema.Unsupported
import ShapeCheck.Proofs.Value.Copy

namespace ShapeCheck

namespace Value

def Known (hand : List Value) (v : Value) : Prop :=
  Within hand v ∨ v.identity? = none

theorem Within.inner {hand : List Value} {v w : Value} (within : Within hand v) (held : v.Holds w) :
    Within hand w :=
  within.imp fun _ ⟨member, outer⟩ => ⟨member, outer.trans held⟩

theorem Known.get {hand : List Value} {next : Identity} {v : Value} (sound : Sound hand next)
    (known : Known hand v) (key : String) : Known hand (v.get key) := by
  rcases known with within | plain
  · exact (holds_get (sound.distinct within) key).imp_left within.inner
  · exact .inr (Copies.get_plain plain key)

theorem Known.eq_of_date {hand : List Value} {next : Identity} (sound : Sound hand next)
    {id : Identity} {i j : Instant} (known : Known hand (.date id i))
    (known' : Known hand (.date id j)) : i = j := by
  have within := known.resolve_right nofun
  have within' := known'.resolve_right nofun
  cases sound.coherent within within' rfl rfl
  rfl

structure Counterparts (hand hand' : List Value) (v v' : Value) : Prop where
  copy : Copies v v'
  known : Known hand v
  known' : Known hand' v'

end Value

open Value (Run Sound Known Within Counterparts)

def Rule.Agree (hand hand' : List Value) (rule rule' : Rule) : Prop :=
  ∀ v v', Counterparts hand hand' v v' → rule'.check v' = rule.check v

variable {hand hand' : List Value} {next next' : Identity}

theorem Value.Counterparts.get (sound : Sound hand next) (sound' : Sound hand' next') {v v' : Value}
    (both : Counterparts hand hand' v v') (key : String) :
    Counterparts hand hand' (v.get key) (v'.get key) where
  copy := both.copy.get key
  known := both.known.get sound key
  known' := both.known'.get sound' key

theorem Value.Counterparts.items {id id' : Identity} {items items' : List Value}
    (both : Counterparts hand hand' (.array id items) (.array id' items')) :
    List.Forall₂ (Counterparts hand hand') items items' := by
  have within := both.known.resolve_right nofun
  have within' := both.known'.resolve_right nofun
  cases both.copy with
  | scalar plain => cases plain
  | array each =>
      refine forall₂_imp_of_mem each fun v member v' member' copy => ⟨copy, .inl ?_, .inl ?_⟩
      · exact within.inner (.item member (.self v))
      · exact within'.inner (.item member' (.self v'))

theorem Value.Counterparts.objectEntries {id id' : Identity} {cls cls' : Class}
    {entries entries' : Entries Value}
    (both : Counterparts hand hand' (.object id cls entries) (.object id' cls' entries')) :
    Entries.Related (Counterparts hand hand') entries entries' := by
  have within := both.known.resolve_right nofun
  have within' := both.known'.resolve_right nofun
  cases both.copy with
  | scalar plain => cases plain
  | object _ keys each =>
      refine (Entries.related_iff.2 ⟨keys, each⟩).imp_of_mem fun p member p' member' copy =>
        ⟨copy, .inl ?_, .inl ?_⟩
      · exact within.inner (.entry member (.self p.2))
      · exact within'.inner (.entry member' (.self p'.2))

theorem Value.Counterparts.errorEntries (sound : Sound hand next) (sound' : Sound hand' next')
    {id id' : Identity} {cls cls' : Class} {message message' : String}
    {entries entries' : Entries Value}
    (both : Counterparts hand hand' (.error id cls message entries)
      (.error id' cls' message' entries')) :
    cls = cls' ∧ message = message' ∧ Entries.Related (Counterparts hand hand') entries entries' := by
  have within := both.known.resolve_right nofun
  have within' := both.known'.resolve_right nofun
  cases both.copy with
  | scalar plain => cases plain
  | error _ _ keys each =>
      refine ⟨rfl, rfl, (Entries.related_iff.2 ⟨keys, each⟩).imp_of_mem
        fun p member p' member' copy => ⟨copy, .inl ?_, .inl ?_⟩⟩
      · exact within.inner (.ofErrorEntry (sound.distinct within) member (.self p.2))
      · exact within'.inner (.ofErrorEntry (sound'.distinct within') member' (.self p'.2))

namespace Rule

theorem agree_literal (sound : Sound hand next) (sound' : Sound hand' next') {e e' : Value}
    (both : Counterparts hand hand' e e')
    (literal : e.identity? = none ∨ e.tag = .symbol ∨ e.tag = .date) :
    Agree hand hand' (.literal e) (.literal e') := by
  intro v v' checked
  have same : e'.sameLiteral v' = e.sameLiteral v := by
    refine both.copy.sameLiteral_eq checked.copy literal ?_ ?_
    · rintro id i j rfl rfl
      exact both.known.eq_of_date sound checked.known
    · rintro id i j rfl rfl
      exact both.known'.eq_of_date sound' checked.known'
  rw [check_literal, check_literal, Verdict.ofLiteral, Verdict.ofLiteral, same, both.copy.toText_eq,
    checked.copy.toText_eq]

theorem agree_checkItems {rules rules' : List Rule} {items items' : List Value}
    (each : List.Forall₂ (Agree hand hand') rules rules')
    (checked : List.Forall₂ (Counterparts hand hand') items items') :
    checkItems rules' items' = checkItems rules items := by
  induction each generalizing items items' with
  | nil => rfl
  | cons head _ ih =>
      cases checked with
      | nil => rfl
      | cons first rest => rw [checkItems_cons, checkItems_cons, head _ _ first, ih rest]

theorem agree_tuple {rules rules' : List Rule}
    (each : List.Forall₂ (Agree hand hand') rules rules') :
    Agree hand hand' (.tuple rules) (.tuple rules') := by
  intro v v' checked
  have tag := checked.copy.tag_eq
  by_cases array : v.tag = .array
  · cases v <;> cases array
    cases v' <;> cases tag
    have items := checked.items
    rw [check_tuple, check_tuple, agree_checkItems each items, items.length_eq, each.length_eq]
  · rw [check_tuple_other array, check_tuple_other (tag ▸ array), tag]

theorem agree_checkProps (sound : Sound hand next) (sound' : Sound hand' next')
    {props props' : Entries Rule} (each : Entries.Related (Agree hand hand') props props')
    {v v' : Value} (checked : Counterparts hand hand' v v') :
    checkProps props' v' = checkProps props v := by
  induction each with
  | nil => rfl
  | cons head _ ih =>
      rw [checkProps_cons, checkProps_cons, ← head.1, head.2 _ _ (checked.get sound sound' _), ih]

theorem agree_objectShape (sound : Sound hand next) (sound' : Sound hand' next')
    {props props' : Entries Rule} (each : Entries.Related (Agree hand hand') props props') :
    Agree hand hand' (.objectShape props) (.objectShape props') := by
  intro v v' checked
  rw [check_objectShape, check_objectShape, Verdict.ofObject, Verdict.ofObject, checked.copy.tag_eq,
    checked.copy.toText_eq, agree_checkProps sound sound' each checked]

theorem agree_instanceOfWith (sound : Sound hand next) (sound' : Sound hand' next') (cls : Class)
    {props props' : Entries Rule} (each : Entries.Related (Agree hand hand') props props') :
    Agree hand hand' (.instanceOfWith cls props) (.instanceOfWith cls props') := by
  intro v v' checked
  rw [check_instanceOfWith, check_instanceOfWith, Verdict.ofInstance, Verdict.ofInstance,
    Verdict.ofPresent, Verdict.ofPresent, Verdict.classLabel, Verdict.classLabel,
    Value.isInstanceOf, Value.isInstanceOf,
    checked.copy.class?_eq, checked.copy.isNullish_eq, checked.copy.toText_eq,
    agree_checkProps sound sound' each checked]

end Rule

theorem alike_allOk {ε α β : Type} {R : α → β → Prop} {xs : List (Except ε α)}
    {ys : List (Except ε β)} (each : List.Forall₂ (Alike R) xs ys) :
    Alike (List.Forall₂ R) (allOk xs) (allOk ys) := by
  induction each with
  | nil => exact .ok .nil
  | cons head _ ih =>
      exact head.bind fun a b related => ih.map fun as bs others => .cons related others

theorem alike_allEntriesOk {ε α β : Type} {R : α → β → Prop} {xs : Entries (Except ε α)}
    {ys : Entries (Except ε β)} (each : Entries.Related (Alike R) xs ys) :
    Alike (Entries.Related R) (allEntriesOk xs) (allEntriesOk ys) := by
  induction each with
  | nil => exact .ok .nil
  | cons head _ ih =>
      exact head.2.bind fun a b related => ih.map fun as bs others => .cons ⟨head.1, related⟩ others

namespace Schema

theorem compileValue_copies (sound : Sound hand next) (sound' : Sound hand' next') {s s' : Value}
    (both : Counterparts hand hand' s s') :
    Alike (Rule.Agree hand hand') (compileValue s) (compileValue s') := by
  have tag := both.copy.tag_eq
  induction s using Value.induct generalizing s' with
  | array id items ih =>
      cases s' <;> cases tag
      rw [compileValue, compileValue, compileValues_eq_map, compileValues_eq_map]
      refine (alike_allOk ?_).map fun rules rules' => Rule.agree_tuple
      rw [List.forall₂_map_left_iff, List.forall₂_map_right_iff]
      exact forall₂_imp_of_mem both.items fun v member v' _ both => ih v member both both.copy.tag_eq
  | object id cls entries ih =>
      cases s' <;> cases tag
      rw [compileValue, compileValue, compileEntries_eq_map, compileEntries_eq_map]
      refine (alike_allEntriesOk ?_).map fun props props' => Rule.agree_objectShape sound sound'
      refine Entries.related_map_map.2 ?_
      exact both.objectEntries.imp_of_mem fun p member p' _ both => ih p member both both.copy.tag_eq
  | error id cls message entries ih =>
      cases s' <;> cases tag
      obtain ⟨rfl, rfl, related⟩ := both.errorEntries sound sound'
      rw [compileValue, compileValue, compileEntries_eq_map, compileEntries_eq_map]
      -- The message is an entry like the others, and one of them may stand in its place.
      refine (alike_allEntriesOk ?_).map fun props props' => Rule.agree_instanceOfWith sound sound' cls
      refine Entries.Related.insertAll (.cons ⟨rfl, .ok ?_⟩ .nil) ?_
      · exact Rule.agree_literal sound sound' ⟨.scalar rfl, .inr rfl, .inr rfl⟩ (.inl rfl)
      · refine Entries.related_map_map.2 ?_
        exact related.imp_of_mem fun p member p' _ both => ih p member both both.copy.tag_eq
  | other s notArray notObject notError =>
      have copy := both.copy
      cases copy with
      | scalar plain =>
          have literal : compileValue s = .ok (.literal s) := by
            cases s <;> first | rfl | cases plain
          rw [literal]
          exact .ok (Rule.agree_literal sound sound' both (.inl plain))
      | symbol => exact .ok (Rule.agree_literal sound sound' both (.inr (.inl rfl)))
      | date => exact .ok (Rule.agree_literal sound sound' both (.inr (.inr rfl)))
      | regexp | function => exact .error _
      | array => cases notArray rfl
      | object => cases notObject rfl
      | error => cases notError rfl

/-- Whether one schema is a copy of another. There are no rules in either. -/
inductive Copies : Schema → Schema → Prop
  | value {v v' : Value} (copy : v.Copies v') : Copies (value v) (value v')
  | tuple {items items' : List Schema} (each : List.Forall₂ Copies items items') :
    Copies (tuple items) (tuple items')
  | shape {entries entries' : Entries Schema} (keys : entries.keys = entries'.keys)
    (each : List.Forall₂ Copies (entries.map Prod.snd) (entries'.map Prod.snd)) :
    Copies (shape entries) (shape entries')

def Within (hand : List Value) (s : Schema) : Prop :=
  ∀ v, s.Reaches v → Value.Within hand v

theorem within_value {v : Value} (member : v ∈ hand) : (value v).Within hand := by
  intro w reached
  cases reached with
  | value held => exact ⟨v, member, held⟩

theorem within_tuple_iff {items : List Schema} :
    (tuple items).Within hand ↔ ∀ s ∈ items, s.Within hand := by
  constructor
  · exact fun within s member v reached => within v (.item member reached)
  · intro each v reached
    cases reached with
    | item member reached => exact each _ member v reached

theorem within_shape_iff {entries : Entries Schema} :
    (shape entries).Within hand ↔ ∀ p ∈ entries, p.2.Within hand := by
  constructor
  · exact fun within p member v reached => within v (.entry member reached)
  · intro each v reached
    cases reached with
    | entry member reached => exact each _ member v reached

theorem compile_copies (sound : Sound hand next) (sound' : Sound hand' next') {s s' : Schema}
    (copy : Copies s s') (within : s.Within hand) (within' : s'.Within hand') :
    Alike (Rule.Agree hand hand') s.compile s'.compile := by
  induction s using Schema.induct generalizing s' with
  | rule r => cases copy
  | value v =>
      cases copy with
      | value copy =>
          exact compileValue_copies sound sound'
            ⟨copy, .inl (within v (.value (.self v))), .inl (within' _ (.value (.self _)))⟩
  | tuple items ih =>
      cases copy with
      | @tuple _ items' each =>
          rw [compile, compile, compileAll_eq_map, compileAll_eq_map]
          refine (alike_allOk ?_).map fun rules rules' => Rule.agree_tuple
          rw [List.forall₂_map_left_iff, List.forall₂_map_right_iff]
          exact forall₂_imp_of_mem each fun s member s' member' copy => ih s member copy
            (within_tuple_iff.1 within s member) (within_tuple_iff.1 within' s' member')
  | shape entries ih =>
      cases copy with
      | @shape _ entries' keys each =>
          rw [compile, compile, compileShape_eq_map, compileShape_eq_map]
          refine (alike_allEntriesOk ?_).map fun props props' =>
            Rule.agree_objectShape sound sound'
          refine Entries.related_map_map.2 ?_
          exact (Entries.related_iff.2 ⟨keys, each⟩).imp_of_mem fun p member p' member' copy =>
            ih p member copy (within_shape_iff.1 within p member)
              (within_shape_iff.1 within' p' member')

/-- A program has a schema and a value, and the same or another one has copies of them. Whatever the
identities of the copies, they are found to be at fault in the same way, or they come to the same
verdict, with the same message of a mismatch. -/
theorem validate_copies (run : Run hand next) (run' : Run hand' next') {s s' : Schema} {v v' : Value}
    (copyS : s.Copies s') (copyV : v.Copies v') (within : s.Within hand) (within' : s'.Within hand')
    (member : v ∈ hand) (member' : v' ∈ hand') : s'.validate v' = s.validate v := by
  have both : Counterparts hand hand' v v' :=
    ⟨copyV, .inl ⟨v, member, .self v⟩, .inl ⟨v', member', .self v'⟩⟩
  have alike := compile_copies run.sound run'.sound copyS within within'
  rw [validate, validate]
  generalize s.compile = compiled, s'.compile = compiled' at alike ⊢
  cases alike with
  | ok agree => exact congrArg Except.ok (agree v v' both)
  | error e => rfl

theorem validate_unshared :
    (shape [("at", value (.date 18 ⟨0⟩)),
        ("why", value (.error 21 Class.typeError "bad" [("mark", .symbol 16 none)]))]).validate
      (.object 24 .object [("at", .date 19 ⟨0⟩),
        ("why", .error 22 Class.typeError "bad" [("mark", .symbol 16 none)])]) =
    (shape [("at", value (.date 17 ⟨0⟩)),
        ("why", value (.error 20 Class.typeError "bad" [("mark", .symbol 16 none)]))]).validate
      (.object 23 .object [("at", .date 17 ⟨0⟩),
        ("why", .error 20 Class.typeError "bad" [("mark", .symbol 16 none)])]) := by
  let date (id : Identity) : Value := .date id ⟨0⟩
  let why (id : Identity) : Value := .error id Class.typeError "bad" [("mark", .symbol 16 none)]
  let props (n m : Identity) : List (String × Value) := [("at", date n), ("why", why m)]
  have mark {hand : List Value} (member : .symbol 16 none ∈ hand) :
      ∀ p ∈ [("mark", Value.symbol 16 none)], p.2 ∈ hand := by
    rwa [List.forall_mem_singleton]
  have parts {hand : List Value} {n m : Identity} (memberDate : date n ∈ hand)
      (memberWhy : why m ∈ hand) : ∀ p ∈ props n m, p.2 ∈ hand := by
    rw [List.forall_mem_cons, List.forall_mem_singleton]
    exact ⟨memberDate, memberWhy⟩
  have symbol : Run [.symbol 16 none] 17 := (Run.start 16).make (.symbol none) rfl
  have dates : Run (date 19 :: date 18 :: date 17 :: _) 20 :=
    ((symbol.make (.date _) rfl).make (.date _) rfl).make (.date _) rfl
  have errors : Run (why 22 :: why 21 :: why 20 :: _) 23 :=
    ((dates.make (.error _ _ (mark (by simp))) rfl).make (.error _ _ (mark (by simp))) rfl).make
      (.error _ _ (mark (by simp))) rfl
  have objects : Run (.object 24 .object (props 19 22) :: .object 23 .object (props 17 20) :: _) 25 :=
    (errors.make (.object _ (parts (by simp) (by simp))) rfl).make
      (.object _ (parts (by simp) (by simp))) rfl
  have copyWhy (n m : Identity) : (why n).Copies (why m) :=
    .error _ _ rfl (.cons (.symbol 16 none) .nil)
  have inHand {hand : List Value} {n m : Identity} (memberDate : date n ∈ hand)
      (memberWhy : why m ∈ hand) :
      (shape [("at", value (date n)), ("why", value (why m))]).Within hand := by
    rw [within_shape_iff, List.forall_mem_cons, List.forall_mem_singleton]
    exact ⟨within_value memberDate, within_value memberWhy⟩
  refine validate_copies objects objects ?_ ?_ (inHand ?_ ?_) (inHand ?_ ?_) ?_ ?_
  · exact .shape rfl (.cons (.value (.date _)) (.cons (.value (copyWhy 20 21)) .nil))
  · exact .object _ rfl (.cons (.date _) (.cons (copyWhy 20 22) .nil))
  all_goals simp [date, why, props]

end Schema
end ShapeCheck
