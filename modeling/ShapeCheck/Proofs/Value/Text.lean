import ShapeCheck.Proofs.Binary64.Text
import ShapeCheck.Proofs.Instant.Text
import ShapeCheck.Proofs.Pattern.Flag
import ShapeCheck.Proofs.Rule
import ShapeCheck.Proofs.Value.Equality

namespace ShapeCheck

namespace Pattern

theorem append_cons_inj {α : Type} {c : α} {before before' after after' : List α}
    (clear : c ∉ after) (clear' : c ∉ after')
    (same : before ++ c :: after = before' ++ c :: after') : before = before' ∧ after = after' := by
  rcases List.append_eq_append_iff.1 same with ⟨more, rfl, rest⟩ | ⟨more, rfl, rest⟩
  · cases more with
    | nil => exact ⟨(List.append_nil _).symm, (List.cons.inj rest).2⟩
    | cons d more => exact absurd ((List.cons.inj rest).2 ▸ by simp) clear
  · cases more with
    | nil => exact ⟨List.append_nil _, (List.cons.inj rest).2.symm⟩
    | cons d more => exact absurd ((List.cons.inj rest).2 ▸ by simp) clear'

theorem slash_notMem_map_letter (flags : List Flag) : '/' ∉ flags.map Flag.letter := by
  rw [List.mem_map]
  rintro ⟨flag, -, same⟩
  cases flag <;> cases same

theorem toText_eq_iff {p q : Pattern} :
    p.toText = q.toText ↔ p.source = q.source ∧ p.flags = q.flags := by
  constructor
  · intro same
    replace same := congrArg String.toList same
    simp only [toText, flagText, Flag.toText, String.toList_append, String.toList_ofList,
      String.reduceToList, List.append_assoc, List.cons_append, List.nil_append,
      List.cons.injEq, true_and] at same
    obtain ⟨sources, flags⟩ :=
      append_cons_inj (slash_notMem_map_letter _) (slash_notMem_map_letter _) same
    refine ⟨String.toList_inj.1 sources, List.map_injective_iff.2 (fun f g letters => ?_) flags⟩
    have found := Flag.ofLetter?_letter f
    rw [letters, Flag.ofLetter?_letter, Option.some.injEq] at found
    exact found.symm
  · rintro ⟨sources, flags⟩
    rw [toText, toText, flagText, flagText, sources, flags]

end Pattern

namespace Value

def shownTags : List Tag :=
  [.undefined, .null, .boolean, .number, .bigint, .string, .date, .regexp]

def ShownInFull (v : Value) : Prop :=
  v.tag ∈ shownTags

def firstWord : Tag → String
  | .undefined => "undefined"
  | .null => "null"
  | t => t.name

theorem takeWhile_toText {v : Value} (shown : v.ShownInFull) :
    v.toText.toList.takeWhile (· != ' ') = (firstWord v.tag).toList := by
  cases v with
  | symbol | array | object | error | function => simp [ShownInFull, shownTags, tag] at shown
  | _ => simp [toText, firstWord, tag, Tag.name]

theorem firstWord_inj : ∀ t ∈ shownTags, ∀ u ∈ shownTags, firstWord t = firstWord u → t = u := by
  decide

theorem tag_eq_of_toText {v w : Value} (shownV : v.ShownInFull) (shownW : w.ShownInFull)
    (same : v.toText = w.toText) : v.tag = w.tag := by
  apply firstWord_inj v.tag shownV w.tag shownW
  rw [← String.toList_inj, ← takeWhile_toText shownV, ← takeWhile_toText shownW, same]

variable {v w : Value}

theorem sameLiteral_number {x y : Binary64} : (number x).sameLiteral (number y) = true ↔
    x.equals y = true ∨ x.isNaN = true ∧ y.isNaN = true := by
  simp [sameLiteral, identical]

theorem sameLiteral_date {id id' : Identity} {i j : Instant} :
    (date id i).sameLiteral (date id' j) = true ↔ id = id' ∨ i = j := by
  simp [sameLiteral, identical]

theorem sameLiteral_regexp {id id' : Identity} {p q : Pattern} :
    (regexp id p).sameLiteral (regexp id' q) = true ↔
      id = id' ∨ p.source = q.source ∧ p.flags = q.flags := by
  simp [sameLiteral, identical, Pattern.sameText]

theorem toText_of_sameLiteral
    (coherent : ∀ {id}, v.identity? = some id → w.identity? = some id → v = w)
    (same : v.sameLiteral w = true) : v.toText = w.toText := by
  have kinds := tag_eq_of_sameLiteral same
  cases v with
  | number x =>
      cases w <;> cases kinds
      exact congrArg ("Number " ++ ·) (Binary64.toText_message_eq_iff.2 (sameLiteral_number.1 same))
  | date id i =>
      cases w <;> cases kinds
      rcases sameLiteral_date.1 same with rfl | rfl
      · rw [coherent rfl rfl]
      · rfl
  | regexp id p =>
      cases w <;> cases kinds
      rcases sameLiteral_regexp.1 same with rfl | texts
      · rw [coherent rfl rfl]
      · exact congrArg ("RegExp " ++ ·) (Pattern.toText_eq_iff.2 texts)
  | _ =>
      rw [eq_of_identical coherent (by simpa [sameLiteral] using same) (by simp [tag])]

theorem sameLiteral_of_toText (shownV : v.ShownInFull) (shownW : w.ShownInFull)
    (same : v.toText = w.toText) : v.sameLiteral w = true := by
  -- Each kind has a first word of its own.
  have kinds := tag_eq_of_toText shownV shownW same
  cases v with
  | undefined | null => cases w <;> cases kinds; rfl
  | bool b =>
      cases w <;> cases kinds
      rename_i c
      cases b <;> cases c <;> first | rfl | cases same
  | number x =>
      cases w <;> cases kinds
      have texts := (String.append_right_inj _).1 same
      exact sameLiteral_number.2 (Binary64.toText_message_eq_iff.1 texts)
  | bigint n =>
      cases w <;> cases kinds
      rw [Numeral.eq_of_toString ((String.append_right_inj _).1 same)]
      exact sameLiteral_self _
  | string s =>
      cases w <;> cases kinds
      rw [(String.append_right_inj _).1 same]
      exact sameLiteral_self _
  | date id i =>
      cases w <;> cases kinds
      exact sameLiteral_date.2 (.inr (Instant.toIso_inj ((String.append_right_inj _).1 same)))
  | regexp id p =>
      cases w <;> cases kinds
      have texts := (String.append_right_inj _).1 same
      exact sameLiteral_regexp.2 (.inr (Pattern.toText_eq_iff.1 texts))
  | _ => simp [ShownInFull, shownTags, tag] at shownV

/-- Of the values that a program has, two that are shown in full have the same text when they are
literally equal. So a literal that does not match is told with two different texts. -/
theorem toText_eq_iff_sameLiteral {hand : List Value} {next : Identity} (run : Run hand next)
    (memberV : v ∈ hand) (memberW : w ∈ hand) (shownV : v.ShownInFull) (shownW : w.ShownInFull) :
    (v.toText = w.toText ↔ v.sameLiteral w = true) ∧
      ((Rule.literal v).check w = .conforms ∨
        (Rule.literal v).check w =
            .fails ⟨[], "expected " ++ v.toText ++ ", got " ++ w.toText⟩ ∧
          v.toText ≠ w.toText) := by
  have coherent {id : Identity} (numberedV : v.identity? = some id)
      (numberedW : w.identity? = some id) : v = w :=
    run.sound.coherent ⟨v, memberV, .self v⟩ ⟨w, memberW, .self w⟩ numberedV numberedW
  have same : v.toText = w.toText ↔ v.sameLiteral w = true :=
    ⟨sameLiteral_of_toText shownV shownW, toText_of_sameLiteral coherent⟩
  refine ⟨same, ?_⟩
  cases equal : v.sameLiteral w with
  | true => exact .inl (Rule.check_literal_eq_conforms.2 equal)
  | false =>
      refine .inr ⟨?_, fun texts => by simp [same.1 texts] at equal⟩
      rw [Rule.check_literal, Verdict.ofLiteral, Verdict.require_of_not equal]
      exact Verdict.failing_eq (by simp)

theorem toText_of_slash_in_source :
    let v := regexp 16 ⟨"a/g", [], .empty⟩
    let w := regexp 17 ⟨"a", [.global], .empty⟩
    v.ShownInFull ∧ w.ShownInFull ∧ v.sameLiteral w = false ∧
      (Rule.literal v).check w = .fails ⟨[], "expected RegExp /a/g/, got RegExp /a/g"⟩ := by
  intro v w
  have run : Run [w, v] 18 := .make (.make (.start 16) (.regexp ⟨"a/g", [], .empty⟩) rfl)
    (.regexp ⟨"a", [.global], .empty⟩) rfl
  have shownV : v.ShownInFull := by simp [v, ShownInFull, shownTags, tag]
  have shownW : w.ShownInFull := by simp [w, ShownInFull, shownTags, tag]
  obtain ⟨same, told⟩ :=
    toText_eq_iff_sameLiteral run (v := v) (w := w) (by simp) (by simp) shownV shownW
  have different : v.sameLiteral w = false :=
    Bool.eq_false_iff.2 fun equal => absurd (same.2 equal) (by decide)
  refine ⟨shownV, shownW, different, ?_⟩
  rcases told with conforms | fails
  · rw [Rule.check_literal_eq_conforms, different] at conforms
    cases conforms
  · exact fails.1

end Value
end ShapeCheck
