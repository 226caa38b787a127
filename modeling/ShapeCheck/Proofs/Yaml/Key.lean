import ShapeCheck.Proofs.Binary64.Text
import ShapeCheck.Yaml.Conversion

namespace ShapeCheck

namespace WrittenNumber

theorem toString_ne_toText (n : Int) (x : Binary64) : toString n ≠ x.toText .mappingKey := by
  obtain ⟨m, read, point, power, -⟩ := Numeral.read?_toString n
  intro same
  rw [same] at read
  cases finite : x.isFinite with
  | false =>
      have word := Binary64.read?_toText_of_not_isFinite Binary64.worded_mappingKey finite
      cases word.symm.trans read
  | true =>
      obtain ⟨m', read', -, marked⟩ := Binary64.exists_goesWith_toText_mappingKey finite
      cases read.symm.trans read'
      rw [point, power] at marked
      simp at marked

theorem same_of_keyText {m n : WrittenNumber} (text : m.keyText = n.keyText) : m.same n = true := by
  cases m with
  | int a =>
      cases n with
      | int b => exact beq_iff_eq.2 (Numeral.eq_of_toString text)
      | float y => exact absurd text (toString_ne_toText a y)
  | float x =>
      cases n with
      | int b => exact absurd text.symm (toString_ne_toText b x)
      | float y =>
          rw [same, Bool.or_eq_true, Bool.and_eq_true]
          rcases Binary64.eq_of_toText_mappingKey text with rfl | both
          · cases number : x.isNaN with
            | false => exact .inl (by simp [Binary64.equals, number])
            | true => exact .inr ⟨rfl, rfl⟩
          · exact .inr both

theorem keyText_ne_toString (n : WrittenNumber) (b : Bool) : n.keyText ≠ toString b := by
  have word : Numeral.read? (toString b).toList = none := by cases b <;> rfl
  intro same
  rw [← same] at word
  cases n with
  | int a =>
      obtain ⟨m, read, -⟩ := Numeral.read?_toString a
      cases word.symm.trans read
  | float x =>
      cases finite : x.isFinite with
      | true =>
          obtain ⟨m, read, -⟩ := Binary64.exists_goesWith_toText_mappingKey finite
          cases word.symm.trans read
      | false =>
          rw [keyText, Binary64.toText_mappingKey_of_not_isFinite finite] at same
          revert same
          cases x.isNaN <;> cases x.negative <;> cases b <;> decide

end WrittenNumber

namespace Yaml

def WrittenAs (text : String) : Yaml → Prop
  | number n => n.keyText = text
  | bool b => toString b = text
  | _ => False

instance {text : String} : (k : Yaml) → Decidable (k.WrittenAs text)
  | number n => inferInstanceAs (Decidable (n.keyText = text))
  | bool b => inferInstanceAs (Decidable (toString b = text))
  | null | string _ | sequence _ | mapping _ | tagged _ _ => inferInstanceAs (Decidable False)

theorem keyText?_eq_some_iff {k : Yaml} {text : String} :
    k.keyText? = some text ↔ k = string text ∨ k.WrittenAs text := by
  cases k <;> simp [keyText?, WrittenAs]

theorem WrittenAs.same {text : String} {k l : Yaml} (written : k.WrittenAs text)
    (written' : l.WrittenAs text) : Yaml.same k l = true := by
  cases k with
  | number m =>
      have text : m.keyText = text := written
      cases l with
      | number n =>
          rw [Yaml.same]
          exact WrittenNumber.same_of_keyText (text.trans written'.symm)
      | bool b => exact absurd (text.trans written'.symm) (m.keyText_ne_toString b)
      | _ => exact written'.elim
  | bool a =>
      have text : toString a = text := written
      cases l with
      | number n => exact absurd (written'.trans text.symm) (n.keyText_ne_toString a)
      | bool b =>
          have equal : toString a = toString b := text.trans written'.symm
          rw [Yaml.same]
          revert equal
          cases a <;> cases b <;> decide
      | _ => exact written'.elim
  | _ => exact written.elim

/-- Whether one key is a text and the other a number or a Boolean written like it. -/
def ClashesWith : Yaml → Yaml → Prop
  | string text, l => l.WrittenAs text
  | _, _ => False

instance : (k l : Yaml) → Decidable (k.ClashesWith l)
  | string text, l => inferInstanceAs (Decidable (l.WrittenAs text))
  | null, _ | bool _, _ | number _, _ | sequence _, _ | mapping _, _ | tagged _ _, _ =>
    inferInstanceAs (Decidable False)

theorem clashesWith_iff {k l : Yaml} :
    k.ClashesWith l ↔ ∃ text, k = string text ∧ l.WrittenAs text := by
  cases k <;> simp [ClashesWith]

theorem same_or_clashesWith {k l : Yaml} {text : String} (has : k.keyText? = some text)
    (has' : l.keyText? = some text) : same k l = true ∨ k.ClashesWith l ∨ l.ClashesWith k := by
  rw [clashesWith_iff, clashesWith_iff]
  rw [keyText?_eq_some_iff] at has has'
  rcases has with rfl | written <;> rcases has' with rfl | written'
  · exact .inl (by rw [same]; exact beq_self_eq_true text)
  · exact .inr (.inl ⟨text, rfl, written'⟩)
  · exact .inr (.inr ⟨text, rfl, written⟩)
  · exact .inl (written.same written')

theorem ClashesWith.keyText?_eq {k l : Yaml} (clash : k.ClashesWith l) : k.keyText? = l.keyText? := by
  obtain ⟨text, rfl, written⟩ := clashesWith_iff.1 clash
  exact (keyText?_eq_some_iff.2 (.inr written)).symm

theorem not_clashesWith_self (k : Yaml) : ¬ k.ClashesWith k := by
  intro clash
  obtain ⟨text, rfl, written⟩ := clashesWith_iff.1 clash
  exact written

end Yaml
end ShapeCheck
