import Mathlib.Data.List.Induction
import Mathlib.Data.List.Nodup
import Mathlib.Data.List.Perm.Basic
import ShapeCheck.Pattern.Flag

namespace ShapeCheck.Pattern.Flag

@[simp]
theorem ofLetter?_letter (flag : Flag) : ofLetter? flag.letter = some flag := by
  cases flag <;> rfl

theorem mem_all (flag : Flag) : flag ∈ all := by
  cases flag <;> decide

theorem letter_injective : Function.Injective letter := by
  intro f g same
  have := congrArg ofLetter? same
  simpa using this

theorem collect_append {seen flags : List Flag} (distinct : (flags ++ seen).Nodup)
    (rest : List Char) :
    collect seen (flags.map letter ++ rest) = collect (flags.reverse ++ seen) rest := by
  induction flags generalizing seen with
  | nil => rfl
  | cons flag flags ih =>
      have fresh : flag ∉ seen :=
        fun again => (List.nodup_cons.1 distinct).1 (List.mem_append_right _ again)
      have later : (flags ++ flag :: seen).Nodup := List.nodup_middle.2 distinct
      simp only [List.map_cons, List.cons_append, collect, ofLetter?_letter, List.contains_eq_mem,
        fresh, decide_false, if_false, ih later, List.reverse_cons, List.append_assoc,
        List.nil_append, Bool.false_eq_true]

theorem collect_map_letter {seen flags : List Flag} (distinct : (flags ++ seen).Nodup) :
    collect seen (flags.map letter) = .ok (all.filter (flags.reverse ++ seen).contains) := by
  rw [← List.append_nil (flags.map letter), collect_append distinct, collect]

theorem canonical_toText {flags : List Flag} (distinct : flags.Nodup) :
    canonical (toText flags) = .ok (all.filter (· ∈ flags)) := by
  rw [canonical, toText, String.toList_ofList, collect_map_letter (by simpa using distinct)]
  exact congrArg Except.ok (List.filter_congr fun flag _ => by simp)

theorem contains_canonical (flag : Flag) (flags : List Flag) :
    (all.filter (· ∈ flags)).contains flag = true ↔ flag ∈ flags := by
  simp [mem_all]

theorem exists_map_letter {cs : List Char} (accepted : ∀ c ∈ cs, c ∈ "dgimsuvy".toList) :
    ∃ flags : List Flag, flags.map letter = cs := by
  have letters : "dgimsuvy".toList = all.map letter := rfl
  induction cs with
  | nil => exact ⟨[], rfl⟩
  | cons c cs ih =>
      have first := accepted c List.mem_cons_self
      rw [letters] at first
      obtain ⟨flag, -, same⟩ := List.mem_map.1 first
      obtain ⟨flags, rest⟩ := ih fun d member => accepted d (List.mem_cons_of_mem c member)
      exact ⟨flag :: flags, by rw [List.map_cons, same, rest]⟩

theorem exists_toText {letters : String} (accepted : ∀ c ∈ letters.toList, c ∈ "dgimsuvy".toList)
    (distinct : letters.toList.Nodup) : ∃ flags : List Flag, letters = toText flags ∧ flags.Nodup := by
  obtain ⟨flags, same⟩ := exists_map_letter accepted
  refine ⟨flags, ?_, ?_⟩
  · rw [toText, same, String.ofList_toList]
  · rw [← same] at distinct
    exact distinct.of_map

theorem letter_mem_toText {flag : Flag} {flags : List Flag} :
    flag.letter ∈ (toText flags).toList ↔ flag ∈ flags := by
  rw [toText, String.toList_ofList, List.mem_map_of_injective letter_injective]

theorem mem_letters_iff {c : Char} : c ∈ "dgimsuvy".toList ↔ ∃ flag : Flag, flag.letter = c := by
  have letters : "dgimsuvy".toList = all.map letter := rfl
  rw [letters, List.mem_map]
  exact exists_congr fun flag => and_iff_right (mem_all flag)

theorem mem_letters_of_mem_map {flags : List Flag} {c : Char} (member : c ∈ flags.map letter) :
    c ∈ "dgimsuvy".toList := by
  obtain ⟨flag, -, same⟩ := List.mem_map.1 member
  exact mem_letters_iff.2 ⟨flag, same⟩

theorem ofLetter?_eq_none_iff {c : Char} : ofLetter? c = none ↔ c ∉ "dgimsuvy".toList := by
  rw [mem_letters_iff, ofLetter?]
  simp [mem_all]

theorem letter_of_ofLetter? {c : Char} {flag : Flag} (known : ofLetter? c = some flag) :
    flag.letter = c := by
  rw [ofLetter?] at known
  simpa using List.find?_some known

/-- Whether reading a text comes to some result: to all flags of it, or to an error about the first
character that is no flag or repeats one. -/
inductive Reads : List Char → Except Error (List Flag) → Prop
  | all {flags : List Flag} (distinct : flags.Nodup) :
      Reads (flags.map letter) (.ok (all.filter (· ∈ flags)))
  | unsupported {flags : List Flag} {c : Char} (distinct : flags.Nodup)
      (unknown : ofLetter? c = none) (after : List Char) :
      Reads (flags.map letter ++ c :: after) (.error (.unsupported c))
  | duplicate {flags : List Flag} {flag : Flag} (distinct : flags.Nodup) (again : flag ∈ flags)
      (after : List Char) :
      Reads (flags.map letter ++ flag.letter :: after) (.error (.duplicate flag.letter))

theorem Reads.collect_eq {cs : List Char} {result : Except Error (List Flag)}
    (reads : Reads cs result) : collect [] cs = result := by
  cases reads with
  | all distinct =>
      rw [collect_map_letter (by simpa using distinct)]
      exact congrArg Except.ok (List.filter_congr fun flag _ => by simp)
  | unsupported distinct unknown after =>
      rw [collect_append (by simpa using distinct), collect, unknown]
  | duplicate distinct again after =>
      rw [collect_append (by simpa using distinct), collect, ofLetter?_letter]
      simp [again]

theorem exists_reads (cs : List Char) : ∃ result, Reads cs result := by
  induction cs using List.reverseRecOn with
  | nil => exact ⟨_, .all .nil⟩
  | append_singleton cs c ih =>
      obtain ⟨_, reads⟩ := ih
      cases reads with
      | @all flags distinct =>
          cases known : ofLetter? c with
          | none => exact ⟨_, .unsupported distinct known []⟩
          | some flag =>
              obtain rfl := letter_of_ofLetter? known
              by_cases again : flag ∈ flags
              · exact ⟨_, .duplicate distinct again []⟩
              · have more : flags.map letter ++ [flag.letter] = (flags ++ [flag]).map letter := by
                  simp
                rw [more]
                exact ⟨_, .all (distinct.append (List.nodup_singleton _) (by simpa using again))⟩
      | unsupported distinct unknown after =>
          rw [List.append_assoc, List.cons_append]
          exact ⟨_, .unsupported distinct unknown _⟩
      | duplicate distinct again after =>
          rw [List.append_assoc, List.cons_append]
          exact ⟨_, .duplicate distinct again _⟩

theorem canonical_eq_iff_reads {text : String} {result : Except Error (List Flag)} :
    canonical text = result ↔ Reads text.toList result := by
  refine ⟨fun same => ?_, Reads.collect_eq⟩
  obtain ⟨result', reads⟩ := exists_reads text.toList
  rwa [← same, canonical, reads.collect_eq]

theorem canonical_eq_ok_iff {text : String} {flags : List Flag} :
    canonical text = .ok flags ↔
      ∃ given : List Flag, given.Nodup ∧ text = toText given ∧ flags = all.filter (· ∈ given) := by
  constructor
  · intro accepted
    have reads := canonical_eq_iff_reads.1 accepted
    generalize written : text.toList = cs at reads
    cases reads with
    | @all given distinct =>
        exact ⟨given, distinct, by rw [toText, ← written, String.ofList_toList], rfl⟩
  · rintro ⟨given, distinct, rfl, rfl⟩
    exact canonical_toText distinct

theorem canonical_eq_error_iff {text : String} {e : Error} :
    canonical text = .error e ↔ ∃ before c after, text.toList = before ++ c :: after ∧
      (∀ d ∈ before, d ∈ "dgimsuvy".toList) ∧ before.Nodup ∧
      (c ∉ "dgimsuvy".toList ∧ e = .unsupported c ∨ c ∈ before ∧ e = .duplicate c) := by
  rw [canonical_eq_iff_reads]
  generalize text.toList = cs
  constructor
  · intro reads
    cases reads with
    | unsupported distinct unknown after =>
        exact ⟨_, _, after, rfl, fun _ => mem_letters_of_mem_map, distinct.map letter_injective,
          .inl ⟨ofLetter?_eq_none_iff.1 unknown, rfl⟩⟩
    | duplicate distinct again after =>
        exact ⟨_, _, after, rfl, fun _ => mem_letters_of_mem_map, distinct.map letter_injective,
          .inr ⟨List.mem_map_of_mem again, rfl⟩⟩
  · rintro ⟨before, c, after, rfl, known, distinct, why⟩
    obtain ⟨flags, rfl⟩ := exists_map_letter known
    rcases why with ⟨unknown, rfl⟩ | ⟨again, rfl⟩
    · exact .unsupported distinct.of_map (ofLetter?_eq_none_iff.2 unknown) after
    · obtain ⟨flag, member, rfl⟩ := List.mem_map.1 again
      exact .duplicate distinct.of_map member after

variable {given others : List Flag}

theorem nodup_all : all.Nodup := by
  decide

theorem filter_mem_perm (distinct : given.Nodup) : (all.filter (· ∈ given)).Perm given := by
  refine (List.perm_ext_iff_of_nodup (nodup_all.filter _) distinct).2 fun flag => ?_
  simp [mem_all]

theorem filter_mem_eq_iff (distinct : given.Nodup) (distinct' : others.Nodup) :
    all.filter (· ∈ given) = all.filter (· ∈ others) ↔ given.Perm others := by
  constructor
  · intro same
    exact (filter_mem_perm distinct).symm.trans (same ▸ filter_mem_perm distinct')
  · intro perm
    exact List.filter_congr fun flag _ => by simp only [perm.mem_iff]

theorem toText_injective : Function.Injective toText := by
  intro flags flags' same
  rw [toText, toText, String.ofList_inj] at same
  exact letter_injective.list_map same

/-- Texts of distinct flag letters are accepted, and no others. An accepted text comes to its letters
in the order of `dgimsuvy`: all texts of these letters come to the same, and that one is left as it
is. An error names the first character that is no flag letter or is there again. -/
theorem canonical_sorts (text : String) :
    ((∃ flags, canonical text = .ok flags) ↔
      (∀ c ∈ text.toList, c ∈ "dgimsuvy".toList) ∧ text.toList.Nodup) ∧
    (∀ flags, canonical text = .ok flags →
      (toText flags).toList.Perm text.toList ∧
      (toText flags).toList.Sublist "dgimsuvy".toList ∧
      canonical (toText flags) = .ok flags ∧
      ∀ other flags', canonical other = .ok flags' →
        (toText flags = toText flags' ↔ text.toList.Perm other.toList)) ∧
    ∀ e, canonical text = .error e ↔ ∃ before c after, text.toList = before ++ c :: after ∧
      (∀ d ∈ before, d ∈ "dgimsuvy".toList) ∧ before.Nodup ∧
      (c ∉ "dgimsuvy".toList ∧ e = .unsupported c ∨ c ∈ before ∧ e = .duplicate c) := by
  have perm_iff (flags flags' : List Flag) :
      (toText flags).toList.Perm (toText flags').toList ↔ flags.Perm flags' := by
    rw [toText, toText, String.toList_ofList, String.toList_ofList]
    exact List.map_perm_map_iff letter_injective
  refine ⟨⟨?_, ?_⟩, ?_, fun e => canonical_eq_error_iff⟩
  · rintro ⟨flags, accepted⟩
    obtain ⟨given, distinct, rfl, -⟩ := canonical_eq_ok_iff.1 accepted
    rw [toText, String.toList_ofList]
    exact ⟨fun _ => mem_letters_of_mem_map, distinct.map letter_injective⟩
  · rintro ⟨known, distinct⟩
    obtain ⟨given, rfl, once⟩ := exists_toText known distinct
    exact ⟨_, canonical_toText once⟩
  · intro flags accepted
    obtain ⟨given, distinct, rfl, rfl⟩ := canonical_eq_ok_iff.1 accepted
    refine ⟨(perm_iff _ _).2 (filter_mem_perm distinct), ?_, ?_, ?_⟩
    · rw [toText, String.toList_ofList]
      exact List.filter_sublist.map letter
    · have ordered := (filter_mem_eq_iff (nodup_all.filter _) distinct).2 (filter_mem_perm distinct)
      rw [canonical_toText (nodup_all.filter _), ordered]
    · intro other flags' accepted'
      obtain ⟨given', distinct', rfl, rfl⟩ := canonical_eq_ok_iff.1 accepted'
      rw [toText_injective.eq_iff, perm_iff, filter_mem_eq_iff distinct distinct']

theorem canonical_sorts_six :
    (∃ flags, canonical "ysmigd" = .ok flags ∧
      (toText flags).toList.Perm "ysmigd".toList ∧ canonical (toText flags) = .ok flags) ∧
    canonical "gigq" = .error (.duplicate 'g') ∧ canonical "gqg" = .error (.unsupported 'q') := by
  refine ⟨?_, ?_, ?_⟩
  · obtain ⟨accepted, sorted, -⟩ := canonical_sorts "ysmigd"
    obtain ⟨flags, ok⟩ := accepted.2 ⟨by simp, by decide⟩
    obtain ⟨perm, -, again, -⟩ := sorted flags ok
    exact ⟨flags, ok, perm, again⟩
  · exact ((canonical_sorts "gigq").2.2 _).2
      ⟨['g', 'i'], 'g', ['q'], rfl, by simp, by decide, .inr ⟨by simp, rfl⟩⟩
  · exact ((canonical_sorts "gqg").2.2 _).2
      ⟨['g'], 'q', ['g'], rfl, by simp, by decide, .inl ⟨by simp, rfl⟩⟩

end ShapeCheck.Pattern.Flag
