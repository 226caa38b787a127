import Mathlib.Data.Bool.AllAny
import Mathlib.Data.List.Basic
import ShapeCheck.Pattern.AsciiClasses

/-!
# Lexemes of pattern text

Pattern text is read off from left to right in lexemes, a backslash with the character after it or
one character, and brackets that are not escaped open and close. To write out the ASCII classes is to
write out one lexeme after another (`lexemes_asciiClasses`), each so that as many brackets are open
afterwards as were to be (`depthAfter_written`). So the brackets of a pattern keep their structure,
and of the escapes that mean something else in Unicode only the ones put into groups are left
(`asciiClasses_keeps_structure`).
-/

namespace ShapeCheck.Pattern

inductive Lexeme
  | escape (c : Char)
  | single (c : Char)
  deriving DecidableEq

def Lexeme.text : Lexeme → List Char
  | escape c => ['\\', c]
  | single c => [c]

def lexemes : List Char → List Lexeme
  | [] => []
  | ['\\'] => [.single '\\']
  | '\\' :: c :: rest => .escape c :: lexemes rest
  | c :: rest => .single c :: lexemes rest

def Lexeme.depthAfter (nested : Bool) (depth : Nat) : Lexeme → Nat
  | single '[' => if nested || depth == 0 then depth + 1 else depth
  | single ']' => depth - 1
  | _ => depth

def depthAfter (nested : Bool) (depth : Nat) (ls : List Lexeme) : Nat :=
  ls.foldl (Lexeme.depthAfter nested) depth

/-! ## Lexemes and text -/

theorem lexemes_cons {c : Char} (plain : c ≠ '\\') (cs : List Char) :
    lexemes (c :: cs) = .single c :: lexemes cs := by
  rw [lexemes]
  · rintro rfl
    exact absurd rfl plain
  · rintro _ _ rfl
    exact absurd rfl plain

theorem flatMap_text_lexemes (cs : List Char) : (lexemes cs).flatMap Lexeme.text = cs := by
  fun_induction lexemes cs with
  | case1 => rfl
  | case2 => rfl
  | case3 c rest ih => rw [List.flatMap_cons, ih]; rfl
  | case4 c rest _ _ ih => rw [List.flatMap_cons, ih]; rfl

theorem lexemes_append {cs : List Char} (closed : .single '\\' ∉ lexemes cs) (rest : List Char) :
    lexemes (cs ++ rest) = lexemes cs ++ lexemes rest := by
  fun_induction lexemes cs with
  | case1 => rfl
  | case2 => exact absurd List.mem_cons_self closed
  | case3 c cs ih =>
      rw [List.mem_cons, not_or] at closed
      rw [List.cons_append, List.cons_append, lexemes, ih closed.2, List.cons_append]
  | case4 c cs _ _ ih =>
      rw [List.mem_cons, not_or] at closed
      have plain : c ≠ '\\' := by
        rintro rfl
        exact closed.1 rfl
      rw [List.cons_append, lexemes_cons plain, ih closed.2, List.cons_append]

theorem exists_of_lexemes_eq {cs : List Char} {before after : List Lexeme}
    (split : lexemes cs = before ++ after) :
    ∃ s t, cs = s ++ t ∧ lexemes s = before ∧ lexemes t = after := by
  fun_induction lexemes cs generalizing before with
  | case1 =>
      obtain ⟨rfl, rfl⟩ := List.append_eq_nil_iff.1 split.symm
      exact ⟨[], [], rfl, rfl, rfl⟩
  | case2 =>
      rcases List.append_eq_singleton_iff.1 split.symm with ⟨rfl, rfl⟩ | ⟨rfl, rfl⟩
      · exact ⟨[], ['\\'], rfl, rfl, rfl⟩
      · exact ⟨['\\'], [], rfl, rfl, rfl⟩
  | case3 c rest ih =>
      rcases List.cons_eq_append_iff.1 split with ⟨rfl, rfl⟩ | ⟨before, rfl, inner⟩
      · exact ⟨[], '\\' :: c :: rest, rfl, rfl, rfl⟩
      · obtain ⟨s, t, rfl, first, second⟩ := ih inner
        exact ⟨'\\' :: c :: s, t, rfl, by rw [lexemes, first], second⟩
  | case4 c rest alone paired ih =>
      have plain : c ≠ '\\' := by
        rintro rfl
        cases rest with
        | nil => exact alone rfl rfl
        | cons d rest => exact paired d rest rfl rfl
      rcases List.cons_eq_append_iff.1 split with ⟨rfl, rfl⟩ | ⟨before, rfl, inner⟩
      · exact ⟨[], c :: rest, rfl, rfl, lexemes_cons plain rest⟩
      · obtain ⟨s, t, rfl, first, second⟩ := ih inner
        exact ⟨c :: s, t, rfl, by rw [lexemes_cons plain, first], second⟩

theorem exists_of_lexemes_eq_escape_cons {cs : List Char} {c : Char} {ls : List Lexeme}
    (split : lexemes cs = .escape c :: ls) : ∃ t, cs = '\\' :: c :: t ∧ lexemes t = ls := by
  have whole : cs = '\\' :: c :: ls.flatMap Lexeme.text := by
    rw [← flatMap_text_lexemes cs, split]
    rfl
  rw [whole, lexemes] at split
  exact ⟨_, whole, List.tail_eq_of_cons_eq split⟩

theorem lexemes_injective : Function.Injective lexemes :=
  Function.LeftInverse.injective flatMap_text_lexemes

/-! ## Writing out lexemes -/

def Lexeme.written (nested : Bool) (depth : Nat) : Lexeme → List Lexeme
  | escape c =>
    match asciiEscape? (0 < depth) c with
    | some text => lexemes text.toList
    | none => [escape c]
  | single '[' => if nested || depth == 0 then [single '['] else [escape '[']
  | single c => [single c]

def written (nested : Bool) (depth : Nat) : List Lexeme → List Lexeme
  | [] => []
  | l :: ls => l.written nested depth ++ written nested (l.depthAfter nested depth) ls

variable {nested : Bool} {depth : Nat}

theorem opens_iff : (nested || depth == 0) = true ↔ ¬(0 < depth ∧ !nested) := by
  cases nested <;> simp

theorem Lexeme.written_single {c : Char} (opening : c ≠ '[') :
    (single c).written nested depth = [single c] := by
  rw [written]
  exact opening

theorem Lexeme.depthAfter_single {c : Char} (opening : c ≠ '[') (closing : c ≠ ']') :
    (single c).depthAfter nested depth = depth := by
  unfold Lexeme.depthAfter
  split
  next same => exact absurd (single.inj same) opening
  next same => exact absurd (single.inj same) closing
  next => rfl

def asciiClassLetters : List Char :=
  ['d', 'D', 'w', 'W']

structure StandsFor (inBrackets : Bool) (c : Char) (ls : List Lexeme) : Prop where
  closed : .single '\\' ∉ ls
  depth : ∀ depth, depthAfter true depth ls = depth
  ascii : ∀ d ∈ asciiClassLetters, .escape d ∉ ls
  boundary : ∀ d ∈ ['b', 'B'], .escape d ∈ ls → d = c ∧ inBrackets = false ∧
    ls = lexemes "(?-u:".toList ++ .escape c :: [.single ')']

theorem standsFor_of_asciiEscape? {inBrackets : Bool} {c : Char} {text : String}
    (given : asciiEscape? inBrackets c = some text) :
    StandsFor inBrackets c (lexemes text.toList) := by
  unfold asciiEscape? at given
  split at given
  case h_12 => cases given
  all_goals
    cases given
    exact ⟨by decide, fun _ => rfl, List.all_iff_forall_prop.1 (by decide),
      List.all_iff_forall_prop.1 (by decide)⟩

theorem lexemes_asciiClasses (nested : Bool) (depth : Nat) (cs : List Char) :
    lexemes (asciiClasses nested depth cs) = written nested depth (lexemes cs) := by
  fun_induction asciiClasses nested depth cs with
  | case1 => rfl
  | case2 => rfl
  | case3 depth c rest text given ih =>
      rw [lexemes_append (standsFor_of_asciiEscape? given).closed, ih, lexemes, written,
        Lexeme.written, given]
      rfl
  | case4 depth c rest kept ih =>
      rw [lexemes, ih, lexemes, written, Lexeme.written, kept]
      rfl
  -- A bracket within brackets that do not nest is written with a backslash.
  | case5 depth rest inside ih =>
      have closed : (nested || depth == 0) = false :=
        Bool.eq_false_iff.2 fun opens => opens_iff.1 opens inside
      rw [lexemes, ih, lexemes_cons (by decide), written, Lexeme.written, Lexeme.depthAfter, closed]
      rfl
  | case6 depth rest outside ih =>
      have opens : (nested || depth == 0) = true := opens_iff.2 outside
      rw [lexemes_cons (by decide), lexemes_cons (by decide), ih, written, Lexeme.written,
        Lexeme.depthAfter, opens]
      rfl
  | case7 depth rest ih =>
      rw [lexemes_cons (by decide), lexemes_cons (by decide), ih, written]
      rfl
  | case8 depth c rest alone paired opening closing ih =>
      have plain : c ≠ '\\' := by
        rintro rfl
        cases rest with
        | nil => exact alone rfl rfl
        | cons d rest => exact paired d rest rfl rfl
      rw [lexemes_cons plain, lexemes_cons plain, ih, written, Lexeme.written_single opening,
        Lexeme.depthAfter_single opening closing]
      rfl

/-! ## Brackets -/

theorem depthAfter_append (nested : Bool) (depth : Nat) (ls ms : List Lexeme) :
    depthAfter nested depth (ls ++ ms) = depthAfter nested (depthAfter nested depth ls) ms :=
  List.foldl_append

theorem depthAfter_cons (nested : Bool) (depth : Nat) (l : Lexeme) (ls : List Lexeme) :
    depthAfter nested depth (l :: ls) = depthAfter nested (l.depthAfter nested depth) ls :=
  rfl

theorem Lexeme.written_escape (nested : Bool) (depth : Nat) (c : Char) :
    asciiEscape? (0 < depth) c = none ∧ (escape c).written nested depth = [escape c] ∨
      StandsFor (0 < depth) c ((escape c).written nested depth) := by
  rw [written]
  cases given : asciiEscape? (0 < depth) c with
  | none => exact .inl ⟨rfl, rfl⟩
  | some text => exact .inr (standsFor_of_asciiEscape? given)

theorem Lexeme.depthAfter_written (l : Lexeme) :
    Pattern.depthAfter true depth (l.written nested depth) = l.depthAfter nested depth := by
  cases l with
  | escape c =>
      rcases written_escape nested depth c with ⟨-, kept⟩ | stands
      · rw [kept]
        rfl
      · exact stands.depth depth
  | single c =>
      by_cases opening : c = '['
      · subst opening
        rw [written, Lexeme.depthAfter]
        cases nested || depth == 0 <;> rfl
      · rw [written_single opening]
        by_cases closing : c = ']'
        · subst closing
          rfl
        · exact (depthAfter_single opening closing).trans (depthAfter_single opening closing).symm

theorem depthAfter_written (ls : List Lexeme) :
    depthAfter true depth (written nested depth ls) = depthAfter nested depth ls := by
  induction ls generalizing depth with
  | nil => rfl
  | cons l ls ih => rw [written, depthAfter_append, l.depthAfter_written, ih, depthAfter_cons]

/-! ## Places of lexemes -/

theorem exists_of_written_eq {ls before after : List Lexeme} {m : Lexeme}
    (split : written nested depth ls = before ++ m :: after) :
    ∃ ls₁ l ls₂ left right, ls = ls₁ ++ l :: ls₂ ∧
      l.written nested (depthAfter nested depth ls₁) = left ++ m :: right ∧
      before = written nested depth ls₁ ++ left ∧
      after = right ++ written nested (depthAfter nested depth (ls₁ ++ [l])) ls₂ := by
  induction ls generalizing depth before with
  | nil => simp [written] at split
  | cons l ls ih =>
      have later (rest : List Lexeme)
          (inner : written nested (l.depthAfter nested depth) ls = rest ++ m :: after) :
          ∃ ls₁ l' ls₂ left right, l :: ls = ls₁ ++ l' :: ls₂ ∧
            l'.written nested (depthAfter nested depth ls₁) = left ++ m :: right ∧
            l.written nested depth ++ rest = written nested depth ls₁ ++ left ∧
            after = right ++ written nested (depthAfter nested depth (ls₁ ++ [l'])) ls₂ := by
        obtain ⟨ls₁, l', ls₂, left, right, rfl, here, rfl, behind⟩ := ih inner
        exact ⟨l :: ls₁, l', ls₂, left, right, rfl, here,
          by rw [written, List.append_assoc], behind⟩
      rw [written] at split
      -- The place is in what is written for the first lexeme or after it.
      rcases List.append_eq_append_iff.1 split with ⟨rest, rfl, inner⟩ | ⟨rest, whole, inner⟩
      · exact later rest inner
      · cases rest with
        | nil =>
            have found := later [] inner.symm
            rwa [List.append_nil, whole, List.append_nil] at found
        | cons m' rest =>
            obtain ⟨rfl, rfl⟩ := List.cons.inj inner
            exact ⟨[], l, ls, before, rest, rfl, whole, rfl, rfl⟩

theorem exists_of_mem_written {ls : List Lexeme} {m : Lexeme} (member : m ∈ written nested depth ls) :
    ∃ (l : Lexeme) (depth' : Nat), m ∈ l.written nested depth' := by
  obtain ⟨before, after, split⟩ := List.append_of_mem member
  obtain ⟨ls₁, l, -, left, right, -, here, -, -⟩ := exists_of_written_eq split
  exact ⟨l, _, here ▸ List.mem_append_right left List.mem_cons_self⟩

/-! ## Escapes -/

theorem asciiEscape?_eq_none (inBrackets : Bool) : ∀ c ∈ asciiClassLetters ++ ['b', 'B'],
    asciiEscape? inBrackets c = none → inBrackets = true ∧ c = 'B' :=
  List.all_iff_forall_prop.1 (by cases inBrackets <;> decide)

theorem Lexeme.notMem_written_single (c d : Char) (other : d ≠ '[') :
    .escape d ∉ (single c).written nested depth := by
  by_cases opening : c = '['
  · subst opening
    rw [written]
    split <;> simp [other]
  · rw [written_single opening]
    simp

theorem Lexeme.eq_of_written_eq {l : Lexeme} {c : Char} {left right : List Lexeme}
    (ascii : c ∈ asciiClassLetters ++ ['b', 'B'])
    (split : l.written nested depth = left ++ .escape c :: right) :
    c ∉ asciiClassLetters ∧ l = .escape c ∧
      (depth = 0 ∧ left = lexemes "(?-u:".toList ∧ right = [.single ')'] ∨
        0 < depth ∧ c = 'B' ∧ left = []) := by
  have member : .escape c ∈ l.written nested depth :=
    split ▸ List.mem_append_right left List.mem_cons_self
  cases l with
  | single d =>
      refine absurd member (notMem_written_single d c ?_)
      rintro rfl
      exact absurd ascii (by decide)
  | escape d =>
      rcases written_escape nested depth d with ⟨unchanged, kept⟩ | stands
      · rw [kept] at split
        obtain ⟨rfl, same⟩ | ⟨-, none⟩ := List.append_eq_singleton_iff.1 split.symm
        · cases same
          obtain ⟨inside, rfl⟩ := asciiEscape?_eq_none _ c ascii unchanged
          exact ⟨by decide, rfl, .inr ⟨of_decide_eq_true inside, rfl, rfl⟩⟩
        · cases none
      · have outer : c ∉ asciiClassLetters := fun cls => stands.ascii c cls member
        have boundary := (List.mem_append.1 ascii).resolve_left outer
        obtain ⟨rfl, outside, whole⟩ := stands.boundary c boundary member
        -- The escape is not in the opening of the group, so it stands where the group has its own.
        have opening : .escape c ∉ lexemes "(?-u:".toList := by
          have letters : ∀ c ∈ ['b', 'B'], .escape c ∉ lexemes "(?-u:".toList :=
            List.all_iff_forall_prop.1 (by decide)
          exact letters c boundary
        rw [split] at whole
        obtain ⟨before, -, after⟩ :=
          (List.append_cons_inj_of_notMem opening (by simp)).1 whole.symm
        have top : depth = 0 := by simpa using outside
        exact ⟨outer, rfl, .inl ⟨top, before.symm, after.symm⟩⟩

/-- The place between `before` and `after` is inside a group that was put around an escape of `c` in
`cs`, which stands between `s` and `t` and outside brackets. -/
structure AddedGroup (nested : Bool) (cs : List Char) (c : Char) (before after : List Lexeme)
    (s t : List Char) : Prop where
  source : cs = s ++ '\\' :: c :: t
  place : lexemes cs = lexemes s ++ .escape c :: lexemes t
  outside : depthAfter nested 0 (lexemes s) = 0
  opening : before = lexemes (asciiClasses nested 0 s) ++ lexemes "(?-u:".toList
  closing : after = .single ')' :: lexemes (asciiClasses nested 0 t)

theorem notMem_lexemes_asciiClasses {c : Char} (cls : c ∈ asciiClassLetters) (cs : List Char) :
    .escape c ∉ lexemes (asciiClasses nested 0 cs) := by
  intro member
  rw [lexemes_asciiClasses] at member
  obtain ⟨l, depth, here⟩ := exists_of_mem_written member
  obtain ⟨left, right, split⟩ := List.append_of_mem here
  exact (Lexeme.eq_of_written_eq (List.mem_append_left _ cls) split).1 cls

theorem boundary_of_lexemes_asciiClasses_eq {cs : List Char} {c : Char} {before after : List Lexeme}
    (boundary : c ∈ ['b', 'B'])
    (split : lexemes (asciiClasses nested 0 cs) = before ++ .escape c :: after) :
    depthAfter true 0 before = 0 ∧ (∃ s t, AddedGroup nested cs c before after s t) ∨
      0 < depthAfter true 0 before ∧ c = 'B' := by
  rw [lexemes_asciiClasses] at split
  obtain ⟨ls₁, l, ls₂, left, right, whole, here, rfl, rfl⟩ := exists_of_written_eq split
  obtain ⟨-, rfl, inner⟩ := Lexeme.eq_of_written_eq (List.mem_append_right _ boundary) here
  rw [depthAfter_append, depthAfter_written]
  rcases inner with ⟨top, rfl, rfl⟩ | ⟨inside, rfl, rfl⟩
  · obtain ⟨s, t', rfl, rfl, place⟩ := exists_of_lexemes_eq whole
    obtain ⟨t, rfl, rfl⟩ := exists_of_lexemes_eq_escape_cons place
    refine .inl ⟨by rw [top]; rfl, s, t, rfl, whole, top, ?_, ?_⟩
    · rw [lexemes_asciiClasses]
    · have behind : depthAfter nested 0 (lexemes s ++ [.escape c]) = 0 :=
        (depthAfter_append nested 0 (lexemes s) [.escape c]).trans top
      rw [behind, lexemes_asciiClasses]
      rfl
  · exact .inr ⟨inside, rfl⟩

/-! ## Text that stays -/

theorem asciiEscape?_eq_none_of_notMem {inBrackets : Bool} {c : Char}
    (plain : c ∉ asciiClassLetters ++ ['b', 'B']) : asciiEscape? inBrackets c = none := by
  unfold asciiEscape?
  split
  case h_12 => rfl
  all_goals exact absurd (by decide) plain

theorem written_eq_self {ls : List Lexeme}
    (plain : ∀ c ∈ asciiClassLetters ++ ['b', 'B'], .escape c ∉ ls)
    (flat : nested = false → ∀ before after,
      ls = before ++ .single '[' :: after → depthAfter false depth before = 0) :
    written nested depth ls = ls := by
  induction ls generalizing depth with
  | nil => rfl
  | cons l ls ih =>
      have rest : written nested (l.depthAfter nested depth) ls = ls := by
        refine ih (fun c ascii member => plain c ascii (List.mem_cons_of_mem l member)) ?_
        rintro rfl before after rfl
        exact flat rfl (l :: before) after rfl
      have here : l.written nested depth = [l] := by
        cases l with
        | escape c =>
            have kept : asciiEscape? (0 < depth) c = none :=
              asciiEscape?_eq_none_of_notMem fun ascii => plain c ascii List.mem_cons_self
            rw [Lexeme.written, kept]
        | single c =>
            by_cases opening : c = '['
            · subst opening
              have opens : (nested || depth == 0) = true := by
                cases nested with
                | true => rfl
                | false => exact beq_of_eq (flat rfl [] ls rfl)
              rw [Lexeme.written, opens]
              rfl
            · exact Lexeme.written_single opening
      rw [written, here, rest]
      rfl

/-! ## The pattern as a whole -/

/-- The brackets of a pattern stay as they are when its ASCII classes are written out. No escape of a
class is left, the escapes of boundaries outside brackets are those in the groups that are put around
them, and `\b` is nowhere in brackets. A pattern with nothing to write out stays the same. -/
theorem asciiClasses_keeps_structure (nested : Bool) (cs : List Char) :
    depthAfter true 0 (lexemes (asciiClasses nested 0 cs)) = depthAfter nested 0 (lexemes cs) ∧
      (∀ c ∈ asciiClassLetters, .escape c ∉ lexemes (asciiClasses nested 0 cs)) ∧
      (∀ c ∈ ['b', 'B'], ∀ before after,
        lexemes (asciiClasses nested 0 cs) = before ++ .escape c :: after →
        (depthAfter true 0 before = 0 → ∃ s t, AddedGroup nested cs c before after s t) ∧
        (0 < depthAfter true 0 before → c ≠ 'b')) ∧
      ((∀ c ∈ asciiClassLetters ++ ['b', 'B'], .escape c ∉ lexemes cs) →
        (nested = false → ∀ before after,
          lexemes cs = before ++ .single '[' :: after → depthAfter false 0 before = 0) →
        asciiClasses nested 0 cs = cs) := by
  refine ⟨?depth, fun c cls => notMem_lexemes_asciiClasses cls cs, ?boundary, ?same⟩
  case depth => rw [lexemes_asciiClasses, depthAfter_written]
  case boundary =>
    intro c boundary before after split
    rcases boundary_of_lexemes_asciiClasses_eq boundary split with ⟨top, group⟩ | ⟨inside, rfl⟩
    · exact ⟨fun _ => group, fun inside => absurd top (Nat.ne_of_gt inside)⟩
    · exact ⟨fun top => absurd top (Nat.ne_of_gt inside), fun _ => by decide⟩
  case same =>
    intro plain flat
    exact lexemes_injective ((lexemes_asciiClasses nested 0 cs).trans (written_eq_self plain flat))

theorem asciiClasses_keeps_structure_classes :
    let source := "\\b[\\B\\d".toList
    let opening := lexemes "(?-u:".toList
    let rest := lexemes ")[\\B[:digit:]".toList
    lexemes (asciiClasses false 0 source) = opening ++ .escape 'b' :: rest ∧
      depthAfter true 0 (opening ++ .escape 'b' :: rest) = 1 ∧
      .escape 'd' ∉ lexemes (asciiClasses false 0 source) ∧
      (∃ s t, AddedGroup false source 'b' opening rest s t) ∧
      asciiClasses false 0 "a[^b]\\[".toList = "a[^b]\\[".toList := by
  intro source opening rest
  have split : lexemes (asciiClasses false 0 source) = opening ++ .escape 'b' :: rest := by decide
  obtain ⟨depth, classes, boundary, -⟩ := asciiClasses_keeps_structure false source
  refine ⟨split, ?_, classes 'd' (by decide), ?_, ?_⟩
  · rw [← split]
    exact depth.trans (by decide)
  · exact (boundary 'b' (by decide) opening rest split).1 (by decide)
  · refine (asciiClasses_keeps_structure false "a[^b]\\[".toList).2.2.2
      (List.all_iff_forall_prop.1 (by decide)) ?_
    intro _ before after other
    have here : lexemes "a[^b]\\[".toList =
        [.single 'a'] ++ .single '[' :: [.single '^', .single 'b', .single ']', .escape '['] := rfl
    obtain ⟨rfl, -, -⟩ :=
      (List.append_cons_inj_of_notMem (by decide) (by decide)).1 (here.symm.trans other)
    decide

end ShapeCheck.Pattern
