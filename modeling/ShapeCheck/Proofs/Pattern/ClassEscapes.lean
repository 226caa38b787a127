import ShapeCheck.Proofs.Pattern.Footprint
import ShapeCheck.Proofs.Pattern.Sticky
import ShapeCheck.Proofs.Unicode.CaseFolding

namespace ShapeCheck.Pattern

open Unicode ShapeCheck.Pattern.Flag

/-! ## Reading a class by name -/

def Mode.classSet (mode : Mode) (negated : Bool) (ranges : CodeRanges) : CharSet :=
  let folded := mode.foldSet (mode.foldSet (.ranges ranges))
  if negated then .compl folded else folded

def sign (negated : Bool) : List Char :=
  if negated then ['^'] else []

section

variable {mode : Mode} {name : List Char} {ranges : CodeRanges}

theorem readOpening_sign {cs : List Char} (caret : cs.head? ≠ some '^') (dash : cs.head? ≠ some '-')
    (closing : cs.head? ≠ some ']') (negated : Bool) :
    readOpening false (sign negated ++ cs) = ({ negated }, cs) := by
  have signed : readSign false (sign negated ++ cs) = (negated, cs) := by
    cases negated with
    | false =>
        refine readSign.eq_2 _ _ ?_
        rintro rest rfl
        exact caret rfl
    | true => rfl
  have dashes : readDashes false {} cs = ({}, cs) := by
    cases cs with
    | nil => rw [readDashes]
    | cons c rest => rw [readDashes, if_neg (by simpa using dash)]
  have first : readFirstClosing false {} cs = ({}, cs) := by
    refine readFirstClosing.eq_2 _ _ _ ?_
    rintro rest rfl
    exact closing rfl
  have skips : skip false (sign negated ++ cs) = sign negated ++ cs := rfl
  rw [readOpening, skips, signed]
  dsimp only
  rw [dashes]
  dsimp only
  rw [first]

theorem readBracket_class (plain : mode.verbose = false) (unicode : mode.unicode = true)
    (named : ∀ r, readAsciiClass (name ++ r) = some (false, ranges, r)) (negated : Bool)
    (r : List Char) :
    readBracket mode (sign negated ++ '[' :: (name ++ ']' :: r)) =
      some (⟨mode.classSet negated ranges, 1⟩, r) := by
  have skips (cs : List Char) : skip mode.verbose cs = cs := by
    rw [plain]
    rfl
  have inner : readBracketToken mode ('[' :: (name ++ ']' :: r)) =
      some (.asciiClass false ranges, ']' :: r) := by
    rw [readBracketToken, readInnerBracket, named]
  have opened : readBracket mode (sign negated ++ '[' :: (name ++ ']' :: r)) =
      readBrackets mode { inner := { negated } } ('[' :: (name ++ ']' :: r)) := by
    rw [readBracket, plain, readOpening_sign] <;> simp
  have added : readBrackets mode { inner := { negated } } ('[' :: (name ++ ']' :: r)) =
      readBrackets mode
        { inner := { negated, items := { set := mode.foldSet (.ranges ranges), count := 1 } } }
        (']' :: r) := by
    rw [readBrackets_eq_bind, skips, inner, Option.bind_some, OpenBrackets.after]
    simp [OpenBrackets.next?, Mode.finishSet?, unicode, OpenBrackets.add, OpenBracket.add,
      ItemUnion.add]
  rw [opened, added, readBrackets_eq_bind, skips]
  simp [readBracketToken, OpenBrackets.after, OpenBrackets.next?, OpenBracket.close?,
    OpenBracket.combined, ItemUnion.close, Mode.finishSet?, unicode, Mode.classSet]

/-! ## Reading the pattern -/

theorem read_of_plain {s s' : Reader} {token : Token} {cs r : List Char}
    (plain : s.mode.verbose = false) (word : readToken s.mode cs = some (token, r))
    (step : s.next? token = some s') : s.read cs = s'.read r := by
  have skips : skip s.mode.verbose cs = cs := by
    rw [plain]
    rfl
  rw [Reader.read_of_readToken (skips.symm ▸ word), step, Option.bind_some]

def wholeText (negated : Bool) (name : List Char) : List Char :=
  '\\' :: 'A' :: '[' :: (sign negated ++ '[' :: (name ++ [']', '*', '\\', 'z']))

def wholeTree (set : CharSet) : Tree :=
  .seq (.ask .textStart) (.seq (.times (.take set) 0 none) (.ask .textEnd))

def readerAfter (mode : Mode) (set : Nested CharSet) : Reader where
  mode := mode
  inner :=
    { parts := [.tree ⟨.take set.value, set.depth⟩, .tree ⟨.ask .textStart, 0⟩], outerMode := mode }

theorem read_class {body r : List Char} {set : Nested CharSet} (plain : mode.verbose = false)
    (cls : readBracket mode body = some (set, r)) :
    (Reader.start mode).read ('\\' :: 'A' :: '[' :: body) = (readerAfter mode set).read r := by
  have start : readToken mode ('\\' :: 'A' :: '[' :: body) =
      some (.tree ⟨.ask .textStart, 0⟩, '[' :: body) := rfl
  have word : readToken mode ('[' :: body) = some (.tree ⟨.take set.value, set.depth⟩, r) := by
    rw [readToken, cls, Option.map_some]
  have started := read_of_plain (s := Reader.start mode) plain start rfl
  exact started.trans (read_of_plain plain word rfl)

theorem read_wholeText (plain : mode.verbose = false) (unicode : mode.unicode = true)
    (named : ∀ r, readAsciiClass (name ++ r) = some (false, ranges, r)) (negated : Bool)
    (r : List Char) :
    ∃ s : Reader, (Reader.start mode).read (wholeText negated name ++ r) = s.read r ∧
      s.mode = mode ∧ s.outer = [] ∧
      s.inner.close = ⟨wholeTree (mode.classSet negated ranges), 3⟩ := by
  let afterClass : List Char := '*' :: '\\' :: 'z' :: r
  have text : wholeText negated name ++ r =
      '\\' :: 'A' :: '[' :: (sign negated ++ '[' :: (name ++ ']' :: afterClass)) := by
    simp [wholeText, afterClass]
  have star : readToken mode afterClass = some (.repetition (0, none), '\\' :: 'z' :: r) := rfl
  have stop : readToken mode ('\\' :: 'z' :: r) = some (.tree ⟨.ask .textEnd, 0⟩, r) := rfl
  have taken := read_class plain (readBracket_class plain unicode named negated afterClass)
  have starred := taken.trans (read_of_plain plain star rfl)
  have stopped := starred.trans (read_of_plain plain stop rfl)
  exact ⟨_, text ▸ stopped, rfl, rfl, rfl⟩

theorem readNested_of_read {cs : List Char} {n : Nested Tree} (plain : mode.verbose = false)
    (read : ∀ r, ∃ s : Reader, (Reader.start mode).read (cs ++ r) = s.read r ∧ s.mode = mode ∧
      s.outer = [] ∧ s.inner.close = n) :
    readNested mode cs = some n ∧ readNested mode (cs ++ [')']) = none := by
  constructor
  · obtain ⟨s, alone, -, closed, tree⟩ := read []
    rw [List.append_nil, Reader.read_nil] at alone
    exact readNested_eq_some.2 ⟨s, alone, closed, tree⟩
  · obtain ⟨s, grouped, same, closed, -⟩ := read [')']
    have close : readToken s.mode (skip s.mode.verbose [')']) = some (.close, []) := by
      rw [same, plain]
      rfl
    rw [readNested, grouped, Reader.read_of_readToken close, Reader.next?, closed]
    rfl

end

/-! ## Matching -/

theorem repeats_take {set : CharSet} {text : List Char} {n i j : Nat} :
    Repeats (Tree.Spans text (.take set)) n i j ↔
      j = i + n ∧ ∀ m < n, ∃ c, text[i + m]? = some c ∧ set.contains c.toNat = true := by
  induction n generalizing i with
  | zero => simp [Repeats]
  | succ n ih =>
      constructor
      · rintro ⟨k, ⟨c, there, member, rfl⟩, rest⟩
        obtain ⟨rfl, each⟩ := ih.1 rest
        refine ⟨by omega, fun m few => ?_⟩
        cases m with
        | zero => exact ⟨c, there, member⟩
        | succ m =>
            obtain ⟨d, found⟩ := each m (by omega)
            exact ⟨d, by rwa [show i + (m + 1) = i + 1 + m by omega]⟩
      · rintro ⟨rfl, each⟩
        obtain ⟨c, there, member⟩ := each 0 (Nat.succ_pos n)
        refine ⟨i + 1, ⟨c, there, member, rfl⟩, ih.2 ⟨by omega, fun m few => ?_⟩⟩
        obtain ⟨d, found⟩ := each (m + 1) (by omega)
        exact ⟨d, by rwa [show i + 1 + m = i + (m + 1) by omega]⟩

theorem spans_wholeTree {set : CharSet} {text : List Char} :
    (∃ j, Tree.Spans text (.seq (.times (.take set) 0 none) (.ask .textEnd)) 0 j) ↔
      ∀ c ∈ text, set.contains c.toNat = true := by
  constructor
  · rintro ⟨j, k, ⟨more, -, path⟩, -, atEnd, -⟩ c member
    obtain ⟨rfl, each⟩ := repeats_take.1 path
    obtain ⟨m, inside, rfl⟩ := List.getElem_of_mem member
    have ends : text.length ≤ 0 + (0 + more) := by simpa [Place.holds] using atEnd
    obtain ⟨d, there, taken⟩ := each m (by omega)
    rw [Nat.zero_add, List.getElem?_eq_getElem inside, Option.some.injEq] at there
    rwa [there]
  · intro each
    have path : Repeats (Tree.Spans text (.take set)) (0 + text.length) 0 text.length := by
      refine repeats_take.2 ⟨by omega, fun m few => ?_⟩
      have inside : m < text.length := by omega
      refine ⟨text[m], by simp [inside], each _ (List.getElem_mem inside)⟩
    exact ⟨text.length, text.length, ⟨text.length, by simp, path⟩, Nat.le_refl _,
      by simp [Place.holds], rfl⟩

/-! ## Room -/

theorem borders_foldSet {mode : Mode} (unicode : mode.unicode = true) (set : CharSet) :
    borders (mode.foldSet set) = borders set := by
  rw [Mode.foldSet, if_pos unicode]
  split <;> rfl

theorem rangeCount_classSet_le {mode : Mode} (unicode : mode.unicode = true) (negated : Bool)
    {ranges : CodeRanges} {last : Nat} (within : ∀ code ∈ borders (.ranges ranges), code ≤ last) :
    rangeCount (mode.classSet negated ranges) ≤ 2 * (last + 1) := by
  have same : borders (mode.foldSet (mode.foldSet (.ranges ranges))) = borders (.ranges ranges) := by
    rw [borders_foldSet unicode, borders_foldSet unicode]
  refine rangeCount_le fun code member => ?_
  cases negated with
  | false => exact within code (same ▸ member)
  | true =>
      rcases List.mem_cons.1 member with rfl | member
      · exact Nat.zero_le last
      · exact within code (same ▸ member)

theorem footprint_wholeTree_le (set : CharSet) :
    (wholeTree set).footprint ≤ 7 * stateRoom + 2 * stateRoom * rangeCount set := by
  have taken := footprint_take_le set
  have whole : (wholeTree set).footprint =
      stateRoom + (1 * Tree.footprint (.take set) + stateRoom + stateRoom) := rfl
  omega

/-! ## Building the pattern -/

theorem build_wholeText (source : String) (negated : Bool) {letters : String} {flags : List Flag}
    {name : List Char} {ranges : CodeRanges} (accepted : canonical letters = .ok flags)
    (written : ∀ nested, asciiClasses nested 0 source.toList = wholeText negated name)
    (named : ∀ r, readAsciiClass (name ++ r) = some (false, ranges, r))
    (within : ∀ code ∈ borders (.ranges ranges), code ≤ 128) :
    ∃ p, build source letters = .ok p ∧ ∀ text : String, p.isMatch text = true ↔
      ∀ c ∈ text.toList, ((modeOf flags).classSet negated ranges).contains c.toNat = true := by
  let set := (modeOf flags).classSet negated ranges
  let rest : Tree := .seq (.times (.take set) 0 none) (.ask .textEnd)
  have reads : readNested (modeOf flags) (wholeText negated name) =
        some ⟨.seq (.ask .textStart) rest, 3⟩ ∧
      readNested (modeOf flags) (wholeText negated name ++ [')']) = none :=
    readNested_of_read rfl (read_wholeText rfl rfl named negated)
  have room : rest.footprint + stateRoom + stateRoom ≤ Tree.roomLimit := by
    have tree := footprint_wholeTree_le set
    have whole : (wholeTree set).footprint = stateRoom + rest.footprint := rfl
    have leaf : rangeCount set ≤ _ := rangeCount_classSet_le rfl negated within
    simp only [stateRoom, Tree.roomLimit] at tree whole ⊢
    omega
  obtain ⟨p, built, takes⟩ :=
    build_of_readNested accepted (written _) reads.1 reads.2 (by decide) room
  exact ⟨p, built, fun text => (takes text).trans spans_wholeTree⟩

/-! ## The classes -/

section

variable {mode : Mode} {code : Nat}

theorem contains_asciiWord :
    asciiWord.contains code = true ↔ 48 ≤ code ∧ code ≤ 57 ∨ 65 ≤ code ∧ code ≤ 90 ∨
      code = 95 ∨ 97 ≤ code ∧ code ≤ 122 := by
  simp [CodeRanges.contains, asciiWord]
  omega

theorem contains_foldSet_iff (unicode : mode.unicode = true) {s : CharSet} {P : Nat → Prop}
    (stable : ∀ code, P (foldCase code) ↔ P code) (same : ∀ code, s.contains code = true ↔ P code) :
    (mode.foldSet s).contains code = true ↔ P code := by
  rw [Mode.foldSet, if_pos unicode]
  split
  · refine CharSet.contains_anyCase_iff stable (fun v => (same v).1) fun v given => ?_
    exact ⟨v, (same v).2 given, rfl⟩
  · exact same code

theorem isDigit_foldCase : 48 ≤ foldCase code ∧ foldCase code ≤ 57 ↔ 48 ≤ code ∧ code ≤ 57 := by
  by_cases longS : code = 383
  · simp [longS, foldCase_longS]
  by_cases kelvin : code = 8490
  · simp [kelvin, foldCase_kelvin]
  rcases Nat.lt_or_ge code 128 with ascii | large
  · rw [foldCase_of_ascii ascii]
    split <;> omega
  · have := foldCase_of_not_ascii large longS kelvin
    omega

theorem contains_foldSet_digit (unicode : mode.unicode = true) :
    (mode.foldSet (mode.foldSet (.ranges [(48, 57)]))).contains code = true ↔
      48 ≤ code ∧ code ≤ 57 := by
  have digits (v : Nat) : (CharSet.ranges [(48, 57)]).contains v = true ↔ 48 ≤ v ∧ v ≤ 57 := by
    simp [CharSet.contains, CodeRanges.contains]
  have once (v : Nat) : (mode.foldSet (.ranges [(48, 57)])).contains v = true ↔ 48 ≤ v ∧ v ≤ 57 :=
    contains_foldSet_iff (P := fun v => 48 ≤ v ∧ v ≤ 57) unicode (fun _ => isDigit_foldCase) digits
  exact contains_foldSet_iff (P := fun v => 48 ≤ v ∧ v ≤ 57) unicode (fun _ => isDigit_foldCase) once

def IsFoldedWord (code : Nat) : Prop :=
  asciiWord.contains code = true ∨ code = 383 ∨ code = 8490

theorem isFoldedWord_foldCase : IsFoldedWord (foldCase code) ↔ IsFoldedWord code := by
  simp only [IsFoldedWord, contains_asciiWord]
  by_cases longS : code = 383
  · simp [longS, foldCase_longS]
  by_cases kelvin : code = 8490
  · simp [kelvin, foldCase_kelvin]
  rcases Nat.lt_or_ge code 128 with ascii | large
  · rw [foldCase_of_ascii ascii]
    split <;> omega
  · have := foldCase_of_not_ascii large longS kelvin
    omega

theorem contains_anyCase_asciiWord :
    (CharSet.anyCase (.ranges asciiWord)).contains code = true ↔ IsFoldedWord code := by
  refine CharSet.contains_anyCase_iff (fun _ => isFoldedWord_foldCase) (fun _ => .inl) ?_
  rintro v (word | rfl | rfl)
  · exact ⟨v, word, rfl⟩
  · exact ⟨115, by decide, by rw [foldCase_longS, foldCase_of_ascii (by omega)]; rfl⟩
  · exact ⟨107, by decide, by rw [foldCase_kelvin, foldCase_of_ascii (by omega)]; rfl⟩

theorem contains_foldSet_word (unicode : mode.unicode = true) :
    (mode.foldSet (mode.foldSet (.ranges asciiWord))).contains code = true ↔
      asciiWord.contains code = true ∨
        mode.ignoreCase = true ∧ (code = 383 ∨ code = 8490) := by
  cases caseless : mode.ignoreCase with
  | false => simp [Mode.foldSet, caseless, CharSet.contains]
  | true =>
      have once (v : Nat) : (mode.foldSet (.ranges asciiWord)).contains v = true ↔
          IsFoldedWord v := by
        rw [Mode.foldSet, if_pos caseless, if_pos unicode, contains_anyCase_asciiWord]
      rw [contains_foldSet_iff unicode (fun _ => isFoldedWord_foldCase) once, IsFoldedWord]
      simp

end

/-! ## The escapes -/

/-- What `\w` takes under flags: ASCII letters, digits and the underscore, and when case is ignored
the long s and the Kelvin sign, which are folded to letters of these. -/
def TakenAsWord (letters : String) (c : Char) : Prop :=
  c.isAlphanum = true ∨ c = '_' ∨ 'i' ∈ letters.toList ∧ (c = '\u017f' ∨ c = '\u212a')

theorem isDigit_iff {c : Char} : c.isDigit = true ↔ 48 ≤ c.toNat ∧ c.toNat ≤ 57 :=
  Char.isDigit_iff_toNat

theorem contains_asciiWord_iff {c : Char} :
    asciiWord.contains c.toNat = true ↔ c.isAlphanum = true ∨ c = '_' := by
  have underscore : c = '_' ↔ c.toNat = 95 := Char.toNat_inj.symm
  have alphanum : c.isAlphanum = true ↔
      (65 ≤ c.toNat ∧ c.toNat ≤ 90 ∨ 97 ≤ c.toNat ∧ c.toNat ≤ 122) ∨ c.isDigit = true := by
    delta Char.isAlphanum Char.isAlpha Char.isUpper Char.isLower
    simp [UInt32.le_iff_toNat_le]
  rw [contains_asciiWord, underscore, alphanum, isDigit_iff]
  omega

theorem contains_classSet {mode : Mode} {ranges : CodeRanges} {code : Nat} {P : Prop}
    (takes : (mode.foldSet (mode.foldSet (.ranges ranges))).contains code = true ↔ P) :
    ((mode.classSet false ranges).contains code = true ↔ P) ∧
      ((mode.classSet true ranges).contains code = true ↔ ¬P) := by
  refine ⟨takes, ?_⟩
  rw [← takes]
  simp [Mode.classSet, CharSet.contains]

theorem contains_classSet_digit {flags : List Flag} (c : Char) :
    (((modeOf flags).classSet false [(48, 57)]).contains c.toNat = true ↔ c.isDigit = true) ∧
      (((modeOf flags).classSet true [(48, 57)]).contains c.toNat = true ↔ ¬c.isDigit = true) := by
  refine contains_classSet ?_
  rw [contains_foldSet_digit rfl, isDigit_iff]

theorem contains_classSet_word {flags : List Flag} {letters : String}
    (caseless : flags.contains ignoreCase = true ↔ 'i' ∈ letters.toList) (c : Char) :
    (((modeOf flags).classSet false asciiWord).contains c.toNat = true ↔ TakenAsWord letters c) ∧
      (((modeOf flags).classSet true asciiWord).contains c.toNat = true ↔
        ¬TakenAsWord letters c) := by
  refine contains_classSet ?_
  have longS : c = '\u017f' ↔ c.toNat = 383 := Char.toNat_inj.symm
  have kelvin : c = '\u212a' ↔ c.toNat = 8490 := Char.toNat_inj.symm
  rw [contains_foldSet_word rfl, contains_asciiWord_iff, TakenAsWord, longS, kelvin, ← caseless,
    or_assoc]
  rfl

/-- Whether the characters of a text are all in a class of ASCII is what the patterns of the escapes
tell under all flags, but that `\w` takes two more characters when case is ignored, and `\W` leaves
them. -/
theorem build_classEscapes {letters : String}
    (accepted : ∀ c ∈ letters.toList, c ∈ "dgimsuvy".toList) (distinct : letters.toList.Nodup) :
    ∃ word notWord digit notDigit : Pattern,
      build "\\A\\w*\\z" letters = .ok word ∧ build "\\A\\W*\\z" letters = .ok notWord ∧
      build "\\A\\d*\\z" letters = .ok digit ∧ build "\\A\\D*\\z" letters = .ok notDigit ∧
      ∀ text : String,
        (word.isMatch text = true ↔ ∀ c ∈ text.toList, TakenAsWord letters c) ∧
        (notWord.isMatch text = true ↔ ∀ c ∈ text.toList, ¬TakenAsWord letters c) ∧
        (digit.isMatch text = true ↔ ∀ c ∈ text.toList, c.isDigit = true) ∧
        (notDigit.isMatch text = true ↔ ∀ c ∈ text.toList, ¬c.isDigit = true) := by
  obtain ⟨given, rfl, once⟩ := exists_toText accepted distinct
  have flags := canonical_toText once
  have caseless := contains_canonical ignoreCase given
  rw [← letter_mem_toText] at caseless
  generalize all.filter (· ∈ given) = canonicalFlags at flags caseless
  have digits := @contains_classSet_digit canonicalFlags
  have words := contains_classSet_word caseless
  have readsWord (r : List Char) : readAsciiClass (":word:]".toList ++ r) =
      some (false, asciiWord, r) := rfl
  have readsDigit (r : List Char) : readAsciiClass (":digit:]".toList ++ r) =
      some (false, [(48, 57)], r) := rfl
  obtain ⟨word, builtWord, matchesWord⟩ :=
    build_wholeText "\\A\\w*\\z" false flags (fun _ => rfl) readsWord (by decide)
  obtain ⟨notWord, builtNotWord, matchesNotWord⟩ :=
    build_wholeText "\\A\\W*\\z" true flags (fun _ => rfl) readsWord (by decide)
  obtain ⟨digit, builtDigit, matchesDigit⟩ :=
    build_wholeText "\\A\\d*\\z" false flags (fun _ => rfl) readsDigit (by decide)
  obtain ⟨notDigit, builtNotDigit, matchesNotDigit⟩ :=
    build_wholeText "\\A\\D*\\z" true flags (fun _ => rfl) readsDigit (by decide)
  refine ⟨word, notWord, digit, notDigit, builtWord, builtNotWord, builtDigit, builtNotDigit,
    fun text => ⟨?_, ?_, ?_, ?_⟩⟩
  · simp only [matchesWord, words]
  · simp only [matchesNotWord, words]
  · simp only [matchesDigit, digits]
  · simp only [matchesNotDigit, digits]

theorem build_classEscapes_caseless :
    (∀ c ∈ "yi".toList, c ∈ "dgimsuvy".toList) ∧ "yi".toList.Nodup ∧
    ∃ word digit : Pattern,
      build "\\A\\w*\\z" "yi" = .ok word ∧ build "\\A\\d*\\z" "yi" = .ok digit ∧
      word.isMatch "Z_9\u212a" = true ∧ ¬word.isMatch "Z-9" = true ∧
      digit.isMatch "0917" = true ∧ ¬digit.isMatch "\u0663" = true := by
  have accepted : ∀ c ∈ "yi".toList, c ∈ "dgimsuvy".toList := by simp
  have distinct : "yi".toList.Nodup := by decide
  obtain ⟨word, _, digit, _, builtWord, _, builtDigit, _, takes⟩ := build_classEscapes accepted distinct
  refine ⟨accepted, distinct, word, digit, builtWord, builtDigit, ?_, ?_, ?_, ?_⟩
  · rw [(takes _).1]
    simp [TakenAsWord]
  · rw [(takes _).1]
    simp [TakenAsWord]
  · rw [(takes _).2.2.1]
    simp
  · rw [(takes _).2.2.1]
    simp

theorem build_classEscapes_differs :
    ¬∃ word, build "\\A\\w*\\z" "i" = .ok word ∧ ∀ text : String,
      word.isMatch text = true ↔ ∀ c ∈ text.toList, c.isAlphanum = true ∨ c = '_' := by
  rintro ⟨word, built, ascii⟩
  have flags : canonical "i" = .ok [ignoreCase] := rfl
  obtain ⟨word', built', takes⟩ := build_wholeText "\\A\\w*\\z" false flags (fun _ => rfl)
    (show ∀ r, readAsciiClass (":word:]".toList ++ r) = some (false, asciiWord, r) from fun _ => rfl)
    (by decide)
  obtain rfl : word = word' := Except.ok.inj (built.symm.trans built')
  have caseless : [ignoreCase].contains ignoreCase = true ↔ 'i' ∈ "i".toList := by decide
  have taken : word.isMatch "\u017f" = true := by
    refine (takes _).2 fun c member => ?_
    have longS : c = '\u017f' := by simpa using member
    exact (contains_classSet_word caseless c).1.2 (.inr (.inr ⟨by decide, .inl longS⟩))
  exact absurd ((ascii _).1 taken) (by simp)

end ShapeCheck.Pattern
