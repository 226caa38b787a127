import ShapeCheck.Proofs.Pattern.ClassEscapes

namespace ShapeCheck.Pattern

open Unicode ShapeCheck.Pattern.Flag

/-! ## Items -/

inductive ClassItem
  | alphanum (c : Char) (isAlphanum : c.isAlphanum = true)
  | bracket
  | digit (negated : Bool)
  | word (negated : Bool)
  | backspace
  | escapedOpening
  | escapedClosing
  | escapedBackslash

namespace ClassItem

def text : ClassItem → List Char
  | alphanum c _ => [c]
  | bracket => ['[']
  | digit negated => ['\\', if negated then 'D' else 'd']
  | word negated => ['\\', if negated then 'W' else 'w']
  | backspace => ['\\', 'b']
  | escapedOpening => ['\\', '[']
  | escapedClosing => ['\\', ']']
  | escapedBackslash => ['\\', '\\']

def Takes : ClassItem → Char → Prop
  | alphanum d _, c => c = d
  | bracket, c => c = '['
  | digit negated, c => c.isDigit = !negated
  | word negated, c => (c.isAlphanum || c == '_') = !negated
  | backspace, c => c = '\x08'
  | escapedOpening, c => c = '['
  | escapedClosing, c => c = ']'
  | escapedBackslash, c => c = '\\'

def written : ClassItem → List Char
  | alphanum c _ => [c]
  | bracket => ['\\', '[']
  | digit negated => '[' :: ':' :: (sign negated ++ "digit:]".toList)
  | word negated => '[' :: ':' :: (sign negated ++ "word:]".toList)
  | backspace => "\\x08".toList
  | escapedOpening => ['\\', '[']
  | escapedClosing => ['\\', ']']
  | escapedBackslash => ['\\', '\\']

def set : ClassItem → CharSet
  | alphanum c _ => .single c
  | bracket => .single '['
  | digit negated => if negated then .compl (.ranges [(48, 57)]) else .ranges [(48, 57)]
  | word negated => if negated then .compl (.ranges asciiWord) else .ranges asciiWord
  | backspace => .single '\x08'
  | escapedOpening => .single '['
  | escapedClosing => .single ']'
  | escapedBackslash => .single '\\'

end ClassItem

def classSource (negated : Bool) (items : List ClassItem) : String :=
  String.ofList ('\\' :: 'A' :: '[' :: (sign negated ++ items.flatMap ClassItem.text ++
    [']', '\\', 'z']))

/-! ## Writing out the items -/

section

variable {c : Char}

theorem not_special_of_isAlphanum (alphanum : c.isAlphanum = true) :
    c ≠ '\\' ∧ c ≠ '[' ∧ c ≠ ']' ∧ c ≠ '^' ∧ c ≠ '-' ∧ c ≠ '&' ∧ c ≠ '~' := by
  refine ⟨?_, ?_, ?_, ?_, ?_, ?_, ?_⟩ <;> rintro rfl <;> exact absurd alphanum (by decide)

theorem asciiClasses_item (item : ClassItem) (r : List Char) :
    asciiClasses false 1 (item.text ++ r) = item.written ++ asciiClasses false 1 r := by
  cases item with
  | alphanum c alphanum =>
      obtain ⟨backslash, opening, closing, -⟩ := not_special_of_isAlphanum alphanum
      exact asciiClasses.eq_6 _ _ _ _ (fun same => absurd same backslash)
        (fun _ _ same => absurd same backslash) opening closing
  | bracket => rfl
  | digit negated => cases negated <;> rfl
  | word negated => cases negated <;> rfl
  | backspace => rfl
  | escapedOpening => rfl
  | escapedClosing => rfl
  | escapedBackslash => rfl

theorem asciiClasses_items (items : List ClassItem) (r : List Char) :
    asciiClasses false 1 (items.flatMap ClassItem.text ++ r) =
      items.flatMap ClassItem.written ++ asciiClasses false 1 r := by
  induction items with
  | nil => rfl
  | cons item items ih =>
      rw [List.flatMap_cons, List.flatMap_cons, List.append_assoc, List.append_assoc,
        asciiClasses_item, ih]

end

/-! ## Reading the items -/

section

variable {mode : Mode}

theorem foldSet_of_not_ignoreCase (cased : mode.ignoreCase = false) (set : CharSet) :
    mode.foldSet set = set := by
  rw [Mode.foldSet, cased]
  rfl

theorem finishSet?_of_not_ignoreCase (unicode : mode.unicode = true)
    (cased : mode.ignoreCase = false) (negated : Bool) (set : CharSet) :
    mode.finishSet? negated set = some (if negated then .compl set else set) := by
  simp [Mode.finishSet?, unicode, foldSet_of_not_ignoreCase cased]

theorem readRangeEnd_of_no_dash {first : Primitive} {cs : List Char} (dashless : cs.head? ≠ some '-') :
    readRangeEnd mode first cs = itemAlone mode first cs := by
  rw [readRangeEnd.eq_2]
  rintro rest rfl
  exact dashless rfl

theorem head?_written (item : ClassItem) (r : List Char) {c : Char}
    (special : c = '^' ∨ c = '-' ∨ c = ']') : (item.written ++ r).head? ≠ some c := by
  cases item with
  | alphanum d alphanum =>
      obtain ⟨-, -, closing, caret, dash, -⟩ := not_special_of_isAlphanum alphanum
      rcases special with rfl | rfl | rfl
      · simpa [ClassItem.written] using caret
      · simpa [ClassItem.written] using dash
      · simpa [ClassItem.written] using closing
  | _ => rcases special with rfl | rfl | rfl <;> simp [ClassItem.written]

theorem readBracketToken_character (plain : mode.verbose = false) (unicode : mode.unicode = true)
    {first c : Char} {cs r : List Char} {byte : Bool}
    (read : readItem false (first :: cs) = some (.character c byte, r)) (opening : first ≠ '[')
    (closing : first ≠ ']') (operation : readOperation (first :: cs) = none)
    (dashless : r.head? ≠ some '-') :
    readBracketToken mode (first :: cs) = some (.range (.single c), r) := by
  rw [readBracketToken.eq_3, operation]
  · simp only [readRange, plain, read, Option.bind_eq_bind, Option.bind_some]
    simp [readRangeEnd_of_no_dash dashless, itemAlone, Primitive.set?, unicode, skip]
  · rintro rest ⟨⟩
    exact opening rfl
  · rintro rest ⟨⟩
    exact closing rfl

theorem readBracketToken_written (plain : mode.verbose = false) (unicode : mode.unicode = true)
    (cased : mode.ignoreCase = false) (item : ClassItem) {r : List Char} (dashless : r.head? ≠ some '-') :
    ∃ token, readBracketToken mode (item.written ++ r) = some (token, r) ∧
      ∀ b : OpenBrackets, b.next? mode token = some (.inl (b.add ⟨item.set, 0⟩)) := by
  have single {first c : Char} {cs : List Char} {byte : Bool}
      (read : readItem false (first :: cs) = some (.character c byte, r)) (opening : first ≠ '[')
      (closing : first ≠ ']') (operation : readOperation (first :: cs) = none) :
      ∃ token, readBracketToken mode (first :: cs) = some (token, r) ∧
        ∀ b : OpenBrackets, b.next? mode token = some (.inl (b.add ⟨.single c, 0⟩)) :=
    ⟨_, readBracketToken_character plain unicode read opening closing operation dashless,
      fun _ => rfl⟩
  have named {cs : List Char} {negated : Bool} {ranges : CodeRanges}
      (read : readAsciiClass cs = some (negated, ranges, r)) :
      ∃ token, readBracketToken mode ('[' :: cs) = some (token, r) ∧
        ∀ b : OpenBrackets, b.next? mode token =
          some (.inl (b.add ⟨if negated then .compl (.ranges ranges) else .ranges ranges, 0⟩)) := by
    refine ⟨.asciiClass negated ranges, ?_, fun b => ?_⟩
    · rw [readBracketToken, readInnerBracket, read]
    · rw [OpenBrackets.next?, finishSet?_of_not_ignoreCase unicode cased]
      rfl
  cases item with
  | alphanum c alphanum =>
      obtain ⟨backslash, opening, closing, -, dash, both, tilde⟩ := not_special_of_isAlphanum alphanum
      have operation : readOperation (c :: r) = none := by
        rw [readOperation.eq_4] <;> rintro _ ⟨⟩
        · exact both rfl
        · exact dash rfl
        · exact tilde rfl
      exact single (if_neg backslash) opening closing operation
  | bracket => exact single rfl (by decide) (by decide) rfl
  | digit negated =>
      have read : readAsciiClass (':' :: (sign negated ++ "digit:]".toList ++ r)) =
          some (negated, [(48, 57)], r) := by
        cases negated <;> rfl
      exact named read
  | word negated =>
      have read : readAsciiClass (':' :: (sign negated ++ "word:]".toList ++ r)) =
          some (negated, asciiWord, r) := by
        cases negated <;> rfl
      exact named read
  | backspace => exact single rfl (by decide) (by decide) rfl
  | escapedOpening => exact single rfl (by decide) (by decide) rfl
  | escapedClosing => exact single rfl (by decide) (by decide) rfl
  | escapedBackslash => exact single rfl (by decide) (by decide) rfl

/-! ## The union of the items -/

def ItemUnion.addAll (u : ItemUnion) (items : List ClassItem) : ItemUnion :=
  items.foldl (fun u item => u.add ⟨item.set, 0⟩) u

theorem readBrackets_items (plain : mode.verbose = false) (unicode : mode.unicode = true)
    (cased : mode.ignoreCase = false) (negated : Bool) (u : ItemUnion) (items : List ClassItem)
    (r : List Char) :
    readBrackets mode { inner := { negated, items := u } }
        (items.flatMap ClassItem.written ++ ']' :: r) =
      readBrackets mode { inner := { negated, items := u.addAll items } } (']' :: r) := by
  induction items generalizing u with
  | nil => rfl
  | cons item items ih =>
      -- No item begins with a dash, so none is the start of a range.
      let rest := items.flatMap ClassItem.written ++ ']' :: r
      have dashless : rest.head? ≠ some '-' := by
        cases items with
        | nil => simp [rest]
        | cons next items =>
            simp only [rest, List.flatMap_cons, List.append_assoc]
            exact head?_written next _ (.inr (.inl rfl))
      obtain ⟨token, word, adds⟩ := readBracketToken_written plain unicode cased item dashless
      have skips : skip mode.verbose (item.written ++ rest) = item.written ++ rest := by
        rw [plain]
        rfl
      rw [List.flatMap_cons, List.append_assoc, readBrackets_eq_bind, skips, word, Option.bind_some,
        OpenBrackets.after, adds]
      exact ih _

def itemsSet (negated : Bool) (items : List ClassItem) : Nested CharSet :=
  let u := ItemUnion.addAll {} items
  ⟨if negated then .compl u.set else u.set, u.close.depth + 1⟩

theorem readBracket_items (plain : mode.verbose = false) (unicode : mode.unicode = true)
    (cased : mode.ignoreCase = false) (negated : Bool) {items : List ClassItem}
    (nonempty : items ≠ []) (r : List Char) :
    readBracket mode (sign negated ++ (items.flatMap ClassItem.written ++ ']' :: r)) =
      some (itemsSet negated items, r) := by
  obtain ⟨item, others, rfl⟩ := List.exists_cons_of_ne_nil nonempty
  have first {c : Char} (special : c = '^' ∨ c = '-' ∨ c = ']') :
      ((item :: others).flatMap ClassItem.written ++ ']' :: r).head? ≠ some c := by
    rw [List.flatMap_cons, List.append_assoc]
    exact head?_written item _ special
  have closing : skip mode.verbose (']' :: r) = ']' :: r := by
    rw [plain]
    rfl
  rw [readBracket, plain, readOpening_sign (first (.inl rfl)) (first (.inr (.inl rfl)))
    (first (.inr (.inr rfl)))]
  dsimp only
  rw [readBrackets_items plain unicode cased, readBrackets_eq_bind, closing, readBracketToken,
    Option.bind_some, OpenBrackets.after, OpenBrackets.next?, OpenBracket.close?,
    finishSet?_of_not_ignoreCase unicode cased]
  rfl

theorem depth_itemsSet_le (negated : Bool) (items : List ClassItem) :
    (itemsSet negated items).depth ≤ 2 := by
  have flat (u : ItemUnion) (shallow : u.depth = 0) : (u.addAll items).depth = 0 := by
    induction items generalizing u with
    | nil => exact shallow
    | cons item items ih => exact ih _ (by simp [ItemUnion.add, shallow])
  have union : (ItemUnion.addAll {} items).close.depth ≤ 1 := by
    rw [ItemUnion.close, flat {} rfl]
    dsimp only
    split <;> omega
  exact Nat.succ_le_succ union

/-! ## Reading the pattern -/

def classText (negated : Bool) (items : List ClassItem) : List Char :=
  '\\' :: 'A' :: '[' :: (sign negated ++ (items.flatMap ClassItem.written ++ [']', '\\', 'z']))

theorem asciiClasses_classSource (negated : Bool) (items : List ClassItem) :
    asciiClasses false 0 (classSource negated items).toList = classText negated items := by
  have signed : asciiClasses false 1 (sign negated ++ (items.flatMap ClassItem.text ++
      [']', '\\', 'z'])) = sign negated ++ asciiClasses false 1 (items.flatMap ClassItem.text ++
      [']', '\\', 'z']) := by
    cases negated <;> rfl
  have start : asciiClasses false 0 (classSource negated items).toList =
      '\\' :: 'A' :: '[' :: asciiClasses false 1 (sign negated ++ (items.flatMap ClassItem.text ++
        [']', '\\', 'z'])) := by
    rw [classSource, String.toList_ofList, List.append_assoc]
    rfl
  rw [start, signed, asciiClasses_items]
  rfl

theorem read_classText (plain : mode.verbose = false) (unicode : mode.unicode = true)
    (cased : mode.ignoreCase = false) (negated : Bool) {items : List ClassItem}
    (nonempty : items ≠ []) (r : List Char) :
    ∃ s : Reader, (Reader.start mode).read (classText negated items ++ r) = s.read r ∧
      s.mode = mode ∧ s.outer = [] ∧
      s.inner.close = ⟨.seq (.ask .textStart)
        (.seq (.take (itemsSet negated items).value) (.ask .textEnd)),
          (itemsSet negated items).depth + 1⟩ := by
  have text : classText negated items ++ r = '\\' :: 'A' :: '[' :: (sign negated ++
      (items.flatMap ClassItem.written ++ ']' :: '\\' :: 'z' :: r)) := by
    simp [classText]
  have stop : readToken mode ('\\' :: 'z' :: r) = some (.tree ⟨.ask .textEnd, 0⟩, r) := rfl
  have cls := readBracket_items plain unicode cased negated nonempty ('\\' :: 'z' :: r)
  have stopped := (read_class plain cls).trans (read_of_plain plain stop rfl)
  refine ⟨_, text ▸ stopped, rfl, rfl, ?_⟩
  simp [readerAfter, OpenGroup.add, OpenGroup.close, sequence, Part.depth, Part.tree?, Node.seqAll]

end

/-! ## Membership -/

theorem contains_addAll {u : ItemUnion} (fresh : u.count = 0 → u.set = .empty)
    (items : List ClassItem) (code : Nat) :
    (u.addAll items).set.contains code = true ↔
      u.set.contains code = true ∨ ∃ item ∈ items, item.set.contains code = true := by
  induction items generalizing u with
  | nil => simp [ItemUnion.addAll]
  | cons item items ih =>
      have added : (u.add ⟨item.set, 0⟩).set.contains code = true ↔
          u.set.contains code = true ∨ item.set.contains code = true := by
        rw [ItemUnion.add]
        by_cases first : u.count = 0
        · simp [first, fresh first, CharSet.empty, CharSet.contains, CodeRanges.contains]
        · simp [first, CharSet.contains]
      have rest : ((u.add ⟨item.set, 0⟩).addAll items).set.contains code = true ↔ _ :=
        ih (fun none => absurd none (Nat.succ_ne_zero _))
      rw [ItemUnion.addAll, List.foldl_cons]
      refine rest.trans ?_
      rw [added, or_assoc, List.exists_mem_cons_iff]

theorem contains_single {c d : Char} : (CharSet.single d).contains c.toNat = true ↔ c = d := by
  rw [← Char.toNat_inj]
  simp [CharSet.single, CharSet.contains, CodeRanges.contains]
  omega

theorem ClassItem.contains_set (item : ClassItem) (c : Char) :
    item.set.contains c.toNat = true ↔ item.Takes c := by
  have digit : (CharSet.ranges [(48, 57)]).contains c.toNat = c.isDigit := by
    rw [Bool.eq_iff_iff, isDigit_iff]
    simp [CharSet.contains, CodeRanges.contains]
  have word : (CharSet.ranges asciiWord).contains c.toNat = (c.isAlphanum || c == '_') := by
    rw [Bool.eq_iff_iff, CharSet.contains, contains_asciiWord_iff]
    simp
  have others (s : CharSet) : (CharSet.compl s).contains c.toNat = !s.contains c.toNat := rfl
  cases item with
  | digit negated => cases negated <;> simp [set, Takes, others, digit]
  | word negated => cases negated <;> simp [set, Takes, others, word]
  | _ => exact contains_single

theorem contains_itemsSet (items : List ClassItem) (c : Char) :
    ((itemsSet false items).value.contains c.toNat = true ↔ ∃ item ∈ items, item.Takes c) ∧
      ((itemsSet true items).value.contains c.toNat = true ↔ ¬∃ item ∈ items, item.Takes c) := by
  have union : (ItemUnion.addAll {} items).set.contains c.toNat = true ↔
      ∃ item ∈ items, item.Takes c := by
    rw [contains_addAll (fun _ => rfl)]
    simp [CharSet.empty, CharSet.contains, CodeRanges.contains, ClassItem.contains_set]
  refine ⟨union, ?_⟩
  rw [← union]
  simp [itemsSet, CharSet.contains]

/-! ## Room -/

theorem ClassItem.borders_set (item : ClassItem) : ∀ code ∈ borders item.set, code ≤ 128 := by
  cases item with
  | alphanum c alphanum => 
      have word := contains_asciiWord.1 (contains_asciiWord_iff.2 (.inl alphanum))
      simp [set, CharSet.single, borders]
      omega
  | digit negated => cases negated <;> decide
  | word negated => cases negated <;> decide
  | _ => decide

theorem borders_addAll {u : ItemUnion} (within : ∀ code ∈ borders u.set, code ≤ 128)
    (items : List ClassItem) : ∀ code ∈ borders (u.addAll items).set, code ≤ 128 := by
  induction items generalizing u with
  | nil => exact within
  | cons item items ih =>
      refine ih fun code (member : code ∈ borders
        (if u.count = 0 then item.set else .union u.set item.set)) => ?_
      by_cases first : u.count = 0
      · rw [if_pos first] at member
        exact item.borders_set code member
      · rw [if_neg first] at member
        rcases List.mem_append.1 member with before | own
        · exact within code before
        · exact item.borders_set code own

theorem rangeCount_itemsSet_le (negated : Bool) (items : List ClassItem) :
    rangeCount (itemsSet negated items).value ≤ 2 * (128 + 1) := by
  have union := borders_addAll (u := {}) (by decide) items
  refine rangeCount_le fun code member => ?_
  cases negated with
  | false => exact union code member
  | true =>
      rcases List.mem_cons.1 member with rfl | inside
      · exact Nat.zero_le _
      · exact union code inside

/-! ## Matching -/

theorem spans_single {set : CharSet} {c : Char} :
    (∃ j, Tree.Spans [c] (.seq (.take set) (.ask .textEnd)) 0 j) ↔
      set.contains c.toNat = true := by
  constructor
  · rintro ⟨j, k, ⟨d, there, member, -⟩, -⟩
    obtain rfl : c = d := by simpa using there
    exact member
  · intro member
    exact ⟨1, 1, ⟨c, rfl, member, rfl⟩, Nat.le_refl _, rfl, rfl⟩

theorem build_classSource {letters : String} {flags : List Flag}
    (accepted : canonical letters = .ok flags) (cased : flags.contains ignoreCase = false)
    (flat : flags.contains unicodeSets = false) (negated : Bool) {items : List ClassItem}
    (nonempty : items ≠ []) :
    ∃ p, build (classSource negated items) letters = .ok p ∧ ∀ c : Char,
      p.isMatch (String.singleton c) = true ↔
        (itemsSet negated items).value.contains c.toNat = true := by
  have written : asciiClasses (flags.contains unicodeSets) 0 (classSource negated items).toList =
      classText negated items := by
    rw [flat, asciiClasses_classSource]
  have reads : readNested (modeOf flags) (classText negated items) = some _ ∧ _ :=
    readNested_of_read rfl (read_classText rfl rfl cased negated nonempty)
  have shallow : (itemsSet negated items).depth + 1 + 2 ≤ depthLimit := by
    have := depth_itemsSet_le negated items
    simp only [depthLimit]
    omega
  have room : Tree.footprint (.seq (.take (itemsSet negated items).value) (.ask .textEnd)) +
      stateRoom + stateRoom ≤ Tree.roomLimit := by
    have whole : Tree.footprint (.seq (.take (itemsSet negated items).value) (.ask .textEnd)) =
      Tree.footprint (.take (itemsSet negated items).value) + stateRoom := rfl
    have taken := footprint_take_le (itemsSet negated items).value
    have few := rangeCount_itemsSet_le negated items
    simp only [stateRoom, Tree.roomLimit] at whole taken ⊢
    omega
  obtain ⟨p, built, takes⟩ := build_of_readNested accepted written reads.1 reads.2 shallow room
  refine ⟨p, built, fun c => ?_⟩
  rw [takes, String.toList_singleton, spans_single]

theorem build_bracketClass {letters : String} (accepted : ∀ c ∈ letters.toList, c ∈ "dgmsuy".toList)
    (distinct : letters.toList.Nodup) {items : List ClassItem} (nonempty : items ≠ []) :
    ∃ p q : Pattern, build (classSource false items) letters = .ok p ∧
      build (classSource true items) letters = .ok q ∧ ∀ c : Char,
        (p.isMatch (String.singleton c) = true ↔ ∃ item ∈ items, item.Takes c) ∧
        (q.isMatch (String.singleton c) = true ↔ ¬∃ item ∈ items, item.Takes c) := by
  have wider (c : Char) (member : c ∈ letters.toList) : c ∈ "dgimsuvy".toList := by
    have narrow := accepted c member
    simp at narrow ⊢
    tauto
  obtain ⟨given, rfl, once⟩ := exists_toText wider distinct
  have absent (flag : Flag) (other : flag.letter ∉ "dgmsuy".toList) :
      (all.filter (· ∈ given)).contains flag = false := by
    rw [Bool.eq_false_iff, Ne, contains_canonical, ← letter_mem_toText]
    exact fun member => other (accepted _ member)
  have flags := canonical_toText once
  have cased := absent ignoreCase (by decide)
  have flat := absent unicodeSets (by decide)
  obtain ⟨p, builtP, takesP⟩ := build_classSource flags cased flat false nonempty
  obtain ⟨q, builtQ, takesQ⟩ := build_classSource flags cased flat true nonempty
  refine ⟨p, q, builtP, builtQ, fun c => ?_⟩
  rw [takesP, takesQ]
  exact contains_itemsSet items c

theorem build_bracketClass_open :
    (∀ c ∈ "my".toList, c ∈ "dgmsuy".toList) ∧ "my".toList.Nodup ∧
    ∃ p q : Pattern, build "\\A[x[\\D\\]]\\z" "my" = .ok p ∧
      build "\\A[^x[\\D\\]]\\z" "my" = .ok q ∧ p.isMatch "[" = true ∧ ¬p.isMatch "7" = true ∧
      q.isMatch "7" = true ∧ ¬q.isMatch "]" = true := by
  have accepted : ∀ c ∈ "my".toList, c ∈ "dgmsuy".toList := by simp
  have distinct : "my".toList.Nodup := by decide
  let items : List ClassItem := [.alphanum 'x' rfl, .bracket, .digit true, .escapedClosing]
  obtain ⟨p, q, builtP, builtQ, takes⟩ :=
    build_bracketClass accepted distinct (List.cons_ne_nil _ _ : items ≠ [])
  have digit : ¬∃ item ∈ items, item.Takes '7' := by simp [items, ClassItem.Takes]
  refine ⟨accepted, distinct, p, q, builtP, builtQ, ?_, ?_, ?_, ?_⟩
  · exact (takes '[').1.2 ⟨.bracket, by simp, rfl⟩
  · exact fun taken => digit ((takes '7').1.1 taken)
  · exact (takes '7').2.2 digit
  · exact fun taken => (takes ']').2.1 taken ⟨.escapedClosing, by simp, rfl⟩

end ShapeCheck.Pattern
