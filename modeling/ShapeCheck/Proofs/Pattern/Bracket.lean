import ShapeCheck.Pattern.Bracket
import ShapeCheck.Proofs.Pattern.Lexical

namespace ShapeCheck.Pattern

theorem local_readDashes (verbose : Bool) (items : ItemUnion) :
    Local fun cs => some (readDashes verbose items cs) := by
  refine .total (readDashes_le verbose items) fun cs => ?_
  fun_induction readDashes verbose items cs with
  | case1 items =>
      rw [List.nil_append, readDashes, if_neg (by decide)]
      exact .keeps items []
  | case2 items rest ih =>
      rw [List.cons_append, readDashes, if_pos rfl]
      refine .skip (fun cs => some (readDashes verbose _ cs)) (fun h => ?_) ih
      rw [readDashes] at h
      cases h
      rfl
  | case3 items c rest noDash =>
      rw [List.cons_append, readDashes, if_neg noDash]
      exact .keeps items (c :: rest)

theorem local_readSign (verbose : Bool) : Local fun cs => some (readSign verbose cs) := by
  refine .total (readSign_le verbose) fun cs => ?_
  fun_cases readSign verbose cs with
  | case1 rest => exact (local_skip verbose _).follows rest
  | case2 cs other =>
      rw [readSign.eq_2 _ _ (not_head_append ['^'] other (by decide))]
      exact .keeps false cs

theorem local_readFirstClosing (verbose : Bool) (items : ItemUnion) :
    Local fun cs => some (readFirstClosing verbose items cs) := by
  refine .total (readFirstClosing_le verbose items) fun cs => ?_
  fun_cases readFirstClosing verbose items cs with
  | case1 rest first =>
      rw [List.cons_append, readFirstClosing, if_pos first]
      exact (local_skip verbose _).follows rest
  | case2 rest notFirst =>
      rw [List.cons_append, readFirstClosing, if_neg notFirst]
      exact .keeps items (']' :: rest)
  | case3 cs other =>
      rw [readFirstClosing.eq_2 _ _ _ (not_head_append [']'] other (by decide))]
      exact .keeps items cs

theorem local_readOpening (verbose : Bool) :
    Local fun cs => some (readOpening verbose cs) := by
  show Local fun cs => (some (readSign verbose (skip verbose cs))).bind fun sign =>
    (some (readDashes verbose {} sign.2)).bind fun dashes =>
      (some (readFirstClosing verbose dashes.1 dashes.2)).bind fun items =>
        some (({ negated := sign.1, items := items.1 } : OpenBracket), items.2)
  refine ((local_readSign verbose).skip verbose).bind fun negated => ?_
  dsimp only
  refine (local_readDashes verbose {}).bind fun dashes => ?_
  dsimp only
  exact (local_readFirstClosing verbose dashes).bind fun items =>
    .pure ({ negated := negated, items := items } : OpenBracket)

theorem readAsciiName_append (negated : Bool) (cs : List Char) :
    readAsciiName negated (cs ++ [')']) =
      (readAsciiName negated cs).map fun (negated, ranges, r) => (negated, ranges, r ++ [')']) := by
  simp only [readAsciiName]
  cases dropped : cs.dropWhile (· != ':') with
  | nil =>
      rw [List.dropWhile_append, if_pos (by rw [dropped]; rfl)]
      rfl
  | cons c rest =>
      have whole := congrArg List.length (List.takeWhile_append_dropWhile (p := (· != ':')) (l := cs))
      rw [dropped, List.length_append, List.length_cons] at whole
      rw [List.dropWhile_append, if_neg (by simp [dropped]), dropped, List.takeWhile_append,
        if_neg (by omega)]
      cases rest with
      | nil => split <;> simp_all
      | cons d r =>
          by_cases closes : c = ':' ∧ d = ']'
          · obtain ⟨rfl, rfl⟩ := closes
            simp [Function.comp_def]
          · split <;> simp_all

theorem readAsciiClass_append (cs : List Char) :
    readAsciiClass (cs ++ [')']) =
      (readAsciiClass cs).map fun (negated, ranges, r) => (negated, ranges, r ++ [')']) := by
  fun_cases readAsciiClass cs with
  | case1 rest => exact readAsciiName_append true rest
  | case2 rest other =>
      rw [List.cons_append, readAsciiClass.eq_2 _ (not_head_append ['^'] other (by decide))]
      exact readAsciiName_append false rest
  | case3 cs notNegated other =>
      have other' := not_head_append [':'] other (by decide)
      rw [readAsciiClass.eq_3 _ (fun rest => other' ('^' :: rest)) other']
      rfl

theorem local_readInnerBracket (verbose : Bool) :
    Local fun cs => some (readInnerBracket verbose cs) := by
  refine .total (readInnerBracket_le verbose) fun cs => ?_
  simp only [readInnerBracket, readAsciiClass_append]
  cases readAsciiClass cs with
  | none => exact ((local_readOpening verbose).follows cs).map BracketToken.opening
  | some x => exact .keeps _ _

theorem local_readItem (verbose : Bool) : Local (readItem verbose) where
  le h := Nat.le_of_lt (readItem_lt h)
  follows cs := by
    cases cs with
    | nil => exact .completes _
    | cons c rest =>
        simp only [List.cons_append, readItem]
        split
        · exact (local_readEscape verbose).follows rest
        · exact .keeps _ rest

theorem head?_not_ends {cs : List Char}
    (h : cs.dropWhile isBlank = [] ∨ ∃ rest, cs.dropWhile isBlank = '#' :: rest) :
    (cs.head? == some ']' || cs.head? == some '-') = false := by
  have closing : isBlank ']' = false := by decide
  have dash : isBlank '-' = false := by decide
  cases cs with
  | nil => rfl
  | cons c rest =>
      refine Bool.or_eq_false_iff.2 ⟨?_, ?_⟩
      · refine beq_eq_false_iff_ne.2 fun eq => ?_
        cases eq
        simp [closing] at h
      · refine beq_eq_false_iff_ne.2 fun eq => ?_
        cases eq
        simp [dash] at h

theorem endsItem_append (verbose : Bool) (cs : List Char) :
    endsItem verbose (cs ++ [')']) = endsItem verbose cs := by
  cases verbose with
  | false => cases cs <;> rfl
  | true =>
      -- A `)` is the next character only where there was none, and neither ends an item.
      simp only [endsItem, nextVisible, if_true, dropWhile_isBlank_append]
      cases dropped : cs.dropWhile isBlank with
      | nil => exact (head?_not_ends (.inl dropped)).symm
      | cons c rest =>
          by_cases comment : c = '#'
          · subst comment
            simp only [List.cons_append, dropWhile_isBlank_append]
            cases rest.dropWhile isBlank with
            | nil => exact (head?_not_ends (.inr ⟨rest, dropped⟩)).symm
            | cons => rfl
          · simp

theorem local_itemAlone (mode : Mode) (item : Primitive) : Local (itemAlone mode item) :=
  .map_option (item.set? mode) fun set => set

theorem local_readRangeEnd (mode : Mode) (first : Primitive) :
    Local (readRangeEnd mode first) where
  le := readRangeEnd_le
  follows cs := by
    fun_cases readRangeEnd mode first cs with
    | case1 rest ends =>
        rw [List.cons_append, readRangeEnd, if_pos (by rw [endsItem_append, ends])]
        exact (local_itemAlone mode first).follows _
    | case2 rest goesOn =>
        rw [List.cons_append, readRangeEnd, if_neg (by rwa [endsItem_append])]
        exact (((local_readItem mode.verbose).skip mode.verbose).follows rest).bind
          fun last => .map_option (rangeOf? mode first last) _
    | case3 cs other =>
        rw [readRangeEnd.eq_2 _ _ _ (not_head_append ['-'] other (by decide))]
        exact (local_itemAlone mode first).follows cs

theorem local_readRange (mode : Mode) : Local (readRange mode) :=
  (local_readItem mode.verbose).bind fun first =>
    (local_readRangeEnd mode first).skip mode.verbose

theorem readOperation_append (cs : List Char) :
    readOperation (cs ++ [')']) =
      (readOperation cs).map fun (operation, r) => (operation, r ++ [')']) := by
  fun_cases readOperation cs with
  | case1 => rfl
  | case2 => rfl
  | case3 => rfl
  | case4 cs notAnd notMinus notTilde =>
      rw [readOperation.eq_4 _ (not_head_append ['&', '&'] notAnd (by decide))
        (not_head_append ['-', '-'] notMinus (by decide))
        (not_head_append ['~', '~'] notTilde (by decide))]
      rfl

theorem local_readBracketToken (mode : Mode) : Local (readBracketToken mode) where
  le h := Nat.le_of_lt (readBracketToken_lt h)
  follows cs := by
    fun_cases readBracketToken mode cs with
    | case1 rest => exact (local_readInnerBracket mode.verbose).follows rest
    | case2 rest => exact .keeps BracketToken.closing rest
    | case3 cs operation r read notOpening notClosing =>
        rw [readBracketToken.eq_3 _ _ (not_head_append ['['] notOpening (by decide))
          (not_head_append [']'] notClosing (by decide)), readOperation_append, read]
        exact .keeps _ _
    | case4 cs read notOpening notClosing =>
        rw [readBracketToken.eq_3 _ _ (not_head_append ['['] notOpening (by decide))
          (not_head_append [']'] notClosing (by decide)), readOperation_append, read]
        exact ((local_readRange mode).follows cs).map BracketToken.range

def OpenBrackets.after (mode : Mode) (b : OpenBrackets) (x : BracketToken × List Char) :
    Option (Nested Unicode.CharSet × List Char) :=
  match b.next? mode x.1 with
  | none => none
  | some (.inr set) => some (set, x.2)
  | some (.inl b') => readBrackets mode b' x.2

theorem readBrackets_eq_bind (mode : Mode) (b : OpenBrackets) (cs : List Char) :
    readBrackets mode b cs =
      (readBracketToken mode (skip mode.verbose cs)).bind (b.after mode) := by
  rw [readBrackets]
  split
  next read =>
    rw [read]
    rfl
  next read =>
    rw [read]
    rfl

theorem local_readBrackets (mode : Mode) (b : OpenBrackets) : Local (readBrackets mode b) where
  le h := Nat.le_of_lt (readBrackets_lt h)
  follows cs := by
    induction size : cs.length using Nat.strongRecOn generalizing b cs with
    | _ n ih =>
        rw [readBrackets_eq_bind, readBrackets_eq_bind]
        refine (((local_readBracketToken mode).skip mode.verbose).follows cs).bind_of ?_ ?_
        · intro token set r read
          simp only [OpenBrackets.after] at read
          split at read
          · cases read
          · cases read
            rfl
          · exact eq_nil_of_le (Nat.le_of_lt (readBrackets_lt read))
        · intro token r read
          have shorter : r.length < cs.length :=
            Nat.lt_of_lt_of_le (readBracketToken_lt read) (length_skip_le _ _)
          simp only [OpenBrackets.after]
          split
          · exact .fails
          · exact .keeps _ r
          · exact ih r.length (size ▸ shorter) _ r rfl

theorem local_readBracket (mode : Mode) : Local (readBracket mode) := by
  show Local fun cs => (some (readOpening mode.verbose cs)).bind fun opening =>
    readBrackets mode { inner := opening.1 } opening.2
  exact (local_readOpening mode.verbose).bind fun bracket =>
    local_readBrackets mode { inner := bracket }

end ShapeCheck.Pattern
