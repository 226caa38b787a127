import ShapeCheck.Pattern.Reading
import ShapeCheck.Proofs.Pattern.Bracket

namespace ShapeCheck.Pattern

theorem dropLazyMark_append (cs : List Char) :
    dropLazyMark (cs ++ [')']) = dropLazyMark cs ++ [')'] := by
  fun_cases dropLazyMark cs with
  | case1 => rfl
  | case2 cs other => rw [dropLazyMark.eq_2 _ (not_head_append ['?'] other (by decide))]

theorem local_dropLazyMark {α : Type} (a : α) : Local fun cs => some (a, dropLazyMark cs) where
  le h := by
    cases h
    exact length_dropLazyMark_le _
  follows cs := by
    rw [dropLazyMark_append]
    exact .keeps a _

theorem local_dropWhile_isBlank {α : Type} (a : α) :
    Local fun cs => some (a, cs.dropWhile isBlank) where
  le h := by
    cases h
    exact (List.dropWhile_suffix _).length_le
  follows cs := by
    rw [dropWhile_isBlank_append]
    exact .keeps a _

theorem local_readCount (verbose : Bool) : Local fun cs => some (readCount verbose cs) := by
  show Local fun cs => (some ((), cs.dropWhile isBlank)).bind fun start =>
    (some (readDecimal verbose none start.2)).bind fun number =>
      some (number.1, number.2.dropWhile isBlank)
  refine (local_dropWhile_isBlank ()).bind fun _ => ?_
  dsimp only
  exact (local_readDecimal verbose none).bind fun n => local_dropWhile_isBlank n

theorem local_finishCounts (verbose : Bool) (counts : Counts) :
    Local (finishCounts verbose counts) where
  le := finishCounts_le
  follows cs := by
    fun_cases finishCounts verbose counts cs with
    | case1 rest =>
        rw [List.cons_append, finishCounts]
        cases checkCounts? counts with
        | none => exact .fails
        | some counts => exact ((local_dropLazyMark counts).skip verbose).follows rest
    | case2 cs other =>
        rw [finishCounts.eq_2 _ _ _ (not_head_append ['\x7d'] other (by decide))]
        exact .fails

theorem local_readMost (verbose : Bool) (least : Nat) : Local (readMost verbose least) where
  le := readMost_le
  follows cs := by
    have number : Local fun cs => (some (readCount verbose cs)).bind fun counted =>
        counted.1.bind fun m => finishCounts verbose (least, some m) counted.2 :=
      (local_readCount verbose).bind fun most =>
        .bind_option most fun m => local_finishCounts verbose (least, some m)
    fun_cases readMost verbose least cs with
    | case1 rest => exact (local_finishCounts verbose (least, none)).follows ('\x7d' :: rest)
    | case2 cs most r counted other =>
        rw [readMost.eq_2 _ _ _ (not_head_append ['\x7d'] other (by decide))]
        exact number.follows cs

theorem local_readAfterLeast (verbose : Bool) (least : Nat) :
    Local (readAfterLeast verbose least) where
  le := readAfterLeast_le
  follows cs := by
    fun_cases readAfterLeast verbose least cs with
    | case1 rest => exact ((local_readMost verbose least).skip verbose).follows rest
    | case2 cs other =>
        rw [readAfterLeast.eq_2 _ _ _ (not_head_append [','] other (by decide))]
        exact (local_finishCounts verbose (least, some least)).follows cs

theorem local_readCounts (verbose : Bool) : Local (readCounts verbose) := by
  show Local fun cs => (some (readCount verbose (skip verbose cs))).bind fun counted =>
    counted.1.bind fun n => readAfterLeast verbose n counted.2
  exact ((local_readCount verbose).skip verbose).bind fun least =>
    .bind_option least fun n => local_readAfterLeast verbose n

theorem local_readName (name : List Char) : Local (readName name) where
  le h := Nat.le_of_lt (readName_lt h)
  follows cs := by
    fun_induction readName name cs with
    | case1 name =>
        rw [List.nil_append, readName, if_neg (by decide), readName, ite_self]
        exact .fails
    | case2 name rest empty =>
        rw [List.cons_append, readName, if_pos rfl, if_pos empty]
        exact .fails
    | case3 name rest notEmpty =>
        rw [List.cons_append, readName, if_pos rfl, if_neg notEmpty]
        exact .keeps name.reverse rest
    | case4 name c rest notEnd allowed ih =>
        rw [List.cons_append, readName, if_neg notEnd, if_pos allowed]
        exact ih
    | case5 name c rest notEnd notAllowed =>
        rw [List.cons_append, readName, if_neg notEnd, if_neg notAllowed]
        exact .fails

theorem local_readNamed (mode : Mode) : Local (readNamed mode) where
  le h := Nat.le_of_lt (readNamed_lt h)
  follows cs := ((local_readName []).follows cs).map fun name => GroupHead.group mode (some name)

theorem local_readSettings (mode : Mode) (seen : List Mode.Setting) (negated dangling : Bool) :
    Local (mode.readSettings seen negated dangling) where
  le h := Nat.le_of_lt (Mode.readSettings_lt h)
  follows cs := by
    fun_induction mode.readSettings seen negated dangling cs with
    | case1 mode seen negated dangling =>
        cases dangling with
        | true => exact .fails
        | false => exact .completes _
    | case2 => exact .fails
    | case3 mode seen negated dangling rest final =>
        rw [List.cons_append, Mode.readSettings, if_neg final]
        exact .keeps _ rest
    | case4 => exact .fails
    | case5 mode seen negated dangling rest final =>
        rw [List.cons_append, Mode.readSettings, if_neg final]
        exact .keeps _ rest
    | case6 => exact .fails
    | case7 mode seen negated dangling rest first ih =>
        rw [List.cons_append, Mode.readSettings, if_neg first]
        exact ih
    | case8 mode seen negated dangling c rest notEnd notBody notMinus unknown =>
        rw [List.cons_append, Mode.readSettings.eq_5 _ _ _ _ _ _ notEnd notBody notMinus, unknown]
        exact .fails
    | case9 mode seen negated dangling c rest notEnd notBody notMinus s known twice =>
        rw [List.cons_append, Mode.readSettings.eq_5 _ _ _ _ _ _ notEnd notBody notMinus, known]
        simp only [twice, if_true]
        exact .fails
    | case10 mode seen negated dangling c rest notEnd notBody notMinus s known once ih =>
        rw [List.cons_append, Mode.readSettings.eq_5 _ _ _ _ _ _ notEnd notBody notMinus, known]
        simp only [once]
        exact ih

theorem local_readSwitches (mode : Mode) : Local (readSwitches mode) :=
  (local_readSettings mode [] false false).bind fun settings =>
    .map_option (GroupHead.ofSettings? settings) fun head => head

theorem local_readMarked (mode : Mode) : Local (readMarked mode) where
  le h := Nat.le_of_lt (readMarked_lt h)
  follows cs := by
    fun_cases readMarked mode cs with
    | case1 rest => exact (local_readNamed mode).follows rest
    | case2 rest => exact (local_readNamed mode).follows rest
    | case3 cs notNamed notAngle =>
        rw [readMarked.eq_3 _ _ (not_head_append ['P', '<'] notNamed (by decide))
          (not_head_append ['<'] notAngle (by decide))]
        exact (local_readSwitches mode).follows cs

theorem local_readGroupHead (mode : Mode) : Local (readGroupHead mode) where
  le := readGroupHead_le
  follows cs := by
    fun_cases readGroupHead mode cs with
    | case1 rest => exact (local_readMarked mode).follows rest
    | case2 cs other =>
        rw [readGroupHead.eq_2 _ _ (not_head_append ['?'] other (by decide))]
        exact .keeps _ cs

theorem local_readToken (mode : Mode) : Local (readToken mode) where
  le h := Nat.le_of_lt (readToken_lt h)
  follows cs := by
    fun_cases readToken mode cs with
    | case1 rest =>
        exact (((local_readGroupHead mode).skip mode.verbose).follows rest).map Token.head
    | case2 rest => exact .keeps Token.close rest
    | case3 rest => exact .keeps Token.branch rest
    | case4 rest =>
        exact ((local_readBracket mode).follows rest).map fun set =>
          Token.tree ⟨.take set.value, set.depth⟩
    | case5 rest => exact (local_dropLazyMark _).follows rest
    | case6 rest => exact (local_dropLazyMark _).follows rest
    | case7 rest => exact (local_dropLazyMark _).follows rest
    | case8 rest => exact ((local_readCounts mode.verbose).follows rest).map Token.repetition
    | case9 cs notOpen notClose notBranch notBracket notOptional notStar notPlus notBrace =>
        cases cs with
        | nil => exact .completes Token.close
        | cons c rest =>
            have other {d : Char} (h : ∀ r, c :: rest = d :: r → False) (r : List Char)
                (eq : c :: rest ++ [')'] = d :: r) : False :=
              h rest (congrArg (· :: rest) (List.cons.inj eq).1)
            rw [readToken.eq_9 _ _ (other notOpen) (other notClose) (other notBranch)
              (other notBracket) (other notOptional) (other notStar) (other notPlus)
              (other notBrace)]
            exact ((local_readPrimitive mode.verbose).follows _).bind fun primitive =>
              .map_option (primitive.tree? mode) _

end ShapeCheck.Pattern
