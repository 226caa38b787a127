import ShapeCheck.Proofs.Pattern.Local

namespace ShapeCheck.Pattern

theorem local_readHexDigits (verbose : Bool) (value count : Nat) :
    Local (readHexDigits verbose value count) where
  le := readHexDigits_le
  follows cs := by
    fun_induction readHexDigits verbose value count cs with
    | case1 value cs => exact .keeps value cs
    | case2 => exact .fails
    | case3 value count c rest noDigit =>
        simp only [List.cons_append, readHexDigits, noDigit]
        exact .fails
    | case4 value count c rest d digit ih =>
        simp only [List.cons_append, readHexDigits, digit]
        exact .skip _ (fun h => eq_nil_of_le (readHexDigits_le h)) ih

theorem local_readHexBrace (verbose any : Bool) (value : Nat) :
    Local (readHexBrace verbose any value) where
  le h := Nat.le_of_lt (readHexBrace_lt h)
  follows cs := by
    fun_induction readHexBrace verbose any value cs with
    | case1 =>
        simp only [List.nil_append, readHexBrace]
        exact .fails
    | case2 value rest =>
        simp only [List.cons_append, readHexBrace, if_true]
        exact (local_skip verbose value).follows rest
    | case3 any value rest notAny =>
        simp only [List.cons_append, readHexBrace, if_true, notAny]
        exact .fails
    | case4 any value c rest notEnd noDigit =>
        simp only [List.cons_append, readHexBrace, notEnd, if_false, noDigit]
        exact .fails
    | case5 any value c rest notEnd d digit ih =>
        simp only [List.cons_append, readHexBrace, notEnd, if_false, digit]
        exact .skip _ (fun h => eq_nil_of_le (Nat.le_of_lt (readHexBrace_lt h))) ih

theorem local_readDecimal (verbose : Bool) (value : Option Nat) :
    Local fun cs => some (readDecimal verbose value cs) := by
  refine .total (readDecimal_le verbose value) fun cs => ?_
  fun_induction readDecimal verbose value cs with
  | case1 value =>
      rw [List.nil_append, readDecimal, if_neg (by decide)]
      exact .keeps value []
  | case2 value c rest digit ih =>
      rw [List.cons_append, readDecimal, if_pos digit]
      refine .skip (fun cs => some (readDecimal verbose _ cs)) (fun h => ?_) ih
      rw [readDecimal] at h
      cases h
      rfl
  | case3 value c rest noDigit =>
      rw [List.cons_append, readDecimal, if_neg noDigit]
      exact .keeps value (c :: rest)

theorem local_readBraced (verbose : Bool) (read : List Char) :
    Local (readBraced verbose read) where
  le h := Nat.le_of_lt (readBraced_lt h)
  follows cs := by
    fun_induction readBraced verbose read cs with
    | case1 read =>
        rw [List.nil_append, readBraced, if_neg (by decide), skip_nil, readBraced]
        exact .fails
    | case2 read rest =>
        simp only [List.cons_append, readBraced, if_true]
        exact .keeps read.reverse rest
    | case3 read c rest notEnd ih =>
        simp only [List.cons_append, readBraced, notEnd, if_false]
        exact .skip _ (fun h => eq_nil_of_le (Nat.le_of_lt (readBraced_lt h))) ih

theorem local_readCode (verbose : Bool) (digits : Nat) : Local (readCode verbose digits) where
  le := readCode_le
  follows cs := by
    fun_cases readCode verbose digits cs with
    | case1 rest =>
        exact (((local_readHexBrace verbose false 0).skip verbose).follows rest).bind
          fun code => .map_option (charOfCode? code) _
    | case2 cs other =>
        rw [readCode.eq_2 _ _ _ (not_head_append ['\x7b'] other (by decide))]
        exact ((local_readHexDigits verbose 0 digits).follows cs).bind
          fun code => .map_option (charOfCode? code) _

theorem local_readProperty (verbose negated : Bool) : Local (readProperty verbose negated) where
  le := readProperty_le
  follows cs := by
    cases cs with
    | nil =>
        simp only [List.nil_append, readProperty, skip_nil]
        exact .completes _
    | cons c rest =>
        simp only [List.cons_append, readProperty]
        split
        · exact (((local_readBraced verbose []).skip verbose).follows rest).map
            fun text => Primitive.property (propertyText? text) negated
        · split
          · exact .fails
          · exact (local_skip verbose _).follows rest

theorem local_readEscape (verbose : Bool) : Local (readEscape verbose) where
  le h := Nat.le_of_lt (readEscape_lt h)
  follows cs := by
    cases cs with
    | nil => exact .completes _
    | cons c rest =>
        simp only [List.cons_append, readEscape]
        split
        · exact ((local_readCode verbose 2).skip verbose).follows rest
        split
        · exact ((local_readCode verbose 4).skip verbose).follows rest
        split
        · exact ((local_readCode verbose 8).skip verbose).follows rest
        split
        · exact ((local_readProperty verbose false).skip verbose).follows rest
        split
        · exact ((local_readProperty verbose true).skip verbose).follows rest
        split
        · exact .keeps _ rest
        · exact (Local.map_option (letterEscape? c) fun p => p).follows rest

theorem local_readPrimitive (verbose : Bool) : Local (readPrimitive verbose) where
  le h := Nat.le_of_lt (readPrimitive_lt h)
  follows cs := by
    cases cs with
    | nil => exact .completes _
    | cons c rest =>
        simp only [List.cons_append, readPrimitive]
        split
        · exact (local_readEscape verbose).follows rest
        · exact .keeps _ rest

end ShapeCheck.Pattern
