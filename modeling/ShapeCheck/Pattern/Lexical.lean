import ShapeCheck.Pattern.Matching
import ShapeCheck.Pattern.Mode
import ShapeCheck.Unicode.Script

namespace ShapeCheck.Pattern

open Unicode

/-! ## Blanks -/

def isBlank (c : Char) : Bool :=
  Property.whiteSpace.contains c.toNat

def dropBlanks (inComment : Bool) : List Char → List Char
  | [] => []
  | c :: rest =>
    if inComment then dropBlanks (c != '\n') rest
    else if isBlank c then dropBlanks false rest
    else if c = '#' then dropBlanks true rest
    else c :: rest

theorem length_dropBlanks_le (inComment : Bool) (cs : List Char) :
    (dropBlanks inComment cs).length ≤ cs.length := by
  induction cs generalizing inComment with
  | nil => simp [dropBlanks]
  | cons c rest ih =>
      simp only [dropBlanks]
      split
      · exact Nat.le_succ_of_le (ih _)
      · split
        · exact Nat.le_succ_of_le (ih _)
        · split
          · exact Nat.le_succ_of_le (ih _)
          · simp

def skip (verbose : Bool) (cs : List Char) : List Char :=
  if verbose then dropBlanks false cs else cs

theorem length_skip_le (verbose : Bool) (cs : List Char) :
    (skip verbose cs).length ≤ cs.length := by
  unfold skip
  split
  · exact length_dropBlanks_le _ _
  · exact Nat.le_refl _

/-- The next character that is no blank, past the sign that opens a comment; the next character of
all if there is none. -/
def nextVisible (verbose : Bool) (cs : List Char) : Option Char :=
  if verbose then
    match cs.dropWhile isBlank with
    | '#' :: rest => ((rest.dropWhile isBlank).head?).or cs.head?
    | c :: _ => some c
    | [] => cs.head?
  else cs.head?

/-! ## Numbers -/

def charOfCode? (code : Nat) : Option Char :=
  if h : code.isValidChar then some (Char.ofNatAux code h) else none

def readHexDigits (verbose : Bool) (value : Nat) : Nat → List Char → Option (Nat × List Char)
  | 0, cs => some (value, cs)
  | _ + 1, [] => none
  | count + 1, c :: rest =>
    match Text.hexValue? c with
    | none => none
    | some d => readHexDigits verbose (value * 16 + d) count (skip verbose rest)

theorem readHexDigits_le {verbose : Bool} {value count n : Nat} {cs r : List Char}
    (h : readHexDigits verbose value count cs = some (n, r)) : r.length ≤ cs.length := by
  fun_induction readHexDigits verbose value count cs with
  | case1 => simp_all
  | case2 => cases h
  | case3 => cases h
  | case4 _ _ _ rest _ _ ih =>
      have := ih h
      have := length_skip_le verbose rest
      simp only [List.length_cons]
      omega

def readHexBrace (verbose any : Bool) (value : Nat) : List Char → Option (Nat × List Char)
  | [] => none
  | c :: rest =>
    if c = '}' then if any then some (value, skip verbose rest) else none
    else
      match Text.hexValue? c with
      | none => none
      | some d => readHexBrace verbose true (value * 16 + d) (skip verbose rest)
termination_by cs => cs.length
decreasing_by exact Nat.lt_succ_of_le (length_skip_le verbose rest)

theorem readHexBrace_lt {verbose any : Bool} {value n : Nat} {cs r : List Char}
    (h : readHexBrace verbose any value cs = some (n, r)) : r.length < cs.length := by
  fun_induction readHexBrace verbose any value cs with
  | case1 => cases h
  | case2 _ rest =>
      cases h
      exact Nat.lt_succ_of_le (length_skip_le verbose rest)
  | case3 => cases h
  | case4 => cases h
  | case5 _ _ _ rest _ _ _ ih =>
      exact Nat.lt_succ_of_le (Nat.le_trans (Nat.le_of_lt (ih h)) (length_skip_le verbose rest))

def readDecimal (verbose : Bool) (value : Option Nat) : List Char → Option Nat × List Char
  | [] => (value, [])
  | c :: rest =>
    if '0' ≤ c ∧ c ≤ '9' then
      readDecimal verbose (some (value.getD 0 * 10 + (c.toNat - '0'.toNat))) (skip verbose rest)
    else (value, c :: rest)
termination_by cs => cs.length
decreasing_by exact Nat.lt_succ_of_le (length_skip_le verbose rest)

theorem readDecimal_le (verbose : Bool) (value : Option Nat) (cs : List Char) :
    (readDecimal verbose value cs).2.length ≤ cs.length := by
  fun_induction readDecimal verbose value cs with
  | case1 => exact Nat.le_refl _
  | case2 _ _ rest _ ih =>
      have := length_skip_le verbose rest
      simp only [List.length_cons]
      omega
  | case3 => exact Nat.le_refl _

/-! ## Named classes -/

inductive LetterClass
  | digit
  | space
  | word
  deriving DecidableEq

def LetterClass.unicode : LetterClass → CharSet
  | .digit => categories [.decimalNumber]
  | .space => Property.whiteSpace
  | .word => unicodeWord

def asciiClass? : List Char → Option CodeRanges
  | ['a', 'l', 'n', 'u', 'm'] => some [(48, 57), (65, 90), (97, 122)]
  | ['a', 'l', 'p', 'h', 'a'] => some [(65, 90), (97, 122)]
  | ['a', 's', 'c', 'i', 'i'] => some [(0, 127)]
  | ['b', 'l', 'a', 'n', 'k'] => some [(9, 9), (32, 32)]
  | ['c', 'n', 't', 'r', 'l'] => some [(0, 31), (127, 127)]
  | ['d', 'i', 'g', 'i', 't'] => some [(48, 57)]
  | ['g', 'r', 'a', 'p', 'h'] => some [(33, 126)]
  | ['l', 'o', 'w', 'e', 'r'] => some [(97, 122)]
  | ['p', 'r', 'i', 'n', 't'] => some [(32, 126)]
  | ['p', 'u', 'n', 'c', 't'] => some [(33, 47), (58, 64), (91, 96), (123, 126)]
  | ['s', 'p', 'a', 'c', 'e'] => some [(9, 13), (32, 32)]
  | ['u', 'p', 'p', 'e', 'r'] => some [(65, 90)]
  | ['w', 'o', 'r', 'd'] => some asciiWord
  | ['x', 'd', 'i', 'g', 'i', 't'] => some [(48, 57), (65, 70), (97, 102)]
  | _ => none

def LetterClass.ascii : LetterClass → CharSet
  | .digit => .ranges [(48, 57)]
  | .space => .ranges [(9, 13), (32, 32)]
  | .word => .ranges asciiWord

/-! ## Properties -/

/-- A property name in normal form: ASCII in lower case without blanks, dashes and underscores, and
without a leading `is`, except that `isc` stays whole. -/
def normalName (name : List Char) : String :=
  let dropped := match name with
    | a :: b :: rest => if (a = 'i' ∨ a = 'I') ∧ (b = 's' ∨ b = 'S') then some rest else none
    | _ => none
  let fold (cs : List Char) : List Char :=
    (cs.filter fun c => c.toNat ≤ 127 && c != ' ' && c != '_' && c != '-').map Char.toLower
  match dropped with
  | none => String.ofList (fold name)
  | some rest => if fold rest = ['c'] then "isc" else String.ofList (fold rest)

def categoryNamed? (name : String) : Option CharSet :=
  if name = "any" then some (.compl .empty)
  else if name = "assigned" then some assigned
  else if name = "ascii" then some (.ranges [(0, 127)])
  else if name = "c" ∨ name = "other" then
    some (.compl (categories (Category.all.filter (· ∉ [.control, .format, .privateUse]))))
  else if name = "cn" ∨ name = "unassigned" then some (.compl assigned)
  else (Category.named? name).map categories

/-- The set under a name that stands alone: a property, a general category or a script. Three
names are those of categories although properties have them too. -/
def propertyNamed? (name : String) : Option CharSet :=
  let property := if name = "cf" ∨ name = "sc" ∨ name = "lc" then none else Property.named? name
  property.or ((categoryNamed? name).or
    ((Script.named? name).map fun s => .ranges s.ranges))

def propertyValue? (name value : String) : Option CharSet :=
  if name = "gc" ∨ name = "generalcategory" ∨ name = "category" then categoryNamed? value
  else if name = "sc" ∨ name = "script" then
    (Script.named? value).map fun s => .ranges s.ranges
  else if name = "scx" ∨ name = "scriptextensions" then
    (Script.named? value).map fun s =>
      .union (.diff (.ranges s.ranges) (.ranges s.given)) (.ranges s.shared)
  else none

def splitAtMark? (mark : List Char) (before : List Char) :
    List Char → Option (List Char × List Char)
  | [] => none
  | c :: rest =>
    if mark.isPrefixOf (c :: rest) then some (before.reverse, (c :: rest).drop mark.length)
    else splitAtMark? mark (c :: before) rest

def propertyText? (text : List Char) : Option CharSet :=
  match (splitAtMark? ['!', '='] [] text).or
      ((splitAtMark? [':'] [] text).or (splitAtMark? ['='] [] text)) with
  | some (name, value) => propertyValue? (normalName name) (normalName value)
  | none => propertyNamed? (normalName text)

def readBraced (verbose : Bool) (read : List Char) : List Char → Option (List Char × List Char)
  | [] => none
  | c :: rest =>
    if c = '}' then some (read.reverse, rest)
    else readBraced verbose (c :: read) (skip verbose rest)
termination_by cs => cs.length
decreasing_by exact Nat.lt_succ_of_le (length_skip_le verbose rest)

theorem readBraced_lt {verbose : Bool} {read text cs r : List Char}
    (h : readBraced verbose read cs = some (text, r)) : r.length < cs.length := by
  fun_induction readBraced verbose read cs with
  | case1 => cases h
  | case2 =>
      cases h
      exact Nat.lt_succ_self _
  | case3 _ _ rest _ ih =>
      exact Nat.lt_succ_of_le (Nat.le_trans (Nat.le_of_lt (ih h)) (length_skip_le verbose rest))

/-! ## Primitives -/

inductive Primitive
  /-- A character; `byte` tells that it was written as two hexadecimal digits. -/
  | character (c : Char) (byte : Bool)
  | letterClass (cls : LetterClass) (negated : Bool)
  | property (set : Option CharSet) (negated : Bool)
  | dot
  | lineStart
  | lineEnd
  | textStart
  | textEnd
  | wordBoundary
  | insideOrOutsideWord
  | wordStart
  | wordEnd

def isMeta (c : Char) : Bool :=
  ['\\', '.', '+', '*', '?', '(', ')', '|', '[', ']', '\x7b', '\x7d', '^', '$', '#', '&', '-',
    '~'].contains c

def isEscapable (c : Char) : Bool :=
  isMeta c || (c.toNat ≤ 127 && !c.isAlphanum && c != '<' && c != '>')

def letterEscape? : Char → Option Primitive
  | 'a' => some (.character '\x07' false)
  | 'f' => some (.character '\x0c' false)
  | 't' => some (.character '\t' false)
  | 'n' => some (.character '\n' false)
  | 'r' => some (.character '\r' false)
  | 'v' => some (.character '\x0b' false)
  | 'A' => some .textStart
  | 'z' => some .textEnd
  | 'b' => some .wordBoundary
  | 'B' => some .insideOrOutsideWord
  | '<' => some .wordStart
  | '>' => some .wordEnd
  | 'd' => some (.letterClass .digit false)
  | 's' => some (.letterClass .space false)
  | 'w' => some (.letterClass .word false)
  | 'D' => some (.letterClass .digit true)
  | 'S' => some (.letterClass .space true)
  | 'W' => some (.letterClass .word true)
  | _ => none

def readCode (verbose : Bool) (digits : Nat) : List Char → Option (Primitive × List Char)
  | '\x7b' :: rest => do
    let (code, r) ← readHexBrace verbose false 0 (skip verbose rest)
    (charOfCode? code).map fun c => (.character c false, r)
  | cs => do
    let (code, r) ← readHexDigits verbose 0 digits cs
    (charOfCode? code).map fun c => (.character c (digits == 2), r)

theorem readCode_le {verbose : Bool} {digits : Nat} {p : Primitive} {cs r : List Char}
    (h : readCode verbose digits cs = some (p, r)) : r.length ≤ cs.length := by
  unfold readCode at h
  split at h
  next rest =>
    obtain ⟨⟨code, r'⟩, read, decoded⟩ := Option.bind_eq_some_iff.1 h
    obtain ⟨_, _, same⟩ := Option.map_eq_some_iff.1 decoded
    cases same
    have := readHexBrace_lt read
    have := length_skip_le verbose rest
    simp only [List.length_cons]
    omega
  · obtain ⟨⟨code, r'⟩, read, decoded⟩ := Option.bind_eq_some_iff.1 h
    obtain ⟨_, _, same⟩ := Option.map_eq_some_iff.1 decoded
    cases same
    exact readHexDigits_le read

def readProperty (verbose negated : Bool) : List Char → Option (Primitive × List Char)
  | [] => none
  | c :: rest =>
    if c = '\x7b' then
      (readBraced verbose [] (skip verbose rest)).map fun (text, r) =>
        (.property (propertyText? text) negated, r)
    else if c = '\\' then none
    else some (.property (propertyNamed? (normalName [c])) negated, skip verbose rest)

theorem readProperty_le {verbose negated : Bool} {p : Primitive} {cs r : List Char}
    (h : readProperty verbose negated cs = some (p, r)) : r.length ≤ cs.length := by
  cases cs with
  | nil => cases h
  | cons c rest =>
      have := length_skip_le verbose rest
      simp only [List.length_cons]
      simp only [readProperty] at h
      split at h
      · obtain ⟨_, read, same⟩ := Option.map_eq_some_iff.1 h
        cases same
        have := readBraced_lt read
        omega
      · split at h
        · cases h
        · cases h
          omega

def readEscape (verbose : Bool) : List Char → Option (Primitive × List Char)
  | [] => none
  | c :: rest =>
    if c = 'x' then readCode verbose 2 (skip verbose rest)
    else if c = 'u' then readCode verbose 4 (skip verbose rest)
    else if c = 'U' then readCode verbose 8 (skip verbose rest)
    else if c = 'p' then readProperty verbose false (skip verbose rest)
    else if c = 'P' then readProperty verbose true (skip verbose rest)
    else if isEscapable c then some (.character c false, rest)
    else (letterEscape? c).map fun p => (p, rest)

theorem readEscape_lt {verbose : Bool} {p : Primitive} {cs r : List Char}
    (h : readEscape verbose cs = some (p, r)) : r.length < cs.length := by
  cases cs with
  | nil => cases h
  | cons c rest =>
      refine Nat.lt_succ_of_le ?_
      simp only [readEscape] at h
      split at h
      · exact Nat.le_trans (readCode_le h) (length_skip_le _ _)
      split at h
      · exact Nat.le_trans (readCode_le h) (length_skip_le _ _)
      split at h
      · exact Nat.le_trans (readCode_le h) (length_skip_le _ _)
      split at h
      · exact Nat.le_trans (readProperty_le h) (length_skip_le _ _)
      split at h
      · exact Nat.le_trans (readProperty_le h) (length_skip_le _ _)
      split at h
      · cases h
        exact Nat.le_refl _
      · obtain ⟨_, _, same⟩ := Option.map_eq_some_iff.1 h
        cases same
        exact Nat.le_refl _

def Primitive.ofChar : Char → Primitive
  | '.' => .dot
  | '^' => .lineStart
  | '$' => .lineEnd
  | c => .character c false

def readPrimitive (verbose : Bool) : List Char → Option (Primitive × List Char)
  | [] => none
  | c :: rest =>
    if c = '\\' then readEscape verbose rest else some (.ofChar c, rest)

theorem readPrimitive_lt {verbose : Bool} {p : Primitive} {cs r : List Char}
    (h : readPrimitive verbose cs = some (p, r)) : r.length < cs.length := by
  cases cs with
  | nil => cases h
  | cons c rest =>
      simp only [readPrimitive] at h
      split at h
      · exact Nat.lt_succ_of_lt (readEscape_lt h)
      · cases h
        exact Nat.lt_succ_self _

end ShapeCheck.Pattern
