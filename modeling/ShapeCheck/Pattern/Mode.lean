namespace ShapeCheck.Pattern

structure Mode where
  ignoreCase : Bool := false
  multiline : Bool := false
  dotAll : Bool := false
  crlf : Bool := false
  unicode : Bool := true
  verbose : Bool := false
  deriving DecidableEq, Repr

namespace Mode

/-- A setting that a group may switch. Swapping greed changes no answer to whether a text
matches. -/
inductive Setting
  | ignoreCase
  | multiline
  | dotAll
  | swapGreed
  | unicode
  | crlf
  | verbose
  deriving DecidableEq, Repr

def Setting.ofLetter? : Char → Option Setting
  | 'i' => some ignoreCase
  | 'm' => some multiline
  | 's' => some dotAll
  | 'U' => some swapGreed
  | 'u' => some unicode
  | 'R' => some crlf
  | 'x' => some verbose
  | _ => none

def switch (mode : Mode) (on : Bool) : Setting → Mode
  | .ignoreCase => { mode with ignoreCase := on }
  | .multiline => { mode with multiline := on }
  | .dotAll => { mode with dotAll := on }
  | .swapGreed => mode
  | .unicode => { mode with unicode := on }
  | .crlf => { mode with crlf := on }
  | .verbose => { mode with verbose := on }

inductive GroupTail
  | close
  | body
  deriving DecidableEq

/-- Reads settings up to `)` or `:`. No setting and no minus sign may come twice, and a minus sign
may not come last. `seen` holds the settings so far, `negated` tells whether the minus sign came and
`dangling` whether it came just before. -/
def readSettings (mode : Mode) (seen : List Setting) (negated dangling : Bool) :
    List Char → Option ((Mode × Bool × GroupTail) × List Char)
  | [] => none
  | ')' :: rest => if dangling then none else some ((mode, seen.isEmpty && !negated, .close), rest)
  | ':' :: rest => if dangling then none else some ((mode, seen.isEmpty && !negated, .body), rest)
  | '-' :: rest => if negated then none else readSettings mode seen true true rest
  | c :: rest =>
    match Setting.ofLetter? c with
    | none => none
    | some s =>
      if seen.contains s then none
      else readSettings (mode.switch (!negated) s) (s :: seen) negated false rest

theorem readSettings_lt {mode : Mode} {seen : List Setting} {negated dangling : Bool}
    {read : Mode × Bool × GroupTail} {cs rest : List Char}
    (h : readSettings mode seen negated dangling cs = some (read, rest)) :
    rest.length < cs.length := by
  fun_induction readSettings mode seen negated dangling cs <;> simp_all <;> omega

end Mode
end ShapeCheck.Pattern
