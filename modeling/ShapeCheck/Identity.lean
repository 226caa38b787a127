namespace ShapeCheck

/-- The number of a reference value or of a declared class; none is given out twice. -/
abbrev Identity := Nat

/-- Computations that bring new things into being; the state is the next unused number. -/
abbrev Fresh := StateM Identity

def fresh : Fresh Identity :=
  modifyGet fun next => (next, next + 1)

end ShapeCheck
