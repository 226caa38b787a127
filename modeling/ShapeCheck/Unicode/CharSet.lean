import ShapeCheck.Unicode.CaseFolding
import ShapeCheck.Unicode.CodeRanges

namespace ShapeCheck.Unicode

inductive CharSet
  | ranges (rs : CodeRanges)
  | compl (s : CharSet)
  | union (s t : CharSet)
  | inter (s t : CharSet)
  | diff (s t : CharSet)
  | symmDiff (s t : CharSet)
  | anyCase (s : CharSet)
  deriving Inhabited

namespace CharSet

def empty : CharSet := ranges []

def single (c : Char) : CharSet := ranges [(c.toNat, c.toNat)]

def contains : CharSet → Nat → Bool
  | ranges rs, code => rs.contains code
  | compl s, code => !s.contains code
  | union s t, code => s.contains code || t.contains code
  | inter s t, code => s.contains code && t.contains code
  | diff s t, code => s.contains code && !t.contains code
  | symmDiff s t, code => s.contains code != t.contains code
  | anyCase s, code => (caseVariants code).any s.contains

end CharSet
end ShapeCheck.Unicode
