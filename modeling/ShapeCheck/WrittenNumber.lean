import ShapeCheck.Binary64.Rounding

namespace ShapeCheck

inductive WrittenNumber
  | int (n : Int)
  | float (x : Binary64)
  deriving DecidableEq, Repr

namespace WrittenNumber

def toBinary64 : WrittenNumber → Binary64
  | int n => .ofInt n
  | float x => x

/-- Whether two numbers are the same key: of the same sort and equal, or both NaN. -/
def same : WrittenNumber → WrittenNumber → Bool
  | int m, int n => m == n
  | float x, float y => x.equals y || (x.isNaN && y.isNaN)
  | _, _ => false

/-- Whether a whole number has 64 bits, with or without a sign. Any float will do. -/
def InRange : WrittenNumber → Prop
  | int n => -0x8000000000000000 ≤ n ∧ n < 0x10000000000000000
  | float _ => True

/-- Whether a JSON document can hold the number. -/
def Fits : WrittenNumber → Prop
  | int n => -0x8000000000000000 ≤ n ∧ n < 0x10000000000000000
  | float x => x.isFinite = true

end WrittenNumber
end ShapeCheck
