/-!
# Double-precision numbers

Numbers are IEEE 754 binary64 data, held as sign, exponent field and fraction field. Every finite
datum is a whole multiple of the smallest positive one, `2 ^ (-1074)`; `Binary64.magnitude` gives
that multiple, so all arithmetic on finite data is exact arithmetic on natural numbers.
-/

namespace ShapeCheck

structure Binary64 where
  negative : Bool
  exponent : Fin 2048
  fraction : Fin 4503599627370496
  deriving DecidableEq, Repr, Inhabited

namespace Binary64

def ofFields (negative : Bool) (exponent fraction : Nat) : Binary64 where
  negative := negative
  exponent := ⟨exponent % 2048, Nat.mod_lt _ (by decide)⟩
  fraction := ⟨fraction % 4503599627370496, Nat.mod_lt _ (by decide)⟩

def ofBits (bits : Nat) : Binary64 :=
  ofFields (bits.testBit 63) (bits >>> 52) bits

def toBits (x : Binary64) : Nat :=
  (if x.negative then 1 <<< 63 else 0) + x.exponent.val <<< 52 + x.fraction.val

def isNaN (x : Binary64) : Bool :=
  x.exponent == 2047 && x.fraction != 0

def isInfinite (x : Binary64) : Bool :=
  x.exponent == 2047 && x.fraction == 0

def isFinite (x : Binary64) : Bool :=
  x.exponent != 2047

/-- The size of a finite datum, in multiples of `2 ^ (-1074)`. -/
def magnitude (x : Binary64) : Nat :=
  if x.exponent.val = 0 then x.fraction.val
  else (1 <<< 52 + x.fraction.val) <<< (x.exponent.val - 1)

def isZero (x : Binary64) : Bool :=
  x.exponent == 0 && x.fraction == 0

def zero : Binary64 := ⟨false, 0, 0⟩

def nan : Binary64 := ⟨false, 2047, 2251799813685248⟩

def infinity (negative : Bool) : Binary64 := ⟨negative, 2047, 0⟩

def neg (x : Binary64) : Binary64 := { x with negative := !x.negative }

/-- Numeric equality: a NaN equals nothing and the two zeros equal each other. -/
def equals (x y : Binary64) : Bool :=
  !x.isNaN && !y.isNaN && (x == y || (x.isZero && y.isZero))

end Binary64
end ShapeCheck
