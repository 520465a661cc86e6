import Retrieval.Scalar
import Retrieval.Decimal.Layout

/-!
# Binary64 scalars

The floating-point instance of `Scalar`. Scores are ranked by their bits, so that the order is total
even on NaN and tells the two zeros apart.
-/

namespace Retrieval

namespace Binary64

/-- The bit that negative floats have set. -/
def signBit : Nat := 0x8000000000000000

/-- A key that orders floats totally: negative ones by falling magnitude, then the others by rising
magnitude. There is a single NaN here, which comes last. As bits, NaNs also differ in their sign, and
those that have it set come before all numbers; a search ranks neither kind, as it collects finite
scores only. -/
def key (x : Float) : Int :=
  let bits := x.toBits.toNat
  if bits < signBit then bits else -((bits - signBit : Nat) : Int) - 1

/-- The larger of two floats. A NaN gives way to the other one, and a tie to the first. -/
def larger (x y : Float) : Float := if x.isNaN || x < y then y else x

/-- The finite float of the largest magnitude. -/
def maxFinite : Float := Float.ofBits 0x7fefffffffffffff

def infinity : Float := Float.ofBits 0x7ff0000000000000

end Binary64

instance : Scalar Float where
  ofNat n := n.toUInt64.toFloat
  half := 0.5
  larger := Binary64.larger
  log := Float.log
  bottom := -Binary64.infinity
  miss := -Binary64.maxFinite
  isFinite := Float.isFinite
  lt x y := x < y
  le x y := x ≤ y
  order x y := compare (Binary64.key x) (Binary64.key y)
  text := Decimal.plain.write
  literal := Decimal.literal.write

end Retrieval
