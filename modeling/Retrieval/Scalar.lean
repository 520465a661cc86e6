/-!
# Scalars

Weights and scores are scalars. The library computes with any type of them, so that one definition
serves both the binary64 numbers that programs run on and the exact numbers that algebra is done in.
-/

namespace Retrieval

/-- The arithmetic that weights and scores need. -/
class Scalar (R : Type) extends BEq R, Add R, Sub R, Mul R, Div R where
  /-- A count as a scalar. -/
  ofNat : Nat → R
  /-- One half: the mass that a term which never occurs still has. -/
  half : R
  /-- The larger of two scalars. -/
  larger : R → R → R
  /-- The natural logarithm. -/
  log : R → R
  /-- The score of a maximum over nothing, below every other score. -/
  bottom : R
  /-- The score of a document that fails a required condition. -/
  miss : R
  isFinite : R → Bool
  lt : R → R → Bool
  le : R → R → Bool
  /-- The total order that ranks scores. -/
  order : R → R → Ordering
  /-- How a scalar is written inside a text. -/
  text : R → String
  /-- How a scalar is written inside a list of weights. -/
  literal : R → String

namespace Scalar

variable {R : Type} [Scalar R]

def zero : R := ofNat 0
def one : R := ofNat 1

/-- Boolean nodes score one where they match and zero elsewhere. -/
def ofBool (b : Bool) : R := if b then one else zero

end Scalar

end Retrieval
