import Retrieval.Scalar
import Mathlib.Algebra.Order.Ring.Rat
import Mathlib.Tactic.Lemma

/-!
# Exact scalars

Scalars are exact if their sums and products obey the laws of a commutative ring, as far as these
speak of neither one nor differences. The numbers of every such ring are exact, whatever is taken
for a logarithm (`Scalar.exact_ofRing`).
-/

namespace Retrieval

/-- Scalars whose sums and products are exact. -/
class Scalar.Exact (R : Type) [Scalar R] : Prop extends LawfulBEq R where
  zero_add : ∀ a : R, zero + a = a
  add_assoc : ∀ a b c : R, a + b + c = a + (b + c)
  add_comm : ∀ a b : R, a + b = b + a
  mul_assoc : ∀ a b c : R, a * b * c = a * (b * c)
  mul_comm : ∀ a b : R, a * b = b * a
  mul_add : ∀ a b c : R, a * (b + c) = a * b + a * c
  mul_zero : ∀ a : R, a * zero = zero

namespace Scalar.Exact

variable {R : Type} [Scalar R] [Exact R]

lemma add_mul (a b c : R) : (a + b) * c = a * c + b * c := by
  rw [mul_comm, mul_add, mul_comm c a, mul_comm c b]

lemma add_left_comm (a b c : R) : a + (b + c) = b + (a + c) := by
  rw [← add_assoc, add_comm a b, add_assoc]

end Scalar.Exact

/-- The numbers of an ordered ring as scalars, with what is taken for a logarithm, for the score of
a maximum over nothing and for that of a miss. -/
@[reducible] def Scalar.ofRing {K : Type} [CommRing K] [Div K] [LinearOrder K] [ToString K]
    (log : K → K) (bottom miss : K) : Scalar K where
  ofNat := Nat.cast
  half := 1 / 2
  larger := max
  log
  bottom
  miss
  isFinite _ := true
  lt a b := a < b
  le a b := a ≤ b
  order := compare
  text := toString
  literal := toString

/-- The numbers of a ring are exact. -/
lemma Scalar.exact_ofRing {K : Type} [CommRing K] [Div K] [LinearOrder K] [ToString K]
    (log : K → K) (bottom miss : K) : @Exact K (.ofRing log bottom miss) := by
  let _ : Scalar K := .ofRing log bottom miss
  have zero : (zero : K) = 0 := Nat.cast_zero
  exact {
    zero_add a := by rw [zero, zero_add]
    add_assoc := add_assoc
    add_comm := add_comm
    mul_assoc := mul_assoc
    mul_comm := mul_comm
    mul_add := mul_add
    mul_zero a := by rw [zero, mul_zero] }

instance : Scalar ℚ := .ofRing id (-1000000) (-1000000)

instance : Scalar.Exact ℚ := Scalar.exact_ofRing _ _ _

end Retrieval
