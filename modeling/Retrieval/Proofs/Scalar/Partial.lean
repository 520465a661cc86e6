import Retrieval.Scalar
import Mathlib.Algebra.Order.Field.Basic
import Mathlib.Order.WithBot
import Mathlib.Tactic.Lemma

/-!
# Scalars that may diverge

Arithmetic with the exact numbers of an ordered division ring, such as the rationals, as far as it
has results: a quotient by zero and a logarithm of what is not positive have none, and neither has
an operation whose exact result is of a greater magnitude than can be represented. What has no
result has diverged, and whatever is computed from it diverges, except that a maximum passes over
it.
-/

namespace Retrieval

/-- What a computation with the numbers of `K` has come to. There may be a `limit` to the magnitude
of the numbers that can be represented. -/
inductive Partial (K : Type) (log : K → K) (limit : Option K) where
  | exact (value : K)
  | diverged
  deriving DecidableEq

namespace Partial

variable {K : Type} {log : K → K} {limit : Option K}

/-- What an operation makes of two numbers; of what has diverged it makes nothing. -/
def lift₂ (operation : K → K → Partial K log limit) :
    Partial K log limit → Partial K log limit → Partial K log limit
  | exact x, exact y => operation x y
  | _, _ => diverged

/-- The number, in an order in which all numbers come after what has diverged. -/
def toBot : Partial K log limit → WithBot K
  | exact x => x
  | diverged => ⊥

variable [DivisionRing K] [LinearOrder K]

/-- The exact result of an operation, if it can be represented. -/
def fit (x : K) : Partial K log limit :=
  if limit.all fun m => |x| ≤ m then exact x else diverged

lemma fit_none (x : K) : (fit x : Partial K log none) = exact x := if_pos rfl

lemma fit_some {m : K} (x : K) :
    (fit x : Partial K log (some m)) = if |x| ≤ m then exact x else diverged := by
  simp [fit]

variable [ToString K]

instance : Scalar (Partial K log limit) where
  beq x y := decide (x = y)
  add := lift₂ fun x y => fit (x + y)
  sub := lift₂ fun x y => fit (x - y)
  mul := lift₂ fun x y => fit (x * y)
  div := lift₂ fun x y => if y = 0 then diverged else fit (x / y)
  ofNat n := exact n
  half := exact (1 / (1 + 1))
  larger
    | exact x, exact y => exact (max x y)
    | exact x, diverged => exact x
    | diverged, y => y
  log
    | exact x => if 0 < x then fit (log x) else diverged
    | diverged => diverged
  bottom := diverged
  miss := limit.elim diverged fun m => exact (-m)
  isFinite x := x matches exact _
  lt
    | exact x, exact y => x < y
    | _, _ => false
  le
    | exact x, exact y => x ≤ y
    | _, _ => false
  order x y := compare x.toBot y.toBot
  text
    | exact x => toString x
    | diverged => "diverged"
  literal
    | exact x => toString x
    | diverged => "diverged"

instance : Std.TransCmp (Scalar.order : Partial K log limit → Partial K log limit → Ordering) :=
  inferInstanceAs (Std.TransCmp (compareOn toBot))

lemma ofNat_eq (n : Nat) : (Scalar.ofNat n : Partial K log limit) = exact (n : K) := rfl

lemma half_eq : (Scalar.half : Partial K log limit) = exact (1 / 2) :=
  congrArg (fun two => exact (1 / two)) one_add_one_eq_two

lemma zero_eq : (Scalar.zero : Partial K log limit) = exact 0 := congrArg exact Nat.cast_zero

lemma one_eq : (Scalar.one : Partial K log limit) = exact 1 := congrArg exact Nat.cast_one

lemma larger_eq (x y : K) :
    Scalar.larger (exact x : Partial K log limit) (exact y) = exact (max x y) := rfl

lemma isFinite_iff {x : Partial K log limit} : Scalar.isFinite x = true ↔ ∃ v, x = exact v := by
  cases x with
  | exact v => exact ⟨fun _ => ⟨v, rfl⟩, fun _ => rfl⟩
  | diverged => exact ⟨nofun, nofun⟩

/-- A maximum passes over what has diverged. -/
lemma isFinite_larger (x : Partial K log limit) {y : Partial K log limit}
    (finite : Scalar.isFinite y = true) : Scalar.isFinite (Scalar.larger x y) = true := by
  obtain ⟨v, rfl⟩ := isFinite_iff.mp finite
  cases x <;> rfl

/-! ## Without a limit -/

section Unlimited

variable (x y : K)

@[simp] lemma exact_add : (exact x + exact y : Partial K log none) = exact (x + y) := fit_none _

@[simp] lemma exact_sub : (exact x - exact y : Partial K log none) = exact (x - y) := fit_none _

@[simp] lemma exact_mul : (exact x * exact y : Partial K log none) = exact (x * y) := fit_none _

variable {x y}

lemma exact_div (ne : y ≠ 0) : (exact x / exact y : Partial K log none) = exact (x / y) :=
  (if_neg ne).trans (fit_none _)

lemma exact_div_zero : (exact x / exact 0 : Partial K log none) = diverged := if_pos rfl

lemma isFinite_log :
    Scalar.isFinite (Scalar.log (exact x : Partial K log none)) = true ↔ 0 < x := by
  change Scalar.isFinite (if 0 < x then fit (log x) else diverged : Partial K log none) = true ↔ _
  split
  · next pos => exact iff_of_true (isFinite_iff.mpr ⟨log x, fit_none _⟩) pos
  · next not => exact iff_of_false nofun not

lemma isFinite_add {x y : Partial K log none} (finite : Scalar.isFinite x = true)
    (finite' : Scalar.isFinite y = true) : Scalar.isFinite (x + y) = true := by
  obtain ⟨v, rfl⟩ := isFinite_iff.mp finite
  obtain ⟨w, rfl⟩ := isFinite_iff.mp finite'
  exact isFinite_iff.mpr ⟨v + w, exact_add v w⟩

lemma isFinite_mul {x y : Partial K log none} (finite : Scalar.isFinite x = true)
    (finite' : Scalar.isFinite y = true) : Scalar.isFinite (x * y) = true := by
  obtain ⟨v, rfl⟩ := isFinite_iff.mp finite
  obtain ⟨w, rfl⟩ := isFinite_iff.mp finite'
  exact isFinite_iff.mpr ⟨v * w, exact_mul v w⟩

end Unlimited

/-! ## Up to a limit -/

section Limited

variable {m : K} (x y : K)

lemma limited_add : (exact x + exact y : Partial K log (some m)) = fit (x + y) := rfl

lemma limited_mul : (exact x * exact y : Partial K log (some m)) = fit (x * y) := rfl

end Limited

end Partial

end Retrieval
