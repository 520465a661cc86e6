import Retrieval.Scalar

/-!
# Collection statistics

How often a term, or any expression that can be counted, occurs in a field of the collection, and
how long that field is.
-/

namespace Retrieval

/-- The sum of several counts. -/
def addUp (counts : List Nat) : Nat := counts.foldr (· + ·) 0

/-- Statistics of what `source` describes, such as `body:fox`. -/
structure Statistics where
  source : String
  /-- Occurrences in the collection. -/
  cf : Nat
  /-- Documents with an occurrence. -/
  df : Nat
  /-- Tokens of the field in the collection. -/
  cl : Nat
  /-- Documents with a token in the field. -/
  dc : Nat
  deriving Repr, DecidableEq

namespace Statistics

/-- Statistics of a whole field, which has sizes but no frequencies. -/
def ofField (field : String) (cl dc : Nat) : Statistics := ⟨field, 0, 0, cl, dc⟩

/-- Adds the numbers of another part of the collection; the source stays. -/
def add (s t : Statistics) : Statistics :=
  { s with cf := s.cf + t.cf, df := s.df + t.df, cl := s.cl + t.cl, dc := s.dc + t.dc }

def text (s : Statistics) : String :=
  s!"{s.source}: cf={s.cf} df={s.df} cl={s.cl} dc={s.dc}"

variable {R : Type} [Scalar R]

/-- The average number of tokens in a document that has any. -/
def averageLength (s : Statistics) : R := (Scalar.ofNat s.cl : R) / Scalar.ofNat s.dc

/-- The share of the collection that the source makes up. Where it never occurs it still counts as
half an occurrence, so that the share is positive. -/
def probability (s : Statistics) : R :=
  Scalar.larger (Scalar.ofNat s.cf) (Scalar.half : R) / Scalar.ofNat s.cl

end Statistics

end Retrieval
