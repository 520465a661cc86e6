import Retrieval.Statistics

/-!
# Scorers

A scorer is a retrieval model with its parameters and the statistics of what it scores. It turns a
count and a document length into a score. The parts of each formula that have to stay away from zero
are definitions of their own.
-/

namespace Retrieval

/-- A retrieval model ready to score. -/
inductive Scorer (R : Type) where
  | bm25 (b k : R) (stats : Statistics)
  | dirichlet (mu : R) (stats : Statistics)
  | absoluteDiscounting (delta : R) (stats : Statistics)
  deriving Repr

namespace Scorer

variable {R : Type} [Scalar R]

/-! ## BM25 -/

/-- The argument of the logarithm in the inverse document frequency. -/
def rarity (stats : Statistics) : R :=
  (Scalar.ofNat stats.dc : R) / (Scalar.ofNat stats.df + Scalar.half)

/-- The inverse document frequency. -/
def idf (stats : Statistics) : R := Scalar.log (rarity stats)

/-- How long a document is, weighed against the average length by `b`. -/
def lengthNorm (b : R) (stats : Statistics) (length : Nat) : R :=
  Scalar.one - b + b * (Scalar.ofNat length / stats.averageLength)

/-- The denominator of the saturated frequency. -/
def saturation (b k : R) (stats : Statistics) (count length : Nat) : R :=
  Scalar.ofNat count + k * lengthNorm b stats length

def bm25Score (b k : R) (stats : Statistics) (count length : Nat) : R :=
  idf stats *
    ((Scalar.ofNat count * (k + Scalar.one)) / saturation b k stats count length)

/-! ## Dirichlet smoothing -/

/-- The mass that the collection adds to every document. -/
def priorMass (mu : R) (stats : Statistics) : R := mu * stats.probability

/-- The argument of the logarithm. -/
def smoothed (mu : R) (stats : Statistics) (count length : Nat) : R :=
  (Scalar.ofNat count + priorMass mu stats) / (Scalar.ofNat length + mu)

/-! ## Absolute discounting -/

/-- The argument of the logarithm; an empty document has only the collection's share. -/
def discounted (delta : R) (stats : Statistics) (count length : Nat) : R :=
  if length = 0 then stats.probability
  else
    (Scalar.larger (Scalar.ofNat count - delta) Scalar.zero +
      delta * Scalar.ofNat length * stats.probability) / Scalar.ofNat length

/-! ## All models -/

/-- The score of a document that has `count` occurrences among `length` tokens. -/
def score (s : Scorer R) (count length : Nat) : R :=
  match s with
  | bm25 b k stats => bm25Score b k stats count length
  | dirichlet mu stats => Scalar.log (smoothed mu stats count length)
  | absoluteDiscounting delta stats => Scalar.log (discounted delta stats count length)

omit [Scalar R] in
def name : Scorer R → String
  | bm25 .. => "bm25"
  | dirichlet .. => "dirichlet"
  | absoluteDiscounting .. => "absdisc"

/-- A scorer with its parameters and statistics. -/
def describe : Scorer R → String
  | bm25 b k stats =>
    s!"bm25 b={Scalar.text b} k={Scalar.text k} idf={Scalar.text (idf stats : R)} " ++
      s!"avgdl={Scalar.text (stats.averageLength : R)} [{stats.text}]"
  | dirichlet mu stats =>
    s!"dirichlet mu={Scalar.text mu} bg={Scalar.text (priorMass mu stats)} [{stats.text}]"
  | absoluteDiscounting delta stats =>
    s!"absolute discounting delta={Scalar.text delta} " ++
      s!"bg={Scalar.text (stats.probability : R)} [{stats.text}]"

end Scorer

end Retrieval
