import Retrieval.Query.Basic
import Retrieval.Fault

/-!
# Common queries

The sums, means and retrieval models that queries are usually built from.
-/

namespace Retrieval

namespace Query

variable {R : Type}

def dirichlet (q : Query R) : Query R := .modify (.scorer (.dirichlet none) none) q

def bm25 (q : Query R) : Query R := .modify (.scorer (.bm25 none none) none) q

/-- Scores `q` without making any document a candidate. -/
def neverMatching (q : Query R) : Query R := .require never q

def named (names : List String) : Query R := .leaf (.whitelist { names := some names })

/-- A weighted sum; fails unless there is one weight for each child. -/
def combine (children : List (Query R)) (weights : List R) : Except Fault (Query R) :=
  if children.length = weights.length then .ok (.join (.combine weights) children)
  else .error (.unevenCombine children.length weights.length)

variable [Scalar R]

def sum (children : List (Query R)) : Query R :=
  .join (.combine (children.map fun _ => Scalar.one)) children

def mean (children : List (Query R)) : Query R :=
  let weight := Scalar.one / Scalar.ofNat children.length
  .join (.combine (children.map fun _ => weight)) children

/-- The mean of the terms' smoothed likelihoods. -/
def likelihoodOfTerms (terms : List String) (field : Option String) : Query R :=
  mean (terms.map fun t => dirichlet (term t field))

/-- The sum of the terms' BM25 scores. -/
def bm25OfTerms (terms : List String) (field : Option String) : Query R :=
  sum (terms.map fun t => bm25 (term t field))

/-- The weights of the sequential dependence model, and the width of its unordered windows. -/
structure Dependence (R : Type) where
  unigram : R
  ordered : R
  unordered : R
  width : Nat

/-- The customary weights. -/
def Dependence.usual : Dependence Float := ⟨0.8, 0.15, 0.05, 8⟩

/-- Scores the terms, and each adjacent pair of them as a phrase and as an unordered window. Fewer
than two terms have no pairs and are scored alone. -/
def dependenceOfTerms (terms : List String) (field : Option String) (w : Dependence R) :
    Query R :=
  if terms.length < 2 then likelihoodOfTerms terms field
  else
    let leaves : List (Query R) := terms.map fun t => term t field
    let pairs := leaves.zip leaves.tail
    let windows (op : Operator R) := mean (pairs.map fun p => dirichlet (.join op [p.1, p.2]))
    .join (.combine [w.unigram, w.ordered, w.unordered])
      [mean (leaves.map dirichlet), windows (.orderedWindow 1), windows (.unorderedWindow w.width)]

end Query

end Retrieval
