import Retrieval.Proofs.Query.Nodes
import Retrieval.Proofs.Ranking.Segmentation

/-!
# Measured statistics

Where a scorer has no statistics of a single term, a prepared query has measured ones: those that
come of counting the child of the scorer in every document of the collection, one by one, whether it
matches or not (`Searcher.measured_exhaustive`). Only hits are visited to measure them. But whatever
is counted in a document matches it (`Query.facts_counted`), and what matches is hit; so no document
that is left out would have added anything.
-/

namespace Retrieval

lemma Query.Filled.of_mem_nodes {R : Type} {q n : Query R} (filled : q.Filled) (mem : n ∈ q.nodes) :
    n.Filled :=
  fun op vacuous empty => filled op vacuous (nodes_subset_of_mem q mem empty)

namespace Searcher

open Query

variable {R : Type} [Scalar R]

/-! ## Counting everywhere -/

variable {limit : Option Nat} {docs : List Document} {env : Environment R} {q : Query R}
  {stats : Statistics}

/-- A document is shown among all documents under its number. -/
lemma shows_whole (defaultField : String) (numbered : docs.length ≤ noMoreDocs) {doc : Nat}
    (inside : doc < docs.length) :
    (⟨.ofDocuments 0 docs, defaultField, doc⟩ : Spot).Shows doc docs[doc] :=
  ⟨⟨docs, rfl, List.getElem?_eq_getElem inside⟩, inside.trans_le numbered, Nat.zero_add doc⟩

end Searcher

end Retrieval
