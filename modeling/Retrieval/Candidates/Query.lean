import Retrieval.Query.Simplified

/-!
# Candidate queries

A candidate query answers whether a document could match at all. It is made of terms that need no
more than documents, of whitelists, raw queries and constant leaves, joined by `and`, `or` and
`require`, so that lists of documents are enough to run it.
-/

namespace Retrieval

namespace Query

variable {R : Type}

/-- The candidates of a leaf. -/
def leafCandidates : Leaf R → Query R
  | .term t => .leaf (.term { t with needed := .docs })
  | .lengths _ | .constCount .. | .always => always
  | .constScore _ | .never => never
  | .constBool b => if b then always else never
  | .whitelist w => .leaf (.whitelist w)
  | .raw q => .leaf (.raw q)

/-- Operators whose children all have to match; those of the others are alternatives. -/
def isConjunctive : Operator R → Bool
  | .and | .orderedWindow _ | .unorderedWindow _ | .prox _ | .smallerCount
  | .windowCeiling _ => true
  | _ => false

mutual

/-- The documents that a query could match, as a query. -/
def candidates : Query R → Query R
  | .leaf l => leafCandidates l
  | .modify .alwaysMatch _ => always
  | .modify _ c => candidates c
  | .join op cs => if isConjunctive op then and (candidatesAll cs) else or (candidatesAll cs)
  | .require c _ => .require (candidates c) always

def candidatesAll : List (Query R) → List (Query R)
  | [] => []
  | c :: cs => candidates c :: candidatesAll cs

end

/-- The candidate query, simplified. -/
def simpleCandidates [Scalar R] (passes : Nat) (q : Query R) : Except Fault (Query R) :=
  q.candidates.simplify passes

end Query

end Retrieval
