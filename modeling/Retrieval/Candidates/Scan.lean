import Retrieval.Candidates.Walk
import Retrieval.Evaluation.Tree

/-!
# Two-phase scans

A scan takes candidates from a walk, which is cheap, and lets the compiled query confirm each of
them. `Scan.advance` returns the first document from a target on that both accept, and leaves the
tree on it.
-/

namespace Retrieval

/-- A search for the documents that match a query. -/
structure Scan (R : Type) where
  walk : Walk
  /-- The query, on the last document accepted. -/
  tree : Tree R
  /-- The last document accepted, if any was asked for. -/
  current : Option Nat := none
  /-- The candidates that the query did not confirm. -/
  rejected : Nat := 0

namespace Scan

variable {R : Type} [Scalar R]

/-- Moves to the first document from `target` on that the walk offers and the query confirms. -/
def advance (target : Nat) (s : Scan R) : Except Fault Nat × Scan R :=
  let s := { s with walk := s.walk.next target }
  let doc := s.walk.doc
  if noMoreDocs ≤ doc ∨ noMoreDocs ≤ target then
    (.ok noMoreDocs, { s with current := some noMoreDocs })
  else
    match s.tree.moveTo doc with
    | .error e => (.error e, s)
    | .ok tree =>
      match tree.matched with
      | (.error e, tree) => (.error e, { s with tree })
      | (.ok true, tree) => (.ok doc, { s with tree, current := some doc })
      | (.ok false, tree) =>
        advance (max target doc + 1) { s with tree, rejected := s.rejected + 1 }
termination_by noMoreDocs - target

/-- Moves to the next document after the current one. -/
def next (s : Scan R) : Except Fault Nat × Scan R :=
  match s.current with
  | none => s.advance 0
  | some doc => if doc = noMoreDocs then (.ok noMoreDocs, s) else s.advance (doc + 1)

/-- Visits every document from `target` on that both accept, with the tree on it. The first fault
ends the scan. -/
def drain {σ : Type} (visit : σ → Nat → Tree R → Except Fault (σ × Tree R)) (acc : σ)
    (target : Nat) (s : Scan R) : Except Fault σ :=
  match s.advance target with
  | (.error e, _) => .error e
  | (.ok doc, s) =>
    if noMoreDocs ≤ doc ∨ noMoreDocs ≤ target then .ok acc
    else
      match visit acc doc s.tree with
      | .error e => .error e
      | .ok (acc, tree) => drain visit acc (max target doc + 1) { s with tree }
termination_by noMoreDocs - target

end Scan

end Retrieval
