import Retrieval.Scalar

/-!
# The best documents

`TopHits` keeps the best of the hits that are offered to it, up to its capacity, and counts them
all. Hits are ranked by falling score and then by rising document, so that the outcome depends
neither on the order in which hits come nor on how they are spread over collectors. The hits kept
form a heap with the worst of them on top: it is the one that gives way to a better hit.
-/

namespace Retrieval

/-- A document with its score. -/
structure Hit (R : Type) where
  doc : Nat
  score : R
  deriving Repr

variable {R : Type} [Scalar R]

namespace Hit

/-- Whether a hit ranks before another one. -/
def before (a b : Hit R) : Bool :=
  match Scalar.order b.score a.score with
  | .lt => true
  | .gt => false
  | .eq => a.doc < b.doc

/-- Adds a hit to a heap, which is gone through from the worst hit on top to the best. -/
def push (h : Hit R) : List (Hit R) → List (Hit R)
  | [] => [h]
  | worst :: heap => if h.before worst then worst :: push h heap else h :: worst :: heap

end Hit

/-- The best hits so far. -/
structure TopHits (R : Type) where
  capacity : Nat
  /-- The hits kept, worst first. -/
  heap : List (Hit R) := []
  /-- The number of hits offered. -/
  total : Nat := 0
  deriving Repr

namespace TopHits

omit [Scalar R] in
/-- Nothing collected yet. -/
def empty (capacity : Nat) : TopHits R := { capacity }

omit [Scalar R] in
/-- The hits kept, best first. -/
def hits (t : TopHits R) : List (Hit R) := t.heap.reverse

/-- Keeps a hit if there is room or the worst hit has to give way to it. -/
def offer (t : TopHits R) (h : Hit R) : TopHits R :=
  if t.capacity = 0 then t
  else if t.heap.length < t.capacity then { t with heap := h.push t.heap }
  else match t.heap with
    | [] => t
    | worst :: others => if h.before worst then { t with heap := h.push others } else t

def collect (t : TopHits R) (h : Hit R) : TopHits R := { t.offer h with total := t.total + 1 }

/-- Takes over the hits of another collector, in the order of its heap. -/
def merge (t u : TopHits R) : TopHits R :=
  { u.heap.foldl offer t with total := t.total + u.total }

omit [Scalar R] in
/-- The least score that is kept, once there is no room left. -/
def leastScore? (t : TopHits R) : Option R :=
  if t.heap.length < t.capacity then none else t.heap.head?.map Hit.score

end TopHits

end Retrieval
