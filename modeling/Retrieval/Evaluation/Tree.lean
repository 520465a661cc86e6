import Retrieval.Evaluation.Session

/-!
# Compiled trees

A compiled query with the segment it reads and the state of its evaluation. Every call returns the
tree as the call leaves it.
-/

namespace Retrieval

/-- A query ready to be evaluated in a segment. -/
structure Tree (R : Type) where
  segment : Segment
  root : Plan R
  state : EvalState

variable {R : Type} [Scalar R]

namespace Session

omit [Scalar R] in
/-- A fresh session. -/
def ofSegment (segment : Segment) (defaultField : String) (share : Bool) : Session R where
  segment
  defaultField
  share

/-- Compiles a query in a fresh session. -/
def tree (segment : Segment) (defaultField : String) (share : Bool) (q : Query R) :
    Except Fault (Tree R) := do
  let (root, s) := (compile q).run.run (ofSegment segment defaultField share)
  return ⟨segment, ← root, s.state⟩

end Session

namespace Tree

omit [Scalar R] in
/-- The tree of a program that was built to add counts as `overflow` says. -/
def counting (overflow : Overflow) (t : Tree R) : Tree R :=
  { t with state := { t.state with overflow } }

/-- What the root answers. -/
def behaviour (t : Tree R) : Behaviour R := t.root.behaviour t.segment

/-- Asks the root. -/
def ask {α : Type} (t : Tree R) (question : Behaviour R → Eval α) : Except Fault α × Tree R :=
  let (answer, state) := (question t.behaviour).run t.state
  (answer, { t with state })

omit [Scalar R] in
/-- Makes `doc` the current document. -/
def moveTo (doc : Nat) (t : Tree R) : Except Fault (Tree R) := do
  return { t with state := ← t.state.moveTo doc }

def matched (t : Tree R) : Except Fault Bool × Tree R := t.ask Answers.matched
def count (t : Tree R) : Except Fault Nat × Tree R := t.ask Answers.count
def positions (t : Tree R) : Except Fault (List Nat) × Tree R := t.ask Answers.positions
def score (t : Tree R) : Except Fault R × Tree R := t.ask Answers.score
def explain (t : Tree R) : Except Fault (Explanation R) × Tree R := t.ask Answers.explain

end Tree

end Retrieval
