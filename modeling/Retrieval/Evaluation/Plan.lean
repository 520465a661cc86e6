import Retrieval.Evaluation.State
import Retrieval.Evaluation.Explanation
import Retrieval.Scorer
import Retrieval.Window
import Retrieval.Collection.Segment

/-!
# Plans

A plan is a compiled query: a tree of nodes of the same four shapes as the query. Its term leaves
refer to cursors of the evaluation state by number, so that one cursor may serve several leaves, and
so do its windows to what they remember.
-/

namespace Retrieval

/-- A node without children. -/
inductive Source (R : Type) where
  /-- A term, with the number of its cursor and the length of its posting list. -/
  | term (slot : Nat) (label : String) (needed : Need) (cost : Nat)
  /-- A term that the segment does not have. -/
  | missing (slot : Nat) (label : String)
  | lengths (field : String)
  | constScore (value : R)
  | constCount (count : Nat) (field : String)
  /-- Matches every document or none. -/
  | fixed (matched : Bool) (estimate : Nat)
  /-- Matches the documents of a rising list. -/
  | whitelist (ids : List Nat)
  deriving Repr

/-- A node with one child. -/
inductive Adapter (R : Type) where
  | alwaysMatch
  | weight (w : R)
  /-- Scores the child's count by the lengths of a field. -/
  | scorer (scorer : Scorer R) (field : String)
  | countToScore
  | boolToScore (whenTrue whenFalse : R)
  | countToBool (gt : Nat)
  deriving Repr

/-- How the counts of several children are summed up. -/
inductive Summary where
  /-- The smallest count. -/
  | smallest
  /-- The sum, less one for each child but the first. -/
  | ceiling
  deriving Repr, DecidableEq

/-- A node with a list of children. -/
inductive Joint (R : Type) where
  | and
  | or
  | combine (weights : List R)
  | max
  | mult
  | synonym
  /-- A window, with the number under which it remembers. -/
  | window (slot : Nat) (kind : Window)
  | summary (kind : Summary)
  | multi (names : List String)
  deriving Repr

/-- A compiled query. -/
inductive Plan (R : Type) where
  | leaf (s : Source R)
  | modify (a : Adapter R) (child : Plan R)
  | join (j : Joint R) (children : List (Plan R))
  | require (cond value : Plan R)
  deriving Repr

/-- Nodes that a session hands out more than once. -/
inductive Plan.Shared where
  | term (slot : Nat)
  | lengths (field : String)
  deriving Repr, DecidableEq

variable {R : Type}

instance : Inhabited (Plan R) := ⟨.leaf (.fixed false 0)⟩

/-- Which shared node this is; none if it is a node of its own. -/
def Plan.shared? : Plan R → Option Plan.Shared
  | .leaf (.term slot ..) | .leaf (.missing slot _) => some (.term slot)
  | .leaf (.lengths field) => some (.lengths field)
  | _ => none

/-- The children of a node, in order. -/
def Plan.children : Plan R → List (Plan R)
  | .leaf _ => []
  | .modify _ c => [c]
  | .join _ cs => cs
  | .require c v => [c, v]

/-- The short name of a summary. -/
def Summary.name : Summary → String
  | smallest => "smaller-count"
  | ceiling => "uw-ceiling"

/-- Sums up the counts of children that all occur. -/
def Summary.fold {m : Type → Type} [Monad m] (plus : Nat → Nat → m Nat) :
    Summary → List Nat → m Nat
  | smallest, counts => return counts.min?.getD 0
  | ceiling, counts => return (← counts.foldlM plus 0) - (counts.length - 1)

end Retrieval
