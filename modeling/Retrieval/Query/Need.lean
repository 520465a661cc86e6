/-!
# Data needs

How much a query node has to know about a document. The needs form a chain; a leaf is opened at the
largest need that any of its ancestors has.
-/

namespace Retrieval

/-- What is asked of a node: whether it matches, how often, where, or how well. -/
inductive Need where
  | docs
  | counts
  | positions
  | scores
  deriving Repr, DecidableEq, Inhabited

namespace Need

/-- The place of a need in the chain. -/
def rank : Need → Nat
  | docs => 0
  | counts => 1
  | positions => 2
  | scores => 3

instance : LE Need := ⟨fun a b => a.rank ≤ b.rank⟩
instance : LT Need := ⟨fun a b => a.rank < b.rank⟩
instance (a b : Need) : Decidable (a ≤ b) := inferInstanceAs (Decidable (a.rank ≤ b.rank))
instance (a b : Need) : Decidable (a < b) := inferInstanceAs (Decidable (a.rank < b.rank))
instance : Max Need := ⟨fun a b => if a ≤ b then b else a⟩

/-- The name of a need inside a text. -/
def text : Need → String
  | docs => "DOCS"
  | counts => "COUNTS"
  | positions => "POSITIONS"
  | scores => "SCORES"

end Need

end Retrieval
