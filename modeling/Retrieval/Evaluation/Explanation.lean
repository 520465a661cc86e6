import Retrieval.Scalar

/-!
# Explanations

A trace of how a document came by its score: one node for each node of the evaluated query.
-/

namespace Retrieval

/-- How one node fared on a document. -/
structure Explanation (R : Type) where
  /-- What the node gave. -/
  value : R
  /-- Whether the node matched. -/
  matched : Bool
  description : String
  /-- The explanations of the children. -/
  details : List (Explanation R)
  deriving Repr

namespace Explanation

variable {R : Type} [Scalar R]

/-- One node's line, without its children. -/
def line (depth : Nat) (value : R) (matched : Bool) (description : String) : String :=
  let mark := if matched then "" else " (miss)"
  "".pushn ' ' (2 * depth) ++ s!"{Scalar.text value} = {description}{mark}\n"

mutual

/-- A line for each node, children two columns further in. -/
def textAt (depth : Nat) : Explanation R → String
  | ⟨value, matched, description, details⟩ =>
    line depth value matched description ++ textAll (depth + 1) details

def textAll (depth : Nat) : List (Explanation R) → String
  | [] => ""
  | e :: es => textAt depth e ++ textAll depth es

end

def text (e : Explanation R) : String := e.textAt 0

end Explanation

end Retrieval
