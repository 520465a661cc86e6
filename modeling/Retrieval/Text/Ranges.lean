/-!
# Ranges of characters

A property of characters is a list of ranges of code points in rising order. Unicode 17.0 is the
version of every table in this folder.
-/

namespace Retrieval.Text

/-- Ranges of code points, both ends included, in rising order. -/
abbrev Ranges := List (Nat × Nat)

/-- Whether a code point lies in one of the ranges; the first that ends no earlier decides. -/
def Ranges.covers : Ranges → Nat → Bool
  | [], _ => false
  | (low, high) :: rest, c => if c ≤ high then low ≤ c else Ranges.covers rest c

end Retrieval.Text
