import Retrieval.Json.Reader
import Retrieval.Evaluation.Explanation

/-!
# Explanations as JSON

An explanation is an object with the value, the match, the description and the explanations of the
children.
-/

namespace Retrieval.Explanation

/-- Reads an explanation that is nested less than `depth` deep. -/
def ofJsonWithin? : (depth : Nat) → Json → Option (Explanation Float)
  | 0, _ => none
  | depth + 1, j => do
    match ← j.record? ["value", "matched", "description", "details"] false with
    | [value, matched, description, details] =>
      return {
        value := ← Json.needed? Json.real? value
        matched := ← Json.needed? Json.bool? matched
        description := ← Json.needed? Json.string? description
        details := ← Json.needed? (Json.listOf? (ofJsonWithin? depth)) details }
    | _ => none

/-- The explanation that a JSON value describes. -/
def ofJson? (j : Json) : Option (Explanation Float) := ofJsonWithin? (Json.maxDepth + 1) j

end Retrieval.Explanation
