import Retrieval.Candidates.Walk
import Retrieval.Evaluation.Session

/-!
# Running candidate queries

A candidate query is run by a walk. No other query can be: they need counts, positions or scores.
-/

namespace Retrieval

namespace Walk

/-- A walk over postings, if there are any. -/
def ofPostings : Option Postings → Walk
  | some p => term p
  | none => never

variable {R : Type} [Scalar R]

def ofLeaf (segment : Segment) (l : Leaf R) : Except Fault Walk :=
  match l with
  | .term t => return ofPostings (← segment.cursor t.text (← t.countedField) .docs)
  | .raw q => return ofPostings (← segment.rawCursor q)
  | .whitelist w => return ofList (← Session.idsWithin segment w)
  | .always => .ok (ofSize segment.size)
  | .never => .ok never
  | .constBool b => .ok (if b then ofSize segment.size else never)
  | _ => .error (.cannotMove l.kind l.display)

mutual

/-- The walk of a candidate query in a segment. -/
def ofQuery (segment : Segment) : Query R → Except Fault Walk
  | .leaf l => ofLeaf segment l
  | .join .and cs => return all (← ofQueries segment cs)
  | .join .or cs => return any (← ofQueries segment cs)
  | .require c v => do
    let c ← ofQuery segment c
    return all [c, ← ofQuery segment v]
  | .modify m c => .error (.cannotMove m.kind (Query.display (.modify m c)))
  | .join op cs => .error (.cannotMove op.kind (Query.display (.join op cs)))

def ofQueries (segment : Segment) : List (Query R) → Except Fault (List Walk)
  | [] => .ok []
  | c :: cs => do
    let c ← ofQuery segment c
    return c :: (← ofQueries segment cs)

end

end Walk

end Retrieval
