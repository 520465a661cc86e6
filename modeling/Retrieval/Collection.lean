import Retrieval.Collection.Segment

/-!
# Collections

A collection is a list of documents cut into segments of equal size. Documents are numbered through
the whole collection, and statistics are summed over all segments.
-/

namespace Retrieval

/-- An indexed list of documents. -/
structure Collection where
  segments : List Segment
  /-- The documents' names, by number. -/
  names : Array String
  deriving Repr, DecidableEq

/-- Cuts a list into pieces of `size + 1`; the last one may be shorter. -/
def pieces {α : Type} (size : Nat) : List α → List (List α)
  | [] => []
  | x :: xs => (x :: xs.take size) :: pieces size (xs.drop size)
termination_by xs => xs.length
decreasing_by simp only [List.length_cons, List.length_drop]; omega

namespace Collection

/-- Gives each piece the number of its first document. -/
def segmentsFrom [Tokenizer] (base : Nat) : List (List Document) → List Segment
  | [] => []
  | docs :: rest => .ofDocuments base docs :: segmentsFrom (base + docs.length) rest

/-- Indexes documents in segments of at most `limit`, but at least one; without a limit there is one
segment. -/
def ofDocuments [Tokenizer] (limit : Option Nat) (docs : List Document) : Collection where
  segments := segmentsFrom 0 (pieces (limit.getD docs.length - 1) docs)
  names := (docs.map Document.name).toArray

def size (c : Collection) : Nat := addUp (c.segments.map Segment.size)

/-- The name of a document of the collection. -/
def name? (c : Collection) (doc : Nat) : Option String := c.names[doc]?

/-- The document with a name; the last one if several share it. -/
def number? (c : Collection) (name : String) : Option Nat :=
  (c.names.toList.zipIdx.reverse.find? (·.1 = name)).map (·.2)

/-- The documents with these names; unknown names are skipped. -/
def lookup (c : Collection) (names : List String) : List Nat := names.filterMap c.number?

/-- Statistics of a term in a field, over all segments. -/
def termStatistics (c : Collection) (term field : String) : Statistics :=
  (c.segments.map (·.termStatistics term field)).foldl Statistics.add
    ⟨s!"{field}:{term}", 0, 0, 0, 0⟩

/-- Statistics of a field; none if no document has it. -/
def fieldStatistics? (c : Collection) (field : String) : Option Statistics :=
  match c.segments.filterMap (·.fieldStatistics? field) with
  | [] => none
  | s :: rest => some (rest.foldl Statistics.add s)

/-- The segment that holds a document, and the document's number there. -/
def locate (c : Collection) (doc : Nat) : Except Fault (Segment × Nat) :=
  match c.segments.find? fun s => s.base ≤ doc && doc - s.base < s.size with
  | some s => .ok (s, doc - s.base)
  | none => .error (.outOfIndex doc)

end Collection

end Retrieval
