import Retrieval.Query.Need
import Retrieval.Fault

/-!
# Posting lists

A posting names a document of a segment and the positions of a term in it. `Postings` is a cursor
over a list of them: what is left of the list, the current posting first. It only moves forward, and
once nothing is left its document is `noMoreDocs`.
-/

namespace Retrieval

/-- The document of a cursor that has run out, above every real one. -/
def noMoreDocs : Nat := 0xffffffff

/-- Counts, lengths and positions lie below this. No document has as many tokens in a field, just as
no segment has as many documents as `noMoreDocs`, so what is read from postings never leaves the
range; only sums of counts can. -/
def countLimit : Nat := 0x100000000

/-- The occurrences of a term in one document of a segment. -/
structure Posting where
  doc : Nat
  positions : List Nat
  deriving Repr, DecidableEq

/-- A cursor over a posting list, opened for a certain need. -/
structure Postings where
  /-- The postings not passed yet, in the order of their documents. -/
  rest : List Posting
  /-- The length of the whole list. -/
  cost : Nat
  needed : Need
  deriving Repr, DecidableEq

namespace Postings

/-- A cursor on the first posting of a list. -/
def ofList (list : List Posting) (needed : Need) : Postings := ⟨list, list.length, needed⟩

/-- The current document. -/
def doc (p : Postings) : Nat :=
  match p.rest with
  | [] => noMoreDocs
  | posting :: _ => posting.doc

/-- Moves to the first document from `target` on; never back. -/
def advance (target : Nat) (p : Postings) : Postings :=
  { p with rest := p.rest.dropWhile fun posting => posting.doc < target }

/-- The occurrences in the current document. -/
def count (p : Postings) : Nat :=
  match p.rest with
  | [] => 0
  | posting :: _ => posting.positions.length

/-- The positions in the current document, if the cursor was opened for them. -/
def positions (p : Postings) : Except Fault (List Nat) :=
  if p.needed < .positions then .error (.postingsTooLow p.needed.text)
  else match p.rest with
    | [] => .ok []
    | posting :: _ => .ok posting.positions

end Postings

end Retrieval
