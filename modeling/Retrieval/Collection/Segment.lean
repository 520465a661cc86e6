import Retrieval.Collection.Postings
import Retrieval.Statistics
import Retrieval.Text.Words
import Retrieval.Text.Blank
import Retrieval.Text.Quoted

/-!
# Segments

A segment is a run of documents that is searched on its own. For every field it keeps the length of
each document and, for every term, the list of its postings. They grow while the values of the
documents are taken up one after the other: the tokens of a value go on where earlier values of the
same field have ended.
-/

namespace Retrieval

/-- How texts are cut into tokens. A segment knows no more of it than this. -/
class Tokenizer where
  tokens : String → List String

/-- Texts are cut into their words. -/
instance instTokenizer : Tokenizer := ⟨Text.tokens⟩

/-- A document: its name and the texts of its fields, which may repeat. -/
structure Document where
  name : String
  fields : List (String × String)
  deriving Repr, DecidableEq

/-- Changes the entry of a key; if there is none, one that comes from changing `fresh` is put in
front. -/
def upsert {α : Type} (key : String) (fresh : α) (change : α → α) (entries : List (String × α)) :
    List (String × α) :=
  if (entries.lookup key).isSome then
    entries.map fun e => if e.1 = key then (key, change e.2) else e
  else (key, change fresh) :: entries

/-- What a segment knows of one field. -/
structure Field where
  /-- The tokens of each document. -/
  lengths : Array Nat
  /-- The postings of each term. -/
  postings : List (String × List Posting)
  deriving Repr, DecidableEq

namespace Field

/-- A field without tokens in `size` documents. -/
def empty (size : Nat) : Field := ⟨.replicate size 0, []⟩

/-- Puts an occurrence at the end of a list, into its last posting if that is of the same document. -/
def addPosting (doc position : Nat) (list : List Posting) : List Posting :=
  match list.getLast? with
  | some last =>
    if last.doc = doc then list.dropLast ++ [⟨doc, last.positions ++ [position]⟩]
    else list ++ [⟨doc, [position]⟩]
  | none => [⟨doc, [position]⟩]

/-- Puts an occurrence of `term` at the end of that term's list. -/
def record (doc position : Nat) (term : String) (postings : List (String × List Posting)) :
    List (String × List Posting) :=
  upsert term [] (addPosting doc position) postings

/-- Adds the tokens of a value to those that a document has already. -/
def addValue (doc : Nat) (tokens : List String) (f : Field) : Field :=
  let offset := f.lengths.getD doc 0
  { lengths := f.lengths.setIfInBounds doc (offset + tokens.length)
    postings := (tokens.zipIdx offset).foldl (fun ps t => record doc t.2 t.1 ps) f.postings }

def total (f : Field) : Nat := addUp f.lengths.toList

/-- The documents that have a token in the field. -/
def nonEmpty (f : Field) : Nat := f.lengths.toList.countP (0 < ·)

/-- The postings of a term; none if it does not occur. -/
def list (f : Field) (term : String) : List Posting := (f.postings.lookup term).getD []

end Field

/-- A run of documents, with the fields that any of them has. -/
structure Segment where
  /-- The number of the segment's first document in the index. -/
  base : Nat
  size : Nat
  fields : List (String × Field)
  deriving Repr, DecidableEq

namespace Segment

/-- Takes up the values of a document, in their order. -/
def addDocument [Tokenizer] (size doc : Nat) (d : Document) (fields : List (String × Field)) :
    List (String × Field) :=
  d.fields.foldl
    (fun fields value =>
      upsert value.1 (.empty size) (·.addValue doc (Tokenizer.tokens value.2)) fields)
    fields

/-- Indexes a run of documents. -/
def ofDocuments [Tokenizer] (base : Nat) (docs : List Document) : Segment where
  base
  size := docs.length
  fields := docs.zipIdx.foldl (fun fields d => addDocument docs.length d.2 d.1 fields) []

def field? (s : Segment) (name : String) : Option Field := s.fields.lookup name

/-- A cursor over a term's postings, if it occurs in the segment. Postings have no scores. -/
def cursor (s : Segment) (term field : String) (needed : Need) :
    Except Fault (Option Postings) :=
  if needed = .scores then .error (.cannotOpen field term needed.text)
  else .ok (((s.field? field).bind fun f => f.postings.lookup term).map (Postings.ofList · needed))

/-- A field and a term with a colon between them; blanks around either do not count. -/
def splitRaw (query : String) : Option (String × String) :=
  match query.toList.span (· != ':') with
  | (field, _ :: term) =>
    some (String.ofList (Text.trim field), String.ofList (Text.trim term))
  | _ => none

/-- A cursor over the documents of a raw query, which is a single `field:term`. -/
def rawCursor (s : Segment) (query : String) : Except Fault (Option Postings) :=
  match splitRaw query with
  | some (field, term) => s.cursor term field .docs
  | none => .error (.notFieldAndTerm (Text.quoted query))

/-- The length of a document; zero in a field that the segment does not have. -/
def lengthOf (s : Segment) (doc : Nat) (field : String) : Except Fault Nat :=
  if s.size ≤ doc then .error (.outOfSegment doc s.size)
  else .ok ((s.field? field).elim 0 fun f => f.lengths.getD doc 0)

def termStatistics (s : Segment) (term field : String) : Statistics :=
  let source := s!"{field}:{term}"
  match s.field? field with
  | some f =>
    let list := f.list term
    ⟨source, addUp (list.map (·.positions.length)), list.length, f.total, f.nonEmpty⟩
  | none => ⟨source, 0, 0, 0, 0⟩

def fieldStatistics? (s : Segment) (field : String) : Option Statistics :=
  (s.field? field).map fun f => .ofField field f.total f.nonEmpty

end Segment

end Retrieval
