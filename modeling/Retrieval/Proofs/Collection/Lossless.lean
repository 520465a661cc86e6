import Retrieval.Proofs.Collection.Division
import Mathlib.Data.List.Induction

/-!
# Indexing loses nothing

An index is a lossless inversion of its documents (`Collection.lossless`), whatever makes tokens of
their texts. Its segments cut the documents into runs without gaps. Going through the postings of a
term shows just the documents of the segment in whose streams the term stands, in their order, each
with all indices at which it stands there; and lengths are those of the streams.
-/

namespace Retrieval

/-! ## Going through postings -/

/-- What a cursor shows of the document that it is on. -/
structure Shown where
  doc : Nat
  count : Nat
  positions : Except Fault (List Nat)
  deriving DecidableEq

namespace Postings

def shown (p : Postings) : Shown := ⟨p.doc, p.count, p.positions⟩

/-- Moving past a document drops its posting. -/
lemma dropWhile_lt_succ (q : Posting) (rest : List Posting) :
    ((q :: rest).dropWhile fun r => r.doc < q.doc + 1) = rest.dropWhile fun r => r.doc < q.doc + 1 :=
  List.dropWhile_cons_of_pos (decide_eq_true (Nat.lt_succ_self q.doc))

/-- Moving past a document leaves fewer postings. -/
lemma length_advance_lt {p : Postings} (more : p.doc ≠ noMoreDocs) :
    (p.advance (p.doc + 1)).rest.length < p.rest.length := by
  obtain ⟨list, cost, needed⟩ := p
  cases list with
  | nil => exact absurd rfl more
  | cons q rest =>
    show ((q :: rest).dropWhile fun r => r.doc < q.doc + 1).length < (q :: rest).length
    rw [dropWhile_lt_succ, List.length_cons]
    exact Nat.lt_succ_of_le (List.dropWhile_sublist _).length_le

/-- What a cursor shows on its way to the end. -/
def drain (p : Postings) : List Shown :=
  if p.doc = noMoreDocs then [] else p.shown :: (p.advance (p.doc + 1)).drain
termination_by p.rest.length
decreasing_by next more => exact length_advance_lt more

/-- On a rising list, moving past the document means moving to the next posting. -/
lemma Rising.advance_succ {q : Posting} {rest : List Posting} {cost : Nat} {needed : Need}
    (rising : Rising ⟨q :: rest, cost, needed⟩) :
    Postings.advance (q.doc + 1) ⟨q :: rest, cost, needed⟩ = ⟨rest, cost, needed⟩ := by
  obtain ⟨later, _⟩ := List.pairwise_cons.mp rising.1
  rw [Postings.advance, dropWhile_lt_succ]
  congr 1
  cases rest with
  | nil => rfl
  | cons r rest =>
    apply List.dropWhile_cons_of_neg
    have lt : q.doc < r.doc := later r List.mem_cons_self
    simpa using Nat.succ_le_of_lt lt

/-- A cursor that is open for positions shows all postings that are left. -/
lemma Rising.drain_eq {list : List Posting} {cost : Nat}
    (rising : Rising ⟨list, cost, .positions⟩) :
    drain ⟨list, cost, .positions⟩ = list.map fun q => ⟨q.doc, q.positions.length, .ok q.positions⟩ := by
  induction list with
  | nil =>
    rw [drain]
    exact if_pos rfl
  | cons q rest ih =>
    have real : q.doc ≠ noMoreDocs := (rising.2 q List.mem_cons_self).ne
    have next : Rising ⟨rest, cost, .positions⟩ := by
      rw [← rising.advance_succ]
      exact rising.advance _
    rw [drain]
    show (if q.doc = noMoreDocs then _ else _) = _
    rw [if_neg real]
    show _ :: drain (Postings.advance (q.doc + 1) ⟨q :: rest, cost, .positions⟩) = _
    rw [rising.advance_succ, ih next]
    rfl

end Postings

/-! ## Streams and their indices -/

/-- The indices at which a term stands in the stream of a field. -/
def Document.indices [Tokenizer] (field term : String) (d : Document) : List Nat :=
  (List.range (d.stream field).length).filter fun i => (d.stream field)[i]? = some term

/-- The positions of a term are the indices at which it stands. -/
lemma positionsIn_eq (term : String) (stream : List String) :
    positionsIn term stream =
      (List.range stream.length).filter fun i => stream[i]? = some term := by
  induction stream using List.reverseRecOn with
  | nil => rfl
  | append_singleton stream token ih =>
    have before : (List.range stream.length).filter (fun i => (stream ++ [token])[i]? = some term) =
        (List.range stream.length).filter fun i => stream[i]? = some term := by
      apply List.filter_congr
      intro i mem
      rw [List.getElem?_append_left (List.mem_range.mp mem)]
    rw [positionsIn_append_singleton, ih, List.length_append, List.length_singleton,
      List.range_succ, List.filter_append, before]
    congr 1
    by_cases same : token = term <;> simp [same]

/-- There is an index if the term occurs in the stream. -/
lemma positionsIn_eq_nil {term : String} {stream : List String} :
    positionsIn term stream = [] ↔ term ∉ stream := by
  rw [positionsIn_eq, List.filter_eq_nil_iff]
  constructor
  · intro none mem
    obtain ⟨i, here⟩ := List.mem_iff_getElem?.mp mem
    have lt := (List.getElem?_eq_some_iff.mp here).1
    exact none i (List.mem_range.mpr lt) (decide_eq_true here)
  · intro absent i _ here
    exact absent (List.mem_of_getElem? (of_decide_eq_true here))

/-- The postings of documents are those in whose streams the term occurs, with its indices. -/
lemma postingsOf_eq [Tokenizer] (field term : String) (docs : List Document) :
    postingsOf field term docs = docs.zipIdx.filterMap fun d =>
      if term ∈ d.1.stream field then some ⟨d.2, d.1.indices field term⟩ else none := by
  rw [postingsOf, Field.postingsFrom, List.zipIdx_map, List.filterMap_map]
  apply List.filterMap_congr
  intro d _
  show Field.posting? d.2 (positionsIn term (d.1.stream field)) = _
  rw [Field.posting?, if_congr positionsIn_eq_nil rfl rfl, ite_not, positionsIn_eq]
  rfl

/-- There are postings if the term occurs in one of the streams. -/
lemma postingsOf_eq_nil_iff [Tokenizer] {field term : String} {docs : List Document} :
    postingsOf field term docs = [] ↔ ∀ d ∈ docs, term ∉ d.stream field := by
  rw [postingsOf_eq, List.filterMap_eq_nil_iff]
  constructor
  · intro none d mem occurs
    obtain ⟨doc, here⟩ := List.mem_iff_getElem?.mp mem
    have posting := none (d, doc) (List.mem_zipIdx_iff_getElem?.mpr here)
    rw [if_pos occurs] at posting
    cases posting
  · intro absent d mem
    exact if_neg (absent d.1 (List.fst_mem_of_mem_zipIdx mem))

namespace Segment

/-- Going through a term's postings shows the documents in whose streams it stands. -/
lemma drain_cursor [Tokenizer] (base : Nat) {docs : List Document}
    (fits : docs.length ≤ noMoreDocs) (field term : String) :
    ∃ found, (ofDocuments base docs).cursor term field .positions = .ok found ∧
      (found = none ↔ ∀ d ∈ docs, term ∉ d.stream field) ∧
      ∀ p, found = some p → p.drain = docs.zipIdx.filterMap fun d =>
        let indices := d.1.indices field term
        if term ∈ d.1.stream field then some ⟨d.2, indices.length, .ok indices⟩ else none := by
  have opened : (ofDocuments base docs).cursor term field .positions = .ok _ :=
    cursor_ofDocuments (by decide)
  refine ⟨_, opened, ?_, ?_⟩
  · rw [← postingsOf_eq_nil_iff, ite_eq_left_iff]
    simp
  · intro p found
    rw [found] at opened
    have rising := rising_of_cursor fits opened
    split at found
    · cases found
    · cases found
      rw [Postings.ofList, rising.drain_eq, postingsOf_eq, List.map_filterMap]
      apply List.filterMap_congr
      intro d _
      rw [apply_ite (Option.map _)]
      rfl

end Segment

namespace Collection

variable {limit : Option Nat} {docs : List Document} {s : Segment}

/-- The documents that have their numbers in a segment. -/
def part (docs : List Document) (s : Segment) : List Document := (docs.drop s.base).take s.size

lemma ofDocuments_part [Tokenizer] (mem : s ∈ (ofDocuments limit docs).segments) :
    s = .ofDocuments s.base (part docs s) := by
  obtain ⟨before, here, after, all, rfl⟩ := exists_part_of_mem_segmentsFrom mem
  rw [flatten_pieces] at all
  have same : part docs (.ofDocuments (0 + before.length) here) = here := by
    rw [part, all, List.append_assoc]
    show ((before ++ (here ++ after)).drop (0 + before.length)).take here.length = here
    rw [Nat.zero_add, List.drop_left, List.take_left]
  rw [same]
  rfl

/-- Segments number their documents one after the other. -/
lemma flatten_numbers [Tokenizer] (base : Nat) (parts : List (List Document)) :
    ((segmentsFrom base parts).map fun s => List.range' s.base s.size).flatten =
      List.range' base parts.flatten.length := by
  induction parts generalizing base with
  | nil => rfl
  | cons docs parts ih =>
    rw [segmentsFrom, List.map_cons, List.flatten_cons, ih, List.flatten_cons, List.length_append]
    exact List.range'_append_1

/-- An index is a lossless inversion of its documents, however their texts are cut into tokens. -/
theorem lossless [Tokenizer] (limit : Option Nat) {docs : List Document}
    (numbered : docs.length ≤ noMoreDocs) :
    let c := ofDocuments limit docs
    (c.segments.map fun s => List.range' s.base s.size).flatten = List.range docs.length ∧
    ∀ s ∈ c.segments, ∀ field,
      (∀ term, ∃ found, s.cursor term field .positions = .ok found ∧
        (found = none ↔ ∀ d ∈ part docs s, term ∉ d.stream field) ∧
        ∀ p, found = some p → p.drain = (part docs s).zipIdx.filterMap fun d =>
          let indices := d.1.indices field term
          if term ∈ d.1.stream field then some ⟨d.2, indices.length, .ok indices⟩ else none) ∧
      ∀ doc d, (part docs s)[doc]? = some d → s.lengthOf doc field = .ok (d.stream field).length := by
  intro c
  constructor
  · show ((segmentsFrom 0 _).map _).flatten = _
    rw [flatten_numbers, flatten_pieces, List.range_eq_range']
  intro s mem field
  have indexed := ofDocuments_part mem
  have fits : (part docs s).length ≤ noMoreDocs :=
    (congrArg Segment.size indexed).symm.le.trans (indexed_of_mem numbered mem).fits
  constructor
  · intro term
    have drained := Segment.drain_cursor s.base fits field term
    rwa [← indexed] at drained
  · intro doc d here
    have length : (Segment.ofDocuments s.base (part docs s)).lengthOf doc field = _ :=
      Segment.lengthOf_ofDocuments here
    rwa [← indexed] at length

/-- Two segments; the first document has two values for one field, with another field in between. -/
theorem lossless_repeated :
    let docs : List Document := [⟨"d0", [("body", "a b"), ("title", "c"), ("body", "a")]⟩,
      ⟨"d1", [("title", "")]⟩, ⟨"d2", [("body", "b")]⟩]
    let s := Segment.ofDocuments 0 (docs.take 2)
    docs.length ≤ noMoreDocs ∧ s ∈ (ofDocuments (some 2) docs).segments ∧
    ∃ p, s.cursor "a" "body" .positions = .ok (some p) ∧ p.drain = [⟨0, 2, .ok [0, 2]⟩] := by
  intro docs s
  have numbered : docs.length ≤ noMoreDocs := by decide
  have mem : s ∈ (ofDocuments (some 2) docs).segments := by decide +kernel
  have occurs : ¬∀ d ∈ part docs s, "a" ∉ d.stream "body" := by decide +kernel
  obtain ⟨found, opened, none, drained⟩ := ((lossless (some 2) numbered).2 s mem "body").1 "a"
  cases found with
  | none => exact absurd (none.mp rfl) occurs
  | some p =>
    refine ⟨numbered, mem, p, opened, ?_⟩
    rw [drained p rfl]
    decide +kernel

end Collection

end Retrieval
