import Retrieval.Proofs.Collection.Growth
import Mathlib.Algebra.GroupWithZero.Nat

/-!
# What a segment keeps of its documents

Indexing loses nothing of what documents have in a field: the list of a term is made of one posting
for each document in which the term occurs, with all its positions there
(`Segment.cursor_ofDocuments`). A field that none of the documents has is as good as one that is
empty in all of them. So the length of a document and the statistics of a segment can be read off
its documents (`Segment.lengthOf_ofDocuments`, `Segment.termStatistics_ofDocuments`,
`Segment.fieldStatistics?_ofDocuments`).
-/

namespace Retrieval

/-- The positions of a term in a field of a document. -/
def Document.positions [Tokenizer] (field term : String) (d : Document) : List Nat :=
  positionsIn term (d.stream field)

lemma Document.positions_eq_nil [Tokenizer] {field term : String} {d : Document}
    (lacks : ¬d.Has field) : d.positions field term = [] := by
  rw [positions, stream_eq_nil lacks]
  rfl

/-! ## Posting lists -/

lemma addUp_eq_sum (counts : List Nat) : addUp counts = counts.sum := rfl

namespace Field

/-- All positions of a term are in its postings. -/
lemma addUp_postingsFrom (term : String) (start : Nat) (streams : List (List String)) :
    addUp ((postingsFrom term start streams).map (·.positions.length)) =
      addUp (streams.map fun stream => (positionsIn term stream).length) := by
  induction streams generalizing start with
  | nil => rfl
  | cons stream streams ih =>
    rw [postingsFrom_cons, posting?]
    split
    · next none => simpa [none, addUp] using ih (start + 1)
    · simpa [addUp] using ih (start + 1)

/-- There is one posting for each document in which the term occurs. -/
lemma length_postingsFrom (term : String) (start : Nat) (streams : List (List String)) :
    (postingsFrom term start streams).length = streams.countP (positionsIn term · ≠ []) := by
  induction streams generalizing start with
  | nil => rfl
  | cons stream streams ih =>
    rw [postingsFrom_cons, List.length_append, ih, posting?, List.countP_cons, Nat.add_comm]
    split
    · next none => simp [none]
    · next some_ => simp [some_]

end Field

/-! ## Segments -/

variable [Tokenizer]

/-- The postings of a term in a field of documents. -/
def postingsOf (field term : String) (docs : List Document) : List Posting :=
  Field.postingsFrom term 0 (docs.map (Document.stream field))

/-- There is one posting for each document in which the term occurs, with the positions there. -/
lemma mem_postingsOf {field term : String} {docs : List Document} {p : Posting} :
    p ∈ postingsOf field term docs ↔ ∃ d, docs[p.doc]? = some d ∧ d.positions field term ≠ [] ∧
      p.positions = d.positions field term := by
  rw [postingsOf, Field.mem_postingsFrom]
  constructor
  · rintro ⟨i, stream, here, some_, rfl⟩
    rw [List.getElem?_map, Option.map_eq_some_iff] at here
    obtain ⟨d, here, rfl⟩ := here
    exact ⟨d, by rwa [Nat.zero_add], some_, rfl⟩
  · rintro ⟨d, here, some_, same⟩
    refine ⟨p.doc, d.stream field, ?_, some_, ?_⟩
    · rw [List.getElem?_map, here]
      rfl
    · rw [Nat.zero_add]
      exact congrArg (Posting.mk p.doc) same

/-- The postings of documents come in their order. -/
lemma postingsOf_rising (field term : String) (docs : List Document) :
    (postingsOf field term docs).Pairwise fun p q => p.doc < q.doc :=
  Field.postingsFrom_rising ..

namespace Segment

variable {base : Nat} {docs : List Document} {field : String}

/-- A segment has the fields that its documents have, each with their streams. -/
lemma exists_field?_eq (base : Nat) (docs : List Document) (field : String) :
    ∃ f : Field, f.Inverts (docs.map (Document.stream field)) ∧
      (ofDocuments base docs).field? field = if ∃ d ∈ docs, d.Has field then some f else none := by
  obtain ⟨has, inverts⟩ := inverts_ofDocuments base docs
  refine ⟨_, inverts field, ?_⟩
  rw [if_congr (has field).symm rfl rfl, field?]
  cases (ofDocuments base docs).fields.lookup field <;> rfl

/-- A term does not occur in a field that no document has. -/
lemma postingsOf_eq_nil {term : String} (lack : ¬∃ d ∈ docs, d.Has field) :
    postingsOf field term docs = [] := by
  refine List.eq_nil_iff_forall_not_mem.mpr fun p mem => ?_
  obtain ⟨d, here, some_, _⟩ := mem_postingsOf.mp mem
  exact some_ (d.positions_eq_nil fun has => lack ⟨d, List.mem_of_getElem? here, has⟩)

/-- A cursor goes through the postings of its term, if there are any. -/
theorem cursor_ofDocuments {term : String} {needed : Need} (other : needed ≠ .scores) :
    (ofDocuments base docs).cursor term field needed =
      .ok (if postingsOf field term docs = [] then none
        else some (.ofList (postingsOf field term docs) needed)) := by
  obtain ⟨f, inverts, here⟩ := exists_field?_eq base docs field
  rw [cursor, if_neg other, here]
  by_cases has : ∃ d ∈ docs, d.Has field
  · rw [if_pos has, Option.bind_some, inverts.lists term]
    change Except.ok (Option.map _ (if postingsOf field term docs = [] then _ else _)) = _
    split <;> rfl
  · rw [if_neg has, postingsOf_eq_nil has]
    rfl

/-- The length of a document is that of its stream. -/
theorem lengthOf_ofDocuments {doc : Nat} {d : Document} (here : docs[doc]? = some d) :
    (ofDocuments base docs).lengthOf doc field = .ok (d.stream field).length := by
  have inside : ¬(ofDocuments base docs).size ≤ doc :=
    Nat.not_le_of_lt (List.getElem?_eq_some_iff.mp here).1
  obtain ⟨f, inverts, found⟩ := exists_field?_eq base docs field
  rw [lengthOf, if_neg inside, found]
  by_cases has : ∃ d ∈ docs, d.Has field
  · rw [if_pos has, Option.elim_some, Array.getD_eq_getD_getElem?, ← Array.getElem?_toList,
      inverts.lengths, List.getElem?_map, List.getElem?_map, here]
    rfl
  · have lacks : ¬d.Has field := fun h => has ⟨d, List.mem_of_getElem? here, h⟩
    rw [if_neg has, d.stream_eq_nil lacks]
    rfl

/-- The postings of an indexed segment rise and lie in its documents. -/
lemma rest_of_cursor {term : String} {needed : Need} {p : Postings}
    (h : (ofDocuments base docs).cursor term field needed = .ok (some p)) :
    p.rest.Pairwise (fun q r => q.doc < r.doc) ∧ ∀ q ∈ p.rest, q.doc < docs.length := by
  by_cases scores : needed = .scores
  · rw [cursor, if_pos scores] at h
    cases h
  · rw [cursor_ofDocuments scores] at h
    split at h
    · cases h
    · cases h
      refine ⟨postingsOf_rising field term docs, fun q mem => ?_⟩
      obtain ⟨d, here, _⟩ := mem_postingsOf.mp mem
      exact (List.getElem?_eq_some_iff.mp here).1

/-- Cursors over the postings of an indexed segment rise. -/
theorem rising_of_cursor {term : String} {needed : Need} {p : Postings}
    (fits : docs.length ≤ noMoreDocs)
    (h : (ofDocuments base docs).cursor term field needed = .ok (some p)) : p.Rising := by
  obtain ⟨rise, inside⟩ := rest_of_cursor h
  exact ⟨rise, fun q hq => (inside q hq).trans_le fits⟩

/-- The segment is indexed from documents that all have numbers below the end. -/
structure Indexed (s : Segment) : Prop where
  docs : ∃ docs, s = ofDocuments s.base docs
  fits : s.size ≤ noMoreDocs

/-- The cursors of an indexed segment rise, and their postings lie in the segment. -/
lemma Indexed.cursor {s : Segment} {term field needed p} (indexed : s.Indexed)
    (h : s.cursor term field needed = .ok (some p)) :
    p.Rising ∧ ∀ q ∈ p.rest, q.doc < s.size := by
  obtain ⟨⟨docs, e⟩, fits⟩ := indexed
  rw [e] at h fits ⊢
  exact ⟨rising_of_cursor fits h, (rest_of_cursor h).2⟩

end Segment

/-! ## Statistics -/

/-- The number of tokens that documents have in a field. -/
def tokensIn (field : String) (docs : List Document) : Nat :=
  addUp (docs.map fun d => (d.stream field).length)

/-- The number of documents with a token in a field. -/
def nonEmptyIn (field : String) (docs : List Document) : Nat :=
  docs.countP fun d => 0 < (d.stream field).length

/-- The statistics of a term in a field of documents. -/
def Statistics.ofTerm (term field : String) (docs : List Document) : Statistics where
  source := s!"{field}:{term}"
  cf := addUp (docs.map fun d => (d.positions field term).length)
  df := docs.countP (·.positions field term ≠ [])
  cl := tokensIn field docs
  dc := nonEmptyIn field docs

/-- The statistics of a field in documents, if any of them has it. -/
def Statistics.ofField? (field : String) (docs : List Document) : Option Statistics :=
  if ∃ d ∈ docs, d.Has field then
    some (.ofField field (tokensIn field docs) (nonEmptyIn field docs))
  else none

namespace Segment

variable {base : Nat} {docs : List Document} {field : String}

lemma total_of_inverts {f : Field} (inverts : f.Inverts (docs.map (Document.stream field))) :
    f.total = tokensIn field docs := by
  rw [Field.total, inverts.lengths, List.map_map]
  rfl

lemma nonEmpty_of_inverts {f : Field} (inverts : f.Inverts (docs.map (Document.stream field))) :
    f.nonEmpty = nonEmptyIn field docs := by
  rw [Field.nonEmpty, inverts.lengths, List.map_map, List.countP_map]
  rfl

/-- There are no tokens in a field that no document has. -/
lemma sizes_eq_zero (lack : ¬∃ d ∈ docs, d.Has field) :
    tokensIn field docs = 0 ∧ nonEmptyIn field docs = 0 := by
  have none : ∀ d ∈ docs, d.stream field = [] :=
    fun d mem => d.stream_eq_nil fun has => lack ⟨d, mem, has⟩
  constructor
  · rw [tokensIn, addUp_eq_sum, List.sum_eq_zero_iff_forall_eq_nat]
    refine List.forall_mem_map.mpr fun d mem => ?_
    rw [none d mem, List.length_nil]
  · refine List.countP_eq_zero.mpr fun d mem => ?_
    simp [none d mem]

/-- The statistics of a term in a segment are those of its documents. -/
theorem termStatistics_ofDocuments (base : Nat) (docs : List Document) (term field : String) :
    (ofDocuments base docs).termStatistics term field = .ofTerm term field docs := by
  have positions : addUp ((postingsOf field term docs).map (·.positions.length)) =
      addUp (docs.map fun d => (d.positions field term).length) := by
    rw [postingsOf, Field.addUp_postingsFrom, List.map_map]
    rfl
  have occurs : (postingsOf field term docs).length = docs.countP (·.positions field term ≠ []) := by
    rw [postingsOf, Field.length_postingsFrom, List.countP_map]
    rfl
  obtain ⟨f, inverts, found⟩ := exists_field?_eq base docs field
  rw [termStatistics, found, Statistics.ofTerm, ← positions, ← occurs]
  by_cases has : ∃ d ∈ docs, d.Has field
  · have list : f.list term = postingsOf field term docs := by
      rw [Field.list, inverts.lists term, ← postingsOf]
      split
      · next none => rw [none, Option.getD_none]
      · rfl
    rw [if_pos has]
    dsimp only
    rw [list, total_of_inverts inverts, nonEmpty_of_inverts inverts]
  · obtain ⟨total, nonEmpty⟩ := sizes_eq_zero has
    rw [if_neg has, postingsOf_eq_nil has, total, nonEmpty]
    rfl

/-- A segment has statistics of the fields that any of its documents has. -/
theorem fieldStatistics?_ofDocuments (base : Nat) (docs : List Document) (field : String) :
    (ofDocuments base docs).fieldStatistics? field = Statistics.ofField? field docs := by
  obtain ⟨f, inverts, found⟩ := exists_field?_eq base docs field
  rw [fieldStatistics?, found, Statistics.ofField?]
  by_cases has : ∃ d ∈ docs, d.Has field
  · rw [if_pos has, if_pos has, Option.map_some, total_of_inverts inverts,
      nonEmpty_of_inverts inverts]
  · rw [if_neg has, if_neg has, Option.map_none]

end Segment

end Retrieval
