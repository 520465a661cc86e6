import Retrieval.Proofs.Collection.Rising

/-!
# A segment grows

A segment takes up one token after the other. At any time it is the inversion of the streams of
tokens that it has seen so far (`Field.Inverts`): the list of a term has one posting for each stream
in which the term occurs, with all its positions there. Documents are taken up in their order, so a
token always comes at the end of the last stream that is not empty. That is why it is enough to look
at the last posting of its list (`Field.Lists.record`).
-/

namespace Retrieval

namespace Document

/-- The tokens of a field: those of all its values, one value after the other. -/
def stream [Tokenizer] (field : String) (d : Document) : List String :=
  (d.fields.filter (·.1 = field)).flatMap fun value => Tokenizer.tokens value.2

/-- The document has values for a field. -/
def Has (field : String) (d : Document) : Prop := field ∈ d.fields.map (·.1)

instance instDecidableHas (field : String) (d : Document) : Decidable (d.Has field) :=
  inferInstanceAs (Decidable (_ ∈ _))

/-- There are no tokens in a field that a document does not have. -/
lemma stream_eq_nil [Tokenizer] {field : String} {d : Document} (lacks : ¬d.Has field) :
    d.stream field = [] := by
  have none : d.fields.filter (·.1 = field) = [] := by
    refine List.filter_eq_nil_iff.mpr fun value mem same => lacks ?_
    exact List.mem_map.mpr ⟨value, mem, of_decide_eq_true same⟩
  rw [stream, none, List.flatMap_nil]

/-- The document before any of its values has been taken up. -/
def blank (d : Document) : Document := ⟨d.name, []⟩

lemma has_append (field name : String) (values : List (String × String)) (value : String × String) :
    Has field ⟨name, values ++ [value]⟩ ↔ value.1 = field ∨ Has field ⟨name, values⟩ := by
  rw [Has, Has, List.map_append, List.mem_append, List.map_singleton, List.mem_singleton, or_comm,
    eq_comm]

lemma stream_blank [Tokenizer] (field : String) (d : Document) : d.blank.stream field = [] := rfl

/-- A value adds its tokens to the stream of its field. -/
lemma stream_append [Tokenizer] (field name : String) (values : List (String × String))
    (value : String × String) : stream field ⟨name, values ++ [value]⟩ =
      stream field ⟨name, values⟩ ++ if value.1 = field then Tokenizer.tokens value.2 else [] := by
  rw [stream, stream, List.filter_append, List.flatMap_append]
  congr 1
  by_cases same : value.1 = field <;> simp [same]

end Document

/-- The positions of a token in a stream. -/
def positionsIn (term : String) (stream : List String) : List Nat :=
  (stream.zipIdx.filter (·.1 = term)).map (·.2)

/-- A token at the end of a stream has the length of the stream for a position. -/
lemma positionsIn_append_singleton (term token : String) (stream : List String) :
    positionsIn term (stream ++ [token]) =
      positionsIn term stream ++ if token = term then [stream.length] else [] := by
  rw [positionsIn, positionsIn, List.zipIdx_append, List.filter_append, List.map_append]
  congr 1
  by_cases same : token = term <;> simp [same]

namespace Field

/-! ## The postings of streams -/

/-- The posting of a document, if it has any positions. -/
def posting? (doc : Nat) (positions : List Nat) : Option Posting :=
  if positions = [] then none else some ⟨doc, positions⟩

/-- The postings of a term in streams whose documents are numbered from `start`. -/
def postingsFrom (term : String) (start : Nat) (streams : List (List String)) : List Posting :=
  (streams.zipIdx start).filterMap fun s => posting? s.2 (positionsIn term s.1)

lemma postingsFrom_cons (term : String) (start : Nat) (stream : List String)
    (streams : List (List String)) : postingsFrom term start (stream :: streams) =
      (posting? start (positionsIn term stream)).toList ++ postingsFrom term (start + 1) streams := by
  rw [postingsFrom, postingsFrom, List.zipIdx_cons, List.filterMap_cons]
  cases posting? start (positionsIn term stream) <;> rfl

lemma postingsFrom_append (term : String) (start : Nat) (streams streams' : List (List String)) :
    postingsFrom term start (streams ++ streams') =
      postingsFrom term start streams ++ postingsFrom term (start + streams.length) streams' := by
  rw [postingsFrom, List.zipIdx_append, List.filterMap_append]
  rfl

lemma mem_postingsFrom {term : String} {start : Nat} {streams : List (List String)} {p : Posting} :
    p ∈ postingsFrom term start streams ↔ ∃ i stream, streams[i]? = some stream ∧
      positionsIn term stream ≠ [] ∧ p = ⟨start + i, positionsIn term stream⟩ := by
  rw [postingsFrom, List.mem_filterMap]
  constructor
  · rintro ⟨⟨stream, doc⟩, mem, made⟩
    obtain ⟨le, here⟩ := List.mk_mem_zipIdx_iff_le_and_getElem?_sub.mp mem
    rw [posting?] at made
    split at made
    · cases made
    · next some_ =>
      refine ⟨doc - start, stream, here, some_, ?_⟩
      rw [Nat.add_sub_cancel' le]
      exact (Option.some.inj made).symm
  · rintro ⟨i, stream, here, some_, rfl⟩
    refine ⟨(stream, start + i), ?_, if_neg some_⟩
    rw [List.mk_mem_zipIdx_iff_le_and_getElem?_sub, Nat.add_sub_cancel_left]
    exact ⟨Nat.le_add_right start i, here⟩

/-- Empty streams have no postings. -/
lemma postingsFrom_eq_nil {term : String} {start : Nat} {streams : List (List String)}
    (empty : ∀ stream ∈ streams, stream = []) : postingsFrom term start streams = [] := by
  refine List.eq_nil_iff_forall_not_mem.mpr fun p mem => ?_
  obtain ⟨i, stream, here, some_, _⟩ := mem_postingsFrom.mp mem
  rw [empty stream (List.mem_of_getElem? here)] at some_
  exact some_ rfl

/-- The postings of streams come in the order of their documents. -/
lemma postingsFrom_rising (term : String) (start : Nat) (streams : List (List String)) :
    (postingsFrom term start streams).Pairwise fun p q => p.doc < q.doc := by
  induction streams generalizing start with
  | nil => exact .nil
  | cons stream streams ih =>
    rw [postingsFrom_cons]
    refine List.pairwise_append.mpr ⟨?_, ih _, ?_⟩
    · cases posting? start (positionsIn term stream) with
      | none => exact .nil
      | some p => exact List.pairwise_singleton _ p
    · intro p here q later
      obtain ⟨i, _, _, _, rfl⟩ := mem_postingsFrom.mp later
      rw [Option.mem_toList, posting?] at here
      split at here
      · cases here
      · cases here
        show start < start + 1 + i
        omega

/-! ## One more token -/

/-- An occurrence goes into the last posting if that is of its document, and into a new one if not. -/
lemma addPosting_append {doc : Nat} {earlier : List Posting} (others : ∀ p ∈ earlier, p.doc ≠ doc)
    (positions : List Nat) (position : Nat) :
    addPosting doc position (earlier ++ (posting? doc positions).toList) =
      earlier ++ (posting? doc (positions ++ [position])).toList := by
  have added : posting? doc (positions ++ [position]) = some ⟨doc, positions ++ [position]⟩ :=
    if_neg (List.concat_ne_nil _ _)
  rw [added]
  by_cases some_ : positions = []
  · subst some_
    rw [posting?, if_pos rfl, Option.toList_none, List.append_nil, addPosting.eq_def]
    cases last : earlier.getLast? with
    | none =>
      rw [List.getLast?_eq_none_iff.mp last]
      rfl
    | some p => exact if_neg (others p (List.mem_of_getLast? last))
  · rw [posting?, if_neg some_, Option.toList_some, addPosting.eq_def, List.getLast?_concat,
      List.dropLast_concat]
    exact if_pos rfl

end Field

/-- Only the entry of the key changes. -/
lemma lookup_upsert {α : Type} (key k : String) (fresh : α) (change : α → α)
    (entries : List (String × α)) : (upsert key fresh change entries).lookup k =
      if key = k then some (change ((entries.lookup k).getD fresh)) else entries.lookup k := by
  have changed (l : List (String × α)) :
      (l.map fun e => if e.1 = key then (key, change e.2) else e).lookup k =
        if key = k then (l.lookup k).map change else l.lookup k := by
    induction l with
    | nil => simp
    | cons e l ih =>
      rw [List.map_cons, List.lookup_cons, List.lookup_cons, ih]
      by_cases here : e.1 = key
      · subst here
        by_cases same : e.1 = k
        · simp [same]
        · have other : (k == e.1) = false := beq_eq_false_iff_ne.mpr (Ne.symm same)
          simp [same, other]
      · rw [if_neg here]
        by_cases same : key = k
        · have other : (k == e.1) = false := beq_eq_false_iff_ne.mpr (same ▸ Ne.symm here)
          simp [same, other]
        · rw [if_neg same, if_neg same]
  rw [upsert, apply_ite (List.lookup k), changed, List.lookup_cons]
  by_cases same : key = k
  · subst same
    rw [if_pos rfl, if_pos rfl, beq_self_eq_true]
    cases entries.lookup key <;> rfl
  · have other : (k == key) = false := beq_eq_false_iff_ne.mpr (Ne.symm same)
    rw [if_neg same, if_neg same, other, ite_self]

namespace Field

/-- The lists hold the postings of streams; there is no list for a term that does not occur. -/
def Lists (streams : List (List String)) (postings : List (String × List Posting)) : Prop :=
  ∀ term, postings.lookup term =
    if postingsFrom term 0 streams = [] then none else some (postingsFrom term 0 streams)

section Growth

variable {before after : List (List String)} {stream : List String}

/-- Where later streams are still empty, only the earlier ones and this one have postings. -/
lemma postingsFrom_split (term : String) (stream : List String) (empty : ∀ s ∈ after, s = []) :
    postingsFrom term 0 (before ++ stream :: after) =
      postingsFrom term 0 before ++ (posting? before.length (positionsIn term stream)).toList := by
  rw [postingsFrom_append, postingsFrom_cons, postingsFrom_eq_nil empty, List.append_nil,
    Nat.zero_add]

/-- Recording a token keeps up with its stream. -/
lemma Lists.record {postings : List (String × List Posting)} (token : String)
    (lists : Lists (before ++ stream :: after) postings) (empty : ∀ s ∈ after, s = []) :
    Lists (before ++ (stream ++ [token]) :: after)
      (record before.length stream.length token postings) := by
  intro term
  rw [Field.record, lookup_upsert, lists term, postingsFrom_split term _ empty,
    postingsFrom_split term _ empty, positionsIn_append_singleton]
  by_cases same : token = term
  · have others : ∀ p ∈ postingsFrom term 0 before, p.doc ≠ before.length := by
      intro p mem
      obtain ⟨i, _, here, _, rfl⟩ := mem_postingsFrom.mp mem
      have lt := (List.getElem?_eq_some_iff.mp here).1
      show 0 + i ≠ before.length
      omega
    have added := addPosting_append others (positionsIn term stream) stream.length
    have some_ : postingsFrom term 0 before ++
        (posting? before.length (positionsIn term stream ++ [stream.length])).toList ≠ [] := by
      rw [posting?, if_neg (List.concat_ne_nil _ _)]
      exact List.append_ne_nil_of_right_ne_nil _ (List.cons_ne_nil _ _)
    rw [if_pos same, if_pos same, if_neg some_, ← added]
    split
    · next none => rw [none, Option.getD_none]
    · rw [Option.getD_some]
  · rw [if_neg same, if_neg same, List.append_nil]

/-- Recording the tokens of a value keeps up with their stream. -/
lemma Lists.foldl_record {postings : List (String × List Posting)} (tokens : List String)
    (lists : Lists (before ++ stream :: after) postings) (empty : ∀ s ∈ after, s = []) :
    Lists (before ++ (stream ++ tokens) :: after)
      ((tokens.zipIdx stream.length).foldl
        (fun ps t => Field.record before.length t.2 t.1 ps) postings) := by
  induction tokens generalizing stream postings with
  | nil => rwa [List.append_nil]
  | cons token tokens ih =>
    have next := ih (lists.record token empty)
    rw [List.length_append, List.append_assoc] at next
    exact next

end Growth

/-- A field is the inversion of streams. -/
structure Inverts (streams : List (List String)) (f : Field) : Prop where
  lengths : f.lengths.toList = streams.map List.length
  lists : Lists streams f.postings

/-- A field without tokens is the inversion of empty streams. -/
lemma inverts_empty {streams : List (List String)} (none : ∀ s ∈ streams, s = []) :
    (empty streams.length).Inverts streams where
  lengths := by
    rw [empty, Array.toList_replicate]
    symm
    rw [List.eq_replicate_iff, List.length_map]
    refine ⟨rfl, List.forall_mem_map.mpr fun s mem => ?_⟩
    rw [none s mem, List.length_nil]
  lists := by
    intro term
    rw [postingsFrom_eq_nil none, if_pos rfl]
    rfl

/-- Adding a value lengthens the stream of its document. -/
lemma Inverts.addValue {before after : List (List String)} {stream : List String} {f : Field}
    (inverts : f.Inverts (before ++ stream :: after)) (empty : ∀ s ∈ after, s = [])
    (tokens : List String) :
    (f.addValue before.length tokens).Inverts (before ++ (stream ++ tokens) :: after) := by
  obtain ⟨lengths, lists⟩ := inverts
  have offset : f.lengths.getD before.length 0 = stream.length := by
    rw [Array.getD_eq_getD_getElem?, ← Array.getElem?_toList, lengths]
    simp
  constructor
  · rw [Field.addValue, offset, Array.toList_setIfInBounds, lengths]
    simp
  · rw [Field.addValue, offset]
    exact lists.foldl_record tokens empty

end Field

namespace Segment

/-! ## One more document -/

variable [Tokenizer]

/-- The fields are the inversions of the streams of documents, as far as these have been taken up. -/
structure Inverts (size : Nat) (docs : List Document) (fields : List (String × Field)) : Prop where
  has : ∀ name, (fields.lookup name).isSome ↔ ∃ d ∈ docs, d.Has name
  field : ∀ name,
    ((fields.lookup name).getD (.empty size)).Inverts (docs.map (Document.stream name))

section Growth

variable {size : Nat} {before after : List Document} {fields : List (String × Field)}

/-- Documents of which nothing has been taken up have no tokens. -/
lemma map_stream_blank (name : String) (docs : List Document) :
    ∀ s ∈ (docs.map Document.blank).map (Document.stream name), s = [] := by
  rw [List.map_map]
  exact List.forall_mem_map.mpr fun d _ => d.stream_blank name

/-- At first nothing has been taken up of any document. -/
lemma inverts_nil (docs : List Document) : Inverts docs.length (docs.map Document.blank) [] where
  has name := by simp [Document.Has, Document.blank]
  field name := by
    have empty := Field.inverts_empty (map_stream_blank name docs)
    rwa [List.length_map, List.length_map] at empty

/-- Taking up a value of a document, while nothing has been taken up of those that follow. -/
lemma Inverts.addValue {name : String} {values : List (String × String)}
    (inverts : Inverts size (before ++ ⟨name, values⟩ :: after.map Document.blank) fields)
    (value : String × String) :
    Inverts size (before ++ ⟨name, values ++ [value]⟩ :: after.map Document.blank)
      (upsert value.1 (.empty size) (·.addValue before.length (Tokenizer.tokens value.2)) fields) := by
  obtain ⟨has, field⟩ := inverts
  constructor
  · intro key
    have more : (∃ d ∈ before ++ ⟨name, values ++ [value]⟩ :: after.map Document.blank, d.Has key) ↔
        value.1 = key ∨ ∃ d ∈ before ++ ⟨name, values⟩ :: after.map Document.blank, d.Has key := by
      simp only [List.mem_append, List.mem_cons, or_and_right, exists_or, exists_eq_left,
        Document.has_append, or_assoc, or_left_comm]
    rw [lookup_upsert, more, ← has key]
    by_cases same : value.1 = key <;> simp [same]
  · intro key
    have before_ := field key
    rw [List.map_append, List.map_cons] at before_ ⊢
    rw [lookup_upsert, Document.stream_append]
    by_cases same : value.1 = key
    · have added := before_.addValue (map_stream_blank key after) (Tokenizer.tokens value.2)
      rw [List.length_map] at added
      rw [if_pos same, if_pos same, Option.getD_some]
      exact added
    · rw [if_neg same, if_neg same, List.append_nil]
      exact before_

/-- Taking up all values of a document. -/
lemma Inverts.addDocument {name : String} {values : List (String × String)}
    (inverts : Inverts size (before ++ ⟨name, values⟩ :: after.map Document.blank) fields)
    (more : List (String × String)) :
    Inverts size (before ++ ⟨name, values ++ more⟩ :: after.map Document.blank)
      (Segment.addDocument size before.length ⟨name, more⟩ fields) := by
  induction more generalizing values fields with
  | nil => rwa [List.append_nil]
  | cons value more ih =>
    have next := ih (inverts.addValue value)
    rwa [List.append_assoc] at next

/-- Taking up all documents. -/
lemma Inverts.addDocuments {docs : List Document}
    (inverts : Inverts size (before ++ docs.map Document.blank) fields) :
    Inverts size (before ++ docs) ((docs.zipIdx before.length).foldl
      (fun fields d => Segment.addDocument size d.2 d.1 fields) fields) := by
  induction docs generalizing before fields with
  | nil => exact inverts
  | cons d docs ih =>
    have here := inverts.addDocument d.fields
    have step : before ++ d :: docs.map Document.blank =
        (before ++ [d]) ++ docs.map Document.blank := by simp
    rw [List.nil_append] at here
    change Inverts size (before ++ d :: docs.map Document.blank) _ at here
    rw [step] at here
    have next := ih here
    rw [List.length_append, List.append_assoc] at next
    exact next

end Growth

/-- The fields of a segment are the inversions of the streams of its documents. -/
theorem inverts_ofDocuments (base : Nat) (docs : List Document) :
    Inverts docs.length docs (ofDocuments base docs).fields := by
  have start : Inverts docs.length ([] ++ docs.map Document.blank) [] := inverts_nil docs
  exact start.addDocuments

end Segment

end Retrieval
