import Retrieval.Proofs.Collection.Lossless

/-!
# Statistics count tokens

The statistics of a collection are what counting its tokens gives. The frequency of a term is how
often it stands in the streams of a field, and its document frequency in how many of them; the sizes
of the field are the tokens of all streams and the streams that have any (`Statistics.ofTerm_eq`). So
the frequencies are bounded by the sizes, and none of the numbers depends on where the collection is
cut (`Collection.statistics_exact`).
-/

namespace Retrieval

/-- A term has as many positions as it has occurrences. -/
lemma length_positionsIn (term : String) (stream : List String) :
    (positionsIn term stream).length = stream.count term := by
  have tokens : stream.zipIdx.map Prod.fst = stream := List.zipIdx_map_fst 0 stream
  calc (positionsIn term stream).length
    _ = (stream.zipIdx.filter (·.1 = term)).length := List.length_map _
    _ = stream.zipIdx.countP (·.1 = term) := List.countP_eq_length_filter.symm
    _ = (stream.zipIdx.map Prod.fst).countP (· == term) := by rw [List.countP_map]; rfl
    _ = stream.count term := by rw [tokens, List.count]

/-- Members that each have something number at most as many as all that they have. -/
lemma countP_le_sum {α : Type} {p : α → Bool} {size : α → Nat} (as : List α)
    (some_ : ∀ a ∈ as, p a → 0 < size a) : as.countP p ≤ (as.map size).sum := by
  induction as with
  | nil => exact Nat.zero_le _
  | cons a as ih =>
    obtain ⟨first, rest⟩ := List.forall_mem_cons.mp some_
    have later := ih rest
    rw [List.countP_cons, List.map_cons, List.sum_cons]
    split
    · next counted =>
      have here := first counted
      omega
    · omega

namespace Statistics

variable [Tokenizer] (term field : String) (docs : List Document)

/-- The statistics of a term in documents, as counts of tokens and of streams. -/
lemma ofTerm_eq : ofTerm term field docs = {
    source := s!"{field}:{term}"
    cf := (docs.flatMap (Document.stream field)).count term
    df := docs.countP (term ∈ ·.stream field)
    cl := (docs.flatMap (Document.stream field)).length
    dc := docs.countP (·.stream field ≠ []) } := by
  have occurrences (d : Document) : (d.positions field term).length = (d.stream field).count term :=
    length_positionsIn term (d.stream field)
  have occurs (d : Document) : decide (d.positions field term ≠ []) = decide (term ∈ d.stream field) :=
    decide_eq_decide.mpr ((not_congr positionsIn_eq_nil).trans not_not)
  have some_ (d : Document) : decide (0 < (d.stream field).length) = decide (d.stream field ≠ []) :=
    decide_eq_decide.mpr List.length_pos_iff
  rw [ofTerm, tokensIn, nonEmptyIn, addUp_eq_sum, addUp_eq_sum, List.count_flatMap,
    List.length_flatMap]
  simp only [occurrences, occurs, some_]
  rfl

/-- A term occurs at least once in each document that it occurs in. -/
lemma df_le_cf : (ofTerm term field docs).df ≤ (ofTerm term field docs).cf :=
  countP_le_sum docs fun _ _ occurs => List.length_pos_iff.mpr (of_decide_eq_true occurs)

/-- Occurrences are tokens. -/
lemma cf_le_cl : (ofTerm term field docs).cf ≤ (ofTerm term field docs).cl := by
  rw [ofTerm_eq]
  exact List.count_le_length

/-- A term occurs in documents that have a token. -/
lemma df_le_dc : (ofTerm term field docs).df ≤ (ofTerm term field docs).dc := by
  rw [ofTerm_eq]
  refine List.countP_mono_left fun d _ occurs => ?_
  exact decide_eq_true (List.ne_nil_of_mem (of_decide_eq_true occurs))

/-- Documents that have a token have at least one. -/
lemma dc_le_cl : (ofTerm term field docs).dc ≤ (ofTerm term field docs).cl :=
  countP_le_sum docs fun _ _ some_ => of_decide_eq_true some_

end Statistics

namespace Collection

/-- The statistics of a collection are what counting its tokens gives, wherever it is cut. There are
statistics of a field unless no document has it, with the sizes that those of any term have. -/
theorem statistics_exact [Tokenizer] (limit : Option Nat) (docs : List Document)
    (term field : String) :
    let c := ofDocuments limit docs
    let known := c.termStatistics term field
    known.source = s!"{field}:{term}" ∧
    known.cf = (docs.flatMap (Document.stream field)).count term ∧
    known.df = docs.countP (term ∈ ·.stream field) ∧
    known.cl = (docs.flatMap (Document.stream field)).length ∧
    known.dc = docs.countP (·.stream field ≠ []) ∧
    (known.df ≤ known.cf ∧ known.cf ≤ known.cl) ∧ (known.df ≤ known.dc ∧ known.dc ≤ known.cl) ∧
    (c.fieldStatistics? field = none ↔ ∀ d ∈ docs, ¬d.Has field) ∧
    (∀ whole ∈ c.fieldStatistics? field, whole = .ofField field known.cl known.dc) ∧
    ∀ limit', (ofDocuments limit' docs).termStatistics term field = known ∧
      (ofDocuments limit' docs).fieldStatistics? field = c.fieldStatistics? field := by
  intro c known
  have counted : known = .ofTerm term field docs := termStatistics_ofDocuments limit docs term field
  have fields : c.fieldStatistics? field = Statistics.ofField? field docs :=
    fieldStatistics?_ofDocuments limit docs field
  have exact_ := counted.trans (Statistics.ofTerm_eq term field docs)
  refine ⟨congrArg Statistics.source exact_, congrArg Statistics.cf exact_,
    congrArg Statistics.df exact_, congrArg Statistics.cl exact_, congrArg Statistics.dc exact_,
    ?bounds, ?bounds', ?lacks, ?sizes, fun limit' => ⟨?_, ?_⟩⟩
  case bounds =>
    rw [counted]
    exact ⟨Statistics.df_le_cf term field docs, Statistics.cf_le_cl term field docs⟩
  case bounds' =>
    rw [counted]
    exact ⟨Statistics.df_le_dc term field docs, Statistics.dc_le_cl term field docs⟩
  case lacks =>
    rw [fields, Statistics.ofField?, ite_eq_right_iff]
    simp
  case sizes =>
    rw [fields, Statistics.ofField?, counted]
    intro whole found
    split at found
    · exact (Option.some.inj found).symm
    · cases found
  · rw [counted, termStatistics_ofDocuments]
  · rw [fields, fieldStatistics?_ofDocuments]

/-- Values of a field go on one after the other, and documents without it count for nothing. -/
example : (ofDocuments (some 1) [⟨"d0", [("body", "a b"), ("title", "c"), ("body", "a")]⟩,
      ⟨"d1", [("title", "a")]⟩, ⟨"d2", [("body", "b")]⟩]).termStatistics "a" "body" =
    ⟨"body:a", 2, 1, 4, 2⟩ := by
  decide +kernel

end Collection

end Retrieval
