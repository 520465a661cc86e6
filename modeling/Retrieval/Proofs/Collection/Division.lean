import Retrieval.Environment
import Retrieval.Proofs.Collection.Inversion
import Retrieval.Proofs.Collection.Segments
import Mathlib.Algebra.BigOperators.Group.List.Basic

/-!
# Cutting a collection into segments

Each segment of a collection is indexed from a part of its documents, under the numbers that they
have in the collection (`Collection.exists_part`). Statistics are sums over documents, so it does not
matter to those of the collection where it has been cut (`Collection.termStatistics_ofDocuments`,
`Collection.fieldStatistics?_ofDocuments`).
-/

namespace Retrieval

/-! ## Sums over parts -/

section Sums

variable [Tokenizer] (term field : String) (docs docs' : List Document)

lemma tokensIn_append : tokensIn field (docs ++ docs') = tokensIn field docs + tokensIn field docs' := by
  simp only [tokensIn, addUp_eq_sum, List.map_append, List.sum_append]

lemma nonEmptyIn_append :
    nonEmptyIn field (docs ++ docs') = nonEmptyIn field docs + nonEmptyIn field docs' :=
  List.countP_append

/-- Statistics of two parts add up. -/
lemma Statistics.ofTerm_append :
    ofTerm term field (docs ++ docs') = (ofTerm term field docs).add (ofTerm term field docs') := by
  simp only [ofTerm, add, tokensIn_append, nonEmptyIn_append, addUp_eq_sum, List.map_append,
    List.sum_append, List.countP_append]

end Sums

namespace Collection

variable [Tokenizer] {limit : Option Nat} {docs : List Document} {s : Segment}

/-- What segments have of their documents alone they have wherever they begin. -/
lemma map_segmentsFrom {α : Type} {ofSegment : Segment → α} {ofDocs : List Document → α}
    (free : ∀ base docs, ofSegment (.ofDocuments base docs) = ofDocs docs) (base : Nat)
    (parts : List (List Document)) : (segmentsFrom base parts).map ofSegment = parts.map ofDocs := by
  induction parts generalizing base with
  | nil => rfl
  | cons docs parts ih => rw [segmentsFrom, List.map_cons, List.map_cons, free, ih]

/-- The statistics of a term in a collection are those of its documents. -/
theorem termStatistics_ofDocuments (limit : Option Nat) (docs : List Document)
    (term field : String) :
    (ofDocuments limit docs).termStatistics term field = .ofTerm term field docs := by
  have add_parts (before : List Document) (parts : List (List Document)) :
      (parts.map (Statistics.ofTerm term field)).foldl Statistics.add
        (Statistics.ofTerm term field before) =
      Statistics.ofTerm term field (before ++ parts.flatten) := by
    induction parts generalizing before with
    | nil => rw [List.flatten_nil, List.append_nil]; rfl
    | cons part parts ih =>
      rw [List.map_cons, List.foldl_cons, ← Statistics.ofTerm_append, ih, List.flatten_cons,
        List.append_assoc]
  have parts := add_parts [] (pieces (limit.getD docs.length - 1) docs)
  rw [flatten_pieces, List.nil_append] at parts
  rw [termStatistics, ofDocuments, map_segmentsFrom fun base docs =>
    Segment.termStatistics_ofDocuments base docs term field]
  exact parts

/-- Parts that lack a field add nothing to its statistics. -/
lemma foldl_ofField (field : String) (before : List Document) (parts : List (List Document)) :
    (parts.filterMap (Statistics.ofField? field)).foldl Statistics.add
        (.ofField field (tokensIn field before) (nonEmptyIn field before)) =
      .ofField field (tokensIn field (before ++ parts.flatten))
        (nonEmptyIn field (before ++ parts.flatten)) := by
  induction parts generalizing before with
  | nil => rw [List.flatten_nil, List.append_nil]; rfl
  | cons part parts ih =>
    rw [List.flatten_cons, ← List.append_assoc, ← ih, List.filterMap_cons, Statistics.ofField?]
    by_cases has : ∃ d ∈ part, d.Has field
    · rw [if_pos has, tokensIn_append, nonEmptyIn_append]
      rfl
    · obtain ⟨tokens, nonEmpty⟩ := Segment.sizes_eq_zero has
      rw [if_neg has, tokensIn_append, nonEmptyIn_append, tokens, nonEmpty]
      rfl

/-- The statistics of a field in a collection are those of its documents. -/
theorem fieldStatistics?_ofDocuments (limit : Option Nat) (docs : List Document) (field : String) :
    (ofDocuments limit docs).fieldStatistics? field = Statistics.ofField? field docs := by
  have found (base : Nat) (parts : List (List Document)) :
      (segmentsFrom base parts).filterMap (·.fieldStatistics? field) =
        parts.filterMap (Statistics.ofField? field) := by
    have each : (segmentsFrom base parts).map (·.fieldStatistics? field) =
        parts.map (Statistics.ofField? field) :=
      map_segmentsFrom (fun base docs => Segment.fieldStatistics?_ofDocuments base docs field) ..
    have kept := congrArg (List.filterMap id) each
    rwa [List.filterMap_map, List.filterMap_map] at kept
  have add_parts (parts : List (List Document)) :
      (⟨segmentsFrom 0 parts, #[]⟩ : Collection).fieldStatistics? field =
        Statistics.ofField? field parts.flatten := by
    rw [fieldStatistics?, found]
    induction parts with
    | nil => rfl
    | cons part parts ih =>
      rw [List.filterMap_cons, Statistics.ofField?, List.flatten_cons]
      by_cases has : ∃ d ∈ part, d.Has field
      · have any : ∃ d ∈ part ++ parts.flatten, d.Has field := by
          obtain ⟨d, mem, has⟩ := has
          exact ⟨d, List.mem_append_left _ mem, has⟩
        rw [if_pos has]
        dsimp only
        rw [foldl_ofField, Statistics.ofField?, if_pos any]
      · obtain ⟨tokens, nonEmpty⟩ := Segment.sizes_eq_zero has
        have any : (∃ d ∈ part ++ parts.flatten, d.Has field) ↔
            ∃ d ∈ parts.flatten, d.Has field := by
          simp only [List.mem_append, or_and_right, exists_or, has, false_or]
        rw [if_neg has]
        dsimp only
        rw [ih, Statistics.ofField?, Statistics.ofField?, if_congr any rfl rfl, tokensIn_append,
          nonEmptyIn_append, tokens, nonEmpty, Nat.zero_add, Nat.zero_add]
  have parts := add_parts (pieces (limit.getD docs.length - 1) docs)
  rw [flatten_pieces] at parts
  exact parts

omit [Tokenizer] in
/-- A field is known if it has statistics. -/
lemma knownField_eq_ok {c : Collection} {field : String} {known : Statistics} :
    c.knownField field = .ok known ↔ c.fieldStatistics? field = some known := by
  rw [knownField]
  cases c.fieldStatistics? field <;> simp

section Attaching

variable {R : Type} (limit limit' : Option Nat) (docs : List Document)

end Attaching

/-! ## Documents of a segment -/

lemma exists_part_of_mem_segmentsFrom {base : Nat} {parts : List (List Document)}
    (mem : s ∈ segmentsFrom base parts) : ∃ before part after,
      parts.flatten = before ++ part ++ after ∧ s = .ofDocuments (base + before.length) part := by
  induction parts generalizing base with
  | nil => cases mem
  | cons docs parts ih =>
    cases mem with
    | head => exact ⟨[], docs, parts.flatten, rfl, rfl⟩
    | tail _ mem =>
      obtain ⟨before, part, after, all, rfl⟩ := ih mem
      refine ⟨docs ++ before, part, after, ?_, ?_⟩
      · rw [List.flatten_cons, all]
        simp only [List.append_assoc]
      · rw [List.length_append, Nat.add_assoc]

/-- A segment of a collection is indexed from the documents that have its numbers in the collection.
-/
theorem exists_part (mem : s ∈ (ofDocuments limit docs).segments) :
    ∃ part, s = .ofDocuments s.base part ∧ ∀ d < part.length, part[d]? = docs[s.base + d]? := by
  obtain ⟨before, part, after, all, rfl⟩ := exists_part_of_mem_segmentsFrom mem
  rw [flatten_pieces] at all
  refine ⟨part, rfl, fun d inside => ?_⟩
  change _ = docs[0 + before.length + d]?
  rw [all, Nat.zero_add, List.append_assoc, List.getElem?_append_right (Nat.le_add_right _ d),
    Nat.add_sub_cancel_left, List.getElem?_append_left inside]

/-- There is a segment where there are documents. -/
lemma segments_ne_nil (some_ : docs ≠ []) : (ofDocuments limit docs).segments ≠ [] := by
  obtain ⟨s, mem, _⟩ := exists_segment limit (List.length_pos_iff.mpr some_)
  exact List.ne_nil_of_mem mem

end Collection

end Retrieval
