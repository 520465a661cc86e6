import Retrieval.Proofs.Evaluation.Faults
import Retrieval.Proofs.Ranking.Search

/-!
# Faults of a search

A runnable query that can be prepared can be searched for: nothing is left to fail but a score that
is not finite and a part of the query that the index cannot read (`Searcher.search_outcome`).
Queries that are not runnable are prepared all the same, and fail in the search
(`Searcher.search_unrunnable`).
-/

namespace Retrieval

namespace Searcher

variable {R : Type} [Scalar R] {e : Searcher R} {p : Prepared R} {segment : Segment} {k : Nat}
  {fault : Fault}

/-- Collecting hits fails only on one whose score is not finite. -/
lemma collectFinite_error {scoring : Query R} {hits : List (Hit R)} {top : TopHits R}
    (failed : hits.foldlM (collectFinite scoring) top = .error fault) :
    ∃ h ∈ hits, Scalar.isFinite h.score = false ∧ fault = diverges scoring h := by
  rw [foldlM_collectFinite] at failed
  split at failed
  · cases failed
  · next h first =>
    cases failed
    exact ⟨h, List.mem_of_find?_eq_some first, by simpa using List.find?_some first, rfl⟩

/-- The search of a segment for a query that lacks nothing fails only because a part of the query
cannot be read, or on a hit whose score is not finite. -/
lemma searchSegment_error {written : String → Prop} (indexed : segment.Indexed)
    (typed : p.scoring.Typed .scores)
    (ready : Query.Everywhere (fun _ => Query.IsReady written) .scores p.scoring)
    (made : Made e.env p)
    (failed : e.searchSegment p k segment = .error fault) :
    fault.IsUnreadable written ∨ ∃ hits, e.Found p.scoring segment hits ∧
      ∃ h ∈ hits, Scalar.isFinite h.score = false ∧ fault = diverges p.scoring h := by
  cases compiled : e.compile segment p.scoring with
  | error fault' =>
    rw [searchSegment, foldSegment, scan, compiled] at failed
    cases failed
    exact .inl (Session.tree_error ready compiled)
  | ok t =>
    obtain ⟨hits, found, _, searched⟩ := searchSegment_found indexed typed made compiled k
    exact .inr ⟨hits, found, collectFinite_error (searched.symm.trans failed)⟩

variable {limit : Option Nat} {docs : List Document}

/-- A hit of a segment has its score from a fresh tree that is put directly on its document. -/
lemma Found.scores (collected : e.collection = .ofDocuments limit docs) {scoring : Query R}
    {hits : List (Hit R)} (mem : segment ∈ e.collection.segments)
    (found : e.Found scoring segment hits) {h : Hit R} (among : h ∈ hits) :
    h.doc < docs.length ∧ e.Scores scoring h.doc h.score := by
  obtain ⟨le, lt⟩ := found.inside h among
  rw [collected] at mem
  have end_le := (Collection.between_of_mem mem).end_le
  refine ⟨by omega, ?_⟩
  have located := Collection.locate_of_mem mem le lt
  rw [← collected] at located
  rw [Scores, treeAt_eq located]
  exact found.scored h among

/-- The best documents for a query that lacks nothing are found, unless a document has a score that
is not finite or a part of the query cannot be read. -/
lemma best_outcome {env : Environment R} {written : String → Prop}
    (numbered : docs.length ≤ noMoreDocs) (typed : p.scoring.Typed .scores)
    (ready : Query.Everywhere (fun _ => Query.IsReady written) .scores p.scoring)
    (made : Made env p) (k : Nat) :
    let e : Searcher R := ⟨.ofDocuments limit docs, env⟩
    (∃ results, e.best p k = .ok results) ∨
      (∃ doc < docs.length, ∃ score, e.Scores p.scoring doc score ∧
        Scalar.isFinite score = false ∧
        e.best p k = .error (.diverged (Scalar.text score) p.scoring.display doc)) ∨
      ∃ text, written text ∧ Segment.splitRaw text = none ∧
        e.best p k = .error (.notFieldAndTerm (Text.quoted text)) := by
  intro e
  cases searched : e.best p k with
  | ok results => exact .inl ⟨results, rfl⟩
  | error fault =>
    rcases bind_eq_error searched with failed | ⟨_, _, failed⟩
    · obtain ⟨s, mem, failed⟩ := exists_mapM_eq_error failed
      have indexed := Collection.indexed_of_mem numbered mem
      obtain ⟨text, written, unreadable, rfl⟩ | ⟨hits, found, h, among, diverged, rfl⟩ :=
        searchSegment_error indexed typed ready made failed
      · exact .inr (.inr ⟨text, written, unreadable, rfl⟩)
      · obtain ⟨lt, scores⟩ := found.scores rfl mem among
        exact .inr (.inl ⟨h.doc, lt, h.score, scores, diverged, rfl⟩)
    · cases failed

end Searcher

end Retrieval
