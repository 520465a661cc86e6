import Retrieval.Proofs.Ranking.Search

/-!
# Switches do not show

Simplifying candidate queries and sharing cursors are there for speed: they change neither what a
query is prepared to be scored by, nor what a search or a count of it finds, nor the fault that
either ends with (`Searcher.switches_irrelevant`). Statistics are measured over the documents that
are hit, which no switch is asked for (`Searcher.measured_withSwitches`). A simplified candidate
query offers more documents, but the ones that are hit are those that match, as long as no
conjunction is without children (`Searcher.hitList_eq`). Already in each segment the outcome is the
same (`Searcher.foldSegment_withSwitches`), so it does not matter which of several segments that fail
is reported.
-/

namespace Retrieval

variable {R : Type}

/-! ## Preparation -/

lemma Environment.some_passes [Scalar R] {env : Environment R} (valid : env.validate = .ok ()) :
    1 ≤ env.maxPasses := by
  rw [validate] at valid
  split_ifs at valid with _ _ _ _ _ none
  exact Nat.one_le_iff_ne_zero.mpr none

namespace Searcher

open Query

variable [Scalar R] {e : Searcher R} {need : Need} {q scoring : Query R} {segment : Segment}

/-- What scores a query without parts in the words of the index and without empty conjunctions is
typed, and none of its operators matches for want of children. -/
lemma scoringFor_filled (noRaw : q.NoRaw) (whole : q.NoEmptyAnd)
    (scored : e.scoringFor need q = .ok scoring) : scoring.Typed need ∧ scoring.Filled := by
  obtain ⟨bound, known, simple, typed, h, h', h'', inferred, measured⟩ := scoringFor_steps scored
  have typed' := measure_typed (infer_typed (noRaw_of_simple noRaw h h' h'') inferred) measured
  have whole' := ((((whole.rebuild h).rebuild h').simplify h'').infer inferred).rebuild measured
  exact ⟨typed', typed'.filled whole'⟩

/-- The candidates of a scoring query, as they are prepared. -/
def candidatesFor (e : Searcher R) (scoring : Query R) : Query R :=
  if e.env.simplifyCandidates then scoring.candidates.pass.value else scoring.candidates

lemma candidatesFor_widens (indexed : segment.Indexed) (scoring : Query R) :
    Widens segment scoring.candidates (e.candidatesFor scoring) := by
  unfold candidatesFor
  split
  · exact pass_widens indexed scoring.candidates
  · exact .refl _

/-- Where there is something that scores a query, its candidates can be prepared. -/
lemma prepareFor_eq_candidatesFor (some_ : 1 ≤ e.env.maxPasses) : e.prepareFor need q =
    e.scoringFor need q >>= fun scoring => .ok ⟨scoring, e.candidatesFor scoring⟩ := by
  rw [prepareFor_eq]
  refine bind_congr_ok fun scoring _ => ?_
  have simple := simplify_eq_pass (candidates_boolean scoring) some_
  unfold candidatesFor
  cases e.env.simplifyCandidates with
  | true =>
    change (scoring.candidates.simplify e.env.maxPasses >>= _) = _
    rw [simple]
    rfl
  | false => rfl

/-! ## Other switches -/

/-- The searcher with its switches set as given. -/
def withSwitches (e : Searcher R) (simplify share : Bool) : Searcher R :=
  { e with env := { e.env with simplifyCandidates := simplify, shareCursors := share } }

variable {simplify share : Bool}

/-- Measuring is not asked how candidates are found or cursors shared. -/
lemma measured_withSwitches (indexed : ∀ s ∈ e.collection.segments, s.Indexed)
    (typed : q.Typed .counts) : (e.withSwitches simplify share).measured q = e.measured q :=
  (measured_eq (e := e.withSwitches simplify share) indexed typed).trans
    (measured_eq indexed typed).symm

lemma scoringFor_withSwitches (indexed : ∀ s ∈ e.collection.segments, s.Indexed)
    (noRaw : q.NoRaw) :
    (e.withSwitches simplify share).scoringFor need q = e.scoringFor need q := by
  -- only measuring runs anything, all other steps are the same
  refine bind_congr_ok fun bound filled => bind_congr_ok fun known attached =>
    bind_congr_ok fun simple simplified => bind_congr_ok fun typed inferred => ?_
  have noRaw' := noRaw_of_simple noRaw filled attached simplified
  exact measure_congr (fun c => measured_withSwitches indexed) (infer_typed noRaw' inferred)

/-- Without empty conjunctions it does not matter which candidates are offered, as long as they are
enough. -/
lemma hitList_eq {defaultField : String} {candidates candidates' : Query R} {b : Answers R Reading}
    (indexed : segment.Indexed) (typed : scoring.Typed need)
    (meant : scoring.meaning segment defaultField = .ok b) (filled : scoring.Filled)
    (widens : Widens segment scoring.candidates candidates)
    (widens' : Widens segment scoring.candidates candidates') :
    hitList segment defaultField scoring candidates =
      hitList segment defaultField scoring candidates' := by
  refine List.filter_congr fun d mem => ?_
  have inside : d < segment.size := by
    have := List.mem_range'_1.mp mem
    omega
  rw [Bool.eq_iff_iff, isHit_iff, isHit_iff, hits_iff indexed typed widens meant filled inside,
    hits_iff indexed typed widens' meant filled inside]

/-- A fold over a segment goes through the same documents whatever the switches are. -/
lemma foldSegment_withSwitches {σ : Type} {visit : σ → Nat → Tree R → Except Fault (σ × Tree R)}
    {step : σ → Nat → Except Fault σ} (indexed : segment.Indexed) (typed : scoring.Typed need)
    (filled : scoring.Filled)
    (visits : Visits segment e.env.defaultField scoring need visit step) (acc : σ) :
    (e.withSwitches simplify share).foldSegment scoring
        ((e.withSwitches simplify share).candidatesFor scoring) visit acc segment =
      e.foldSegment scoring (e.candidatesFor scoring) visit acc segment := by
  have widens := candidatesFor_widens (e := e) indexed scoring
  have widens' := candidatesFor_widens (e := e.withSwitches simplify share) indexed scoring
  rw [foldSegment_eq indexed typed widens visits,
    foldSegment_eq (e := e.withSwitches simplify share) indexed typed widens' visits]
  refine bind_congr_ok fun b meant => ?_
  exact congrArg (List.foldlM step acc) (hitList_eq indexed typed meant filled widens' widens)

/-- The switches for simplifying candidate queries and for sharing cursors do not show: what scores a
query is prepared alike, and searches and counts find the same or fail in the same way. This is so
in every valid environment and for every query that has no part in the words of the index and no
conjunction without children. Documents are numbered below the end that `noMoreDocs` marks. -/
theorem switches_irrelevant {env : Environment R} (valid : env.validate = .ok ())
    {limit : Option Nat} {docs : List Document} (numbered : docs.length ≤ noMoreDocs)
    (noRaw : q.NoRaw) (whole : q.NoEmptyAnd) (simplify share : Bool) :
    let e : Searcher R := ⟨.ofDocuments limit docs, env⟩
    let e' : Searcher R :=
      ⟨.ofDocuments limit docs, { env with simplifyCandidates := simplify, shareCursors := share }⟩
    (e'.prepare q).map Prepared.scoring = (e.prepare q).map Prepared.scoring ∧
      (∀ k, e'.search q k = e.search q k) ∧ e'.count q = e.count q := by
  intro e e'
  have indexed : ∀ s ∈ e.collection.segments, s.Indexed :=
    fun s mem => Collection.indexed_of_mem numbered mem
  have some_ : 1 ≤ env.maxPasses := Environment.some_passes valid
  have prepared (need : Need) : e.prepareFor need q =
      e.scoringFor need q >>= fun scoring => .ok ⟨scoring, e.candidatesFor scoring⟩ :=
    prepareFor_eq_candidatesFor some_
  have prepared' (need : Need) : e'.prepareFor need q =
      e.scoringFor need q >>= fun scoring => .ok ⟨scoring, e'.candidatesFor scoring⟩ := by
    have scored : e'.scoringFor need q = e.scoringFor need q :=
      scoringFor_withSwitches indexed noRaw
    rw [← scored]
    exact prepareFor_eq_candidatesFor some_
  refine ⟨?_, fun k => ?_, ?_⟩
  · rw [prepare, prepare, prepared, prepared']
    cases e.scoringFor .scores q <;> rfl
  · rw [search, search, prepare, prepare, prepared, prepared', bind_assoc, bind_assoc]
    refine bind_congr_ok fun scoring scored => ?_
    obtain ⟨typed, filled⟩ := scoringFor_filled noRaw whole scored
    have tops :
        e'.collection.segments.mapM (e'.searchSegment ⟨scoring, e'.candidatesFor scoring⟩ k) =
          e.collection.segments.mapM (e.searchSegment ⟨scoring, e.candidatesFor scoring⟩ k) :=
      mapM_congr fun s mem => foldSegment_withSwitches (e := e) (indexed s mem) typed filled
        visits_collectHit (.empty k)
    change e'.best _ k = e.best _ k
    rw [best, best, tops]
  · rw [count, count, prepared, prepared', bind_assoc, bind_assoc]
    refine bind_congr_ok fun scoring scored => ?_
    obtain ⟨typed, filled⟩ := scoringFor_filled noRaw whole scored
    have counts : e'.collection.segments.mapM (e'.foldSegment scoring (e'.candidatesFor scoring)
          (fun n _ tree => .ok (n + 1, tree)) 0) =
        e.collection.segments.mapM (e.foldSegment scoring (e.candidatesFor scoring)
          (fun n _ tree => .ok (n + 1, tree)) 0) :=
      mapM_congr fun s mem => foldSegment_withSwitches (e := e) (indexed s mem) typed filled
        visits_count 0
    exact congrArg (fun counts => do return addUp (← counts)) counts

/-- A conjunction and a nested disjunction with a term in common, with both switches on and off. -/
theorem switches_irrelevant_nested :
    let docs : List Document := [⟨"d0", [("body", "a b")]⟩, ⟨"d1", [("body", "b")]⟩]
    let q : Query Float := .and [.term "b", .or [.term "a", .or [.term "b", .term "a"]]]
    let e : Searcher Float := ⟨.ofDocuments (some 1) docs, .usual⟩
    let e' : Searcher Float := ⟨.ofDocuments (some 1) docs,
      { Environment.usual with simplifyCandidates := false, shareCursors := false }⟩
    Environment.usual.validate = .ok () ∧ docs.length ≤ noMoreDocs ∧ q.NoRaw ∧ q.NoEmptyAnd ∧
      (e.prepare q).isOk ∧
      (e'.prepare q).map Prepared.scoring = (e.prepare q).map Prepared.scoring ∧
      (∀ k, e'.search q k = e.search q k) ∧ e'.count q = e.count q := by
  intro docs q e e'
  have valid : Environment.usual.validate = .ok () := rfl
  have noRaw : q.NoRaw := by
    simp [q, NoRaw, Query.and, Query.or, Query.term, nodes, nodesAll]
  have whole : q.NoEmptyAnd := by
    simp [q, NoEmptyAnd, Query.and, Query.or, Query.term, nodes, nodesAll]
  exact ⟨valid, by decide, noRaw, whole, by decide +kernel,
    switches_irrelevant valid (by decide) noRaw whole false false⟩

end Searcher

end Retrieval
