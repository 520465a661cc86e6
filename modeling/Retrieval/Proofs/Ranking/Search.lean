import Retrieval.Proofs.Collection.Segments
import Retrieval.Proofs.Ranking.TopHits
import Retrieval.Proofs.Ranking.Visits
import Mathlib.Tactic.Choose

/-!
# Search is exhaustive

A search ranks the documents as if every one of them had been judged by a fresh tree
(`Searcher.search_eq_exhaustive`). In each segment the scan visits the documents that match, in
rising order, and collects them with their scores; the collectors merge to the first of the ranking
of all hits. A score that is not finite ends the search; the first to be met is that of the least
document. What an exhaustive evaluation finds is one list of hits only (`Searcher.Exhausts.unique`).
-/

namespace Retrieval

namespace Searcher

variable {R : Type} [Scalar R]

/-! ## Judging documents one by one -/

/-- A fresh tree that is put directly on the document matches it. -/
def Matches (e : Searcher R) (scoring : Query R) (doc : Nat) : Prop :=
  ∃ t, e.treeAt scoring doc = .ok t ∧ t.matched.1 = .ok true

/-- A fresh tree that is put directly on the document gives it the score. -/
def Scores (e : Searcher R) (scoring : Query R) (doc : Nat) (score : R) : Prop :=
  ∃ t, e.treeAt scoring doc = .ok t ∧ t.score.1 = .ok score

/-- The hits are all documents that match, each once and with its score, ranked. -/
structure Exhausts (e : Searcher R) (scoring : Query R) (hits : List (Hit R)) : Prop where
  judged : ∀ doc < e.collection.size, ∃ t, e.treeAt scoring doc = .ok t ∧
    ∃ answer, t.matched.1 = .ok answer
  matched : ∀ doc, (∃ h ∈ hits, h.doc = doc) ↔ e.Matches scoring doc
  scored : ∀ h ∈ hits, e.Scores scoring h.doc h.score
  once : (hits.map Hit.doc).Nodup
  ranked : hits.Pairwise fun a b => a.before b = true

/-- Where two lists both hold all documents that match, the hits of the one are hits of the other.
-/
lemma Exhausts.subset {e : Searcher R} {scoring : Query R} {hits hits' : List (Hit R)}
    (exhausts : e.Exhausts scoring hits) (exhausts' : e.Exhausts scoring hits') : hits ⊆ hits' := by
  intro h mem
  obtain ⟨g, mem', same⟩ := (exhausts'.matched h.doc).mpr ((exhausts.matched h.doc).mp ⟨h, mem, rfl⟩)
  obtain ⟨t, set, score⟩ := exhausts.scored h mem
  obtain ⟨t', set', score'⟩ := exhausts'.scored g mem'
  -- both scores are read off the one fresh tree that is put on the document
  rw [same] at set'
  cases set.symm.trans set'
  have equal : g.score = h.score := Except.ok.inj (score'.symm.trans score)
  have : g = h := by
    cases g
    cases h
    rw [Hit.mk.injEq]
    exact ⟨same, equal⟩
  exact this ▸ mem'

/-- There is only one way to list the documents that match, ranked and with their scores. -/
theorem Exhausts.unique [Std.TransCmp (Scalar.order : R → R → Ordering)] {e : Searcher R}
    {scoring : Query R} {hits hits' : List (Hit R)} (exhausts : e.Exhausts scoring hits)
    (exhausts' : e.Exhausts scoring hits') : hits = hits' := by
  have perm : hits.Perm hits' := by
    rw [List.perm_ext_iff_of_nodup exhausts.once.of_map exhausts'.once.of_map]
    exact fun h => ⟨fun mem => exhausts.subset exhausts' mem, fun mem => exhausts'.subset exhausts mem⟩
  have ranked := Hit.ranked_of_before exhausts.ranked
  exact ranked.eq_of_perm (Hit.ranked_of_before exhausts'.ranked) perm exhausts.once

/-- The fault that a hit ends a search with if its score is not finite. -/
def diverges (scoring : Query R) (h : Hit R) : Fault :=
  .diverged (Scalar.text h.score) scoring.display h.doc

/-! ## One segment -/

variable {e : Searcher R} {p : Prepared R} {segment : Segment} {k : Nat}

/-- Collects a hit if its score is finite. -/
def collectFinite (scoring : Query R) (top : TopHits R) (h : Hit R) : Except Fault (TopHits R) :=
  if Scalar.isFinite h.score then .ok (top.collect h) else .error (diverges scoring h)

/-- Hits are collected up to the first whose score is not finite. -/
lemma foldlM_collectFinite (scoring : Query R) (hits : List (Hit R)) (top : TopHits R) :
    hits.foldlM (collectFinite scoring) top =
      match hits.find? fun h => !Scalar.isFinite h.score with
      | none => .ok (hits.foldl TopHits.collect top)
      | some h => .error (diverges scoring h) := by
  induction hits generalizing top with
  | nil => rfl
  | cons h hits ih =>
    rw [List.foldlM_cons, List.find?_cons, collectFinite]
    cases Scalar.isFinite h.score with
    | true => exact ih (top.collect h)
    | false => rfl

/-- The hit of a query on a document of a segment. -/
def hitAt (segment : Segment) (defaultField : String) (scoring : Query R) (d : Nat) : Hit R :=
  let spot : Spot := ⟨segment, defaultField, d⟩
  ⟨segment.base + d, scoring.score spot.rate spot⟩

/-- The hits of a segment, in the order of its documents. -/
noncomputable def hitsIn (e : Searcher R) (p : Prepared R) (segment : Segment) : List (Hit R) :=
  (hitList segment e.env.defaultField p.scoring p.candidates).map
    (hitAt segment e.env.defaultField p.scoring)

lemma hitsIn_docs (e : Searcher R) (p : Prepared R) (segment : Segment) :
    (e.hitsIn p segment).map Hit.doc =
      (hitList segment e.env.defaultField p.scoring p.candidates).map (segment.base + ·) :=
  List.map_map

/-- Collecting the document that a tree is on adds its hit, or fails if its score is not finite. -/
lemma visits_collectHit {defaultField : String} {scoring : Query R} :
    Visits segment defaultField scoring .scores (collectHit scoring segment.base)
      fun top d => collectFinite scoring top (hitAt segment defaultField scoring d) := by
  intro o b top d tree inside follows answered
  obtain ⟨tree', asked, follows'⟩ := follows.ask_eq follows.agree.score
    ((answered.gives d inside).score rfl) (answered.tells d).score
  have asked : tree.score = (.ok (hitAt segment defaultField scoring d).score, tree') := asked
  dsimp only
  rw [collectHit, collectFinite, asked]
  dsimp only
  cases Scalar.isFinite (hitAt segment defaultField scoring d).score with
  | true => exact .inl ⟨_, tree', rfl, rfl, follows'⟩
  | false => exact .inr ⟨_, rfl, rfl⟩

/-- The search of a segment collects its hits, if the query has a meaning there. -/
lemma searchSegment_eq_hitsIn (indexed : segment.Indexed) (typed : p.scoring.Typed .scores)
    (widens : Query.Widens segment p.scoring.candidates p.candidates) (k : Nat) :
    e.searchSegment p k segment = p.scoring.meaning segment e.env.defaultField >>= fun _ =>
      (e.hitsIn p segment).foldlM (collectFinite p.scoring) (.empty k) := by
  rw [searchSegment, foldSegment_eq indexed typed widens visits_collectHit, hitsIn]
  simp only [List.foldlM_map]

/-- Hits of a segment, in the order of its documents, each with the score of a fresh tree. -/
structure Found (e : Searcher R) (scoring : Query R) (segment : Segment) (hits : List (Hit R)) :
    Prop where
  rising : (hits.map Hit.doc).Pairwise (· < ·)
  inside : ∀ h ∈ hits, segment.base ≤ h.doc ∧ h.doc < segment.base + segment.size
  scored : ∀ h ∈ hits, ∃ t,
    (do (← e.compile segment scoring).moveTo (h.doc - segment.base)) = .ok t ∧
      t.score.1 = .ok h.score

/-- The hits are all documents of a segment that match. -/
structure Judged (e : Searcher R) (scoring : Query R) (segment : Segment) (hits : List (Hit R)) :
    Prop extends e.Found scoring segment hits where
  judged : ∀ doc < segment.size, ∃ t, (do (← e.compile segment scoring).moveTo doc) = .ok t ∧
    ∃ answer, t.matched.1 = .ok answer
  matched : ∀ doc < segment.size, (∃ h ∈ hits, h.doc = segment.base + doc) ↔
    ∃ t, (do (← e.compile segment scoring).moveTo doc) = .ok t ∧ t.matched.1 = .ok true

/-- A query that compiles has a meaning, and its fresh tree follows the meaning. -/
lemma follows_of_compile {q : Query R} {t : Tree R} (compiled : e.compile segment q = .ok t) :
    ∃ o b, q.meaning segment e.env.defaultField = .ok b ∧ t.Follows o b none := by
  obtain ⟨σ, o, _, _, _, means, tree_eq, compiled', stands⟩ | ⟨_, _, failed⟩ :=
    Session.tree_spec segment e.env.defaultField e.env.shareCursors q
  · cases compiled.symm.trans tree_eq
    obtain ⟨b, meant, agree⟩ := compiled'.agree
    exact ⟨o, b, means.trans meant, agree, stands⟩
  · cases compiled.symm.trans failed

/-- A query that has a meaning compiles. -/
lemma compile_of_meaning {q : Query R} {b : Answers R Reading}
    (meant : q.meaning segment e.env.defaultField = .ok b) :
    ∃ t, e.compile segment q = .ok t := by
  obtain ⟨_, _, t, _, _, _, compiled, _⟩ | ⟨_, failed, _⟩ :=
    Session.tree_spec segment e.env.defaultField e.env.shareCursors q
  · exact ⟨t, compiled⟩
  · cases meant.symm.trans failed

/-- A fresh tree can be put directly on any document. -/
lemma exists_set {o : Origin} {b : Answers R Reading} {scoring : Query R} {tree : Tree R}
    (compiled : e.compile segment scoring = .ok tree) (follows : tree.Follows o b none) (d : Nat) :
    ∃ t, (do (← e.compile segment scoring).moveTo d) = .ok t ∧ t.Follows o b (some d) := by
  have free : (none : Option Nat).all (· ≤ d) = true := rfl
  obtain ⟨t, moved, follows⟩ := follows.moveTo free
  rw [compiled]
  exact ⟨t, moved, follows⟩

lemma Begun.set {o : Origin} {b : Answers R Reading} {scoring candidates : Query R} {need : Need}
    {s : Scan R} (begun : e.Begun scoring candidates need segment o b s) (d : Nat) :
    ∃ t, (do (← e.compile segment scoring).moveTo d) = .ok t ∧ t.Follows o b (some d) :=
  exists_set begun.compiled begun.follows d

/-- A fresh tree that is put directly on a document of the segment answers what is true of the query
there. -/
lemma Begun.fresh {o : Origin} {b : Answers R Reading} {scoring candidates : Query R} {s : Scan R}
    {d : Nat} (begun : e.Begun scoring candidates .scores segment o b s) (inside : d < segment.size) :
    ∃ t, (do (← e.compile segment scoring).moveTo d) = .ok t ∧
      t.matched.1 = .ok (scoring.facts ⟨segment, e.env.defaultField, d⟩).matched ∧
      t.score.1 = .ok (hitAt segment e.env.defaultField scoring d).score := by
  obtain ⟨t, set, follows⟩ := begun.set d
  have gives := begun.answered.gives d inside
  obtain ⟨_, asked, _⟩ := follows.ask_eq follows.agree.score (gives.score rfl)
    (begun.answered.tells d).score
  exact ⟨t, set, (follows.ask follows.agree.matched).1.trans (begun.answered.matched inside),
    congrArg Prod.fst asked⟩

/-- The hits of a segment have the scores of fresh trees. -/
lemma Begun.found {o : Origin} {b : Answers R Reading} {s : Scan R}
    (begun : e.Begun p.scoring p.candidates .scores segment o b s) :
    e.Found p.scoring segment (e.hitsIn p segment) where
  rising := by
    rw [hitsIn_docs, List.pairwise_map]
    exact (Scan.hitsFrom_pairwise _ segment.size 0).imp fun lt => Nat.add_lt_add_left lt _
  inside h mem := by
    obtain ⟨d, hit, rfl⟩ := List.mem_map.mp mem
    exact ⟨Nat.le_add_right _ d, Nat.add_lt_add_left (mem_hitList.mp hit).1 _⟩
  scored h mem := by
    obtain ⟨d, hit, rfl⟩ := List.mem_map.mp mem
    obtain ⟨t, moved, _, score⟩ := begun.fresh (mem_hitList.mp hit).1
    refine ⟨t, ?_, score⟩
    rw [← moved]
    exact congrArg (fun d => do (← e.compile segment p.scoring).moveTo d)
      (Nat.add_sub_cancel_left segment.base d)

/-- They are all hits of the segment if they are all documents that match. -/
lemma Begun.judged {o : Origin} {b : Answers R Reading} {s : Scan R}
    (begun : e.Begun p.scoring p.candidates .scores segment o b s)
    (all : ∀ d < segment.size, Hits segment e.env.defaultField p.scoring p.candidates d ↔
      (p.scoring.facts ⟨segment, e.env.defaultField, d⟩).matched = true) :
    e.Judged p.scoring segment (e.hitsIn p segment) where
  toFound := begun.found
  judged d inside := by
    obtain ⟨t, moved, matched, _⟩ := begun.fresh inside
    exact ⟨t, moved, _, matched⟩
  matched d inside := by
    obtain ⟨t, moved, matched, _⟩ := begun.fresh inside
    have number : (∃ h ∈ e.hitsIn p segment, h.doc = segment.base + d) ↔
        Hits segment e.env.defaultField p.scoring p.candidates d := by
      rw [← List.mem_map (f := Hit.doc), hitsIn_docs, List.mem_map]
      constructor
      · rintro ⟨d', mem, same⟩
        exact Nat.add_left_cancel same ▸ (mem_hitList.mp mem).2
      · exact fun hits => ⟨d, mem_hitList.mpr ⟨inside, hits⟩, rfl⟩
    rw [number, all d inside, moved]
    constructor
    · exact fun yes => ⟨t, rfl, matched.trans (congrArg Except.ok yes)⟩
    · rintro ⟨t', same, yes⟩
      cases same
      exact Except.ok.inj (matched.symm.trans yes)

/-- The search of a segment collects hits, and all of them if no operator matches for want of
children. -/
lemma searchSegment_found (indexed : segment.Indexed) (typed : p.scoring.Typed .scores)
    (made : Made e.env p) {t : Tree R} (compiled : e.compile segment p.scoring = .ok t) (k : Nat) :
    ∃ hits, e.Found p.scoring segment hits ∧
      (p.scoring.Filled → e.Judged p.scoring segment hits) ∧
      e.searchSegment p k segment = hits.foldlM (collectFinite p.scoring) (.empty k) := by
  have widens := candidates_widen indexed made
  obtain ⟨o, b, s, meant, begun⟩ | ⟨_, _, failed⟩ := scan_spec (e := e) indexed typed widens
  · refine ⟨e.hitsIn p segment, begun.found, fun filled => begun.judged fun d inside => ?_, ?_⟩
    · exact hits_iff indexed typed widens meant filled inside
    · rw [searchSegment_eq_hitsIn indexed typed widens, meant]
      rfl
  · cases compiled.symm.trans failed

/-- The search of a segment collects its hits. -/
lemma searchSegment_eq (indexed : segment.Indexed) (typed : p.scoring.Typed .scores)
    (whole : p.scoring.NoEmptyAnd) (made : Made e.env p) {t : Tree R}
    (compiled : e.compile segment p.scoring = .ok t) (k : Nat) :
    ∃ hits, e.Judged p.scoring segment hits ∧
      e.searchSegment p k segment = hits.foldlM (collectFinite p.scoring) (.empty k) := by
  obtain ⟨hits, _, judged, searched⟩ := searchSegment_found indexed typed made compiled k
  exact ⟨hits, judged (typed.filled whole), searched⟩

/-! ## All segments -/

section Segments

variable {scoring : Query R} {segments : List Segment} {found : Segment → List (Hit R)}

/-- Several segments are searched up to the first score that is not finite. -/
lemma mapM_search {search : Segment → Except Fault (TopHits R)}
    (each : ∀ s ∈ segments, search s = (found s).foldlM (collectFinite scoring) (.empty k)) :
    segments.mapM search =
      match (segments.map found).flatten.find? fun h => !Scalar.isFinite h.score with
      | none => .ok ((segments.map found).map fun hits => hits.foldl TopHits.collect (.empty k))
      | some h => .error (diverges scoring h) := by
  induction segments with
  | nil => rfl
  | cons s segments ih =>
    obtain ⟨first, rest⟩ := List.forall_mem_cons.mp each
    rw [List.mapM_cons, first, foldlM_collectFinite, ih rest, List.map_cons, List.flatten_cons,
      List.find?_append]
    cases (found s).find? fun h => !Scalar.isFinite h.score with
    | some h => rfl
    | none =>
      rw [Option.none_or]
      cases (segments.map found).flatten.find? fun h => !Scalar.isFinite h.score <;> rfl

/-- The hits of all segments, one segment after the other, rise. -/
lemma flatten_rising (judged : ∀ s ∈ segments, e.Judged scoring s (found s))
    (apart : segments.Pairwise fun s t => s.base + s.size ≤ t.base) :
    ((segments.map found).flatten.map Hit.doc).Pairwise (· < ·) := by
  rw [List.map_flatten, List.map_map]
  refine Collection.flatten_rising apart (fun s mem => (judged s mem).rising) fun s mem => ?_
  exact List.forall_mem_map.mpr (judged s mem).inside

lemma treeAt_eq {doc here : Nat} (located : e.collection.locate doc = .ok (segment, here)) :
    e.treeAt scoring doc = (do (← e.compile segment scoring).moveTo here) := by
  rw [treeAt, located]
  rfl

end Segments

variable {limit : Option Nat} {docs : List Document}

/-- The hits of all segments are those that an exhaustive evaluation finds. -/
lemma exhausts_ranking [Std.TransCmp (Scalar.order : R → R → Ordering)]
    (collected : e.collection = .ofDocuments limit docs) {scoring : Query R}
    {found : Segment → List (Hit R)}
    (judged : ∀ s ∈ e.collection.segments, e.Judged scoring s (found s)) :
    e.Exhausts scoring (Hit.ranking (e.collection.segments.map found).flatten) := by
  have apart : e.collection.segments.Pairwise fun s t => s.base + s.size ≤ t.base := by
    rw [collected]
    exact Collection.segments_pairwise limit docs
  have treeAt : ∀ s ∈ e.collection.segments, ∀ doc, s.base ≤ doc → doc < s.base + s.size →
      e.treeAt scoring doc = (do (← e.compile s scoring).moveTo (doc - s.base)) := by
    intro s within doc le lt
    apply treeAt_eq
    rw [collected] at within ⊢
    exact Collection.locate_of_mem within le lt
  have perm := Hit.ranking_perm (e.collection.segments.map found).flatten
  have once : ((Hit.ranking (e.collection.segments.map found).flatten).map Hit.doc).Nodup :=
    (perm.map Hit.doc).nodup_iff.mpr ((flatten_rising judged apart).imp Nat.ne_of_lt)
  have mem : ∀ h, h ∈ Hit.ranking (e.collection.segments.map found).flatten ↔
      ∃ s ∈ e.collection.segments, h ∈ found s := by
    intro h
    rw [perm.mem_iff, ← List.flatMap_def, List.mem_flatMap]
  refine ⟨fun doc lt => ?_, fun doc => ?_, fun h among => ?_, once,
    Hit.Ranked.pairwise_before (Hit.ranked_ranking _) once⟩
  · rw [collected, Collection.size_ofDocuments] at lt
    obtain ⟨s, within, le, lt'⟩ := Collection.exists_segment limit lt
    rw [← collected] at within
    rw [treeAt s within doc le lt']
    exact (judged s within).judged _ (by omega)
  · constructor
    · rintro ⟨h, among, rfl⟩
      obtain ⟨s, within, here⟩ := (mem h).mp among
      obtain ⟨le, lt⟩ := (judged s within).inside h here
      rw [Matches, treeAt s within h.doc le lt]
      exact ((judged s within).matched _ (by omega)).mp ⟨h, here, by omega⟩
    · rintro ⟨t, set, yes⟩
      obtain ⟨⟨s, here⟩, located, _⟩ := bind_eq_ok set
      obtain ⟨within, inside, rfl⟩ := Collection.mem_of_locate located
      rw [treeAt_eq located] at set
      obtain ⟨h, among, number⟩ := ((judged s within).matched here inside).mpr ⟨t, set, yes⟩
      exact ⟨h, (mem h).mpr ⟨s, within, among⟩, number⟩
  · obtain ⟨s, within, here⟩ := (mem h).mp among
    obtain ⟨le, lt⟩ := (judged s within).inside h here
    rw [Scores, treeAt s within h.doc le lt]
    exact (judged s within).scored h here

/-- Of hits in rising order the first that is not finite is on the least document of these. -/
lemma least_of_find? {hits : List (Hit R)} (rising : (hits.map Hit.doc).Pairwise (· < ·)) {h : Hit R}
    (first : (hits.find? fun h => !Scalar.isFinite h.score) = some h) :
    Scalar.isFinite h.score = false ∧
      ∀ g ∈ hits, Scalar.isFinite g.score = false → h.doc ≤ g.doc := by
  obtain ⟨diverged, before, after, rfl, finite⟩ := List.find?_eq_some_iff_append.mp first
  refine ⟨by simpa using diverged, fun g mem diverged' => ?_⟩
  rw [List.map_append, List.map_cons, List.pairwise_append, List.pairwise_cons] at rising
  rcases List.mem_append.mp mem with mem | mem
  · have := finite g mem
    simp [diverged'] at this
  · cases mem with
    | head => exact Nat.le_refl _
    | tail _ mem => exact (rising.2.1.1 g.doc (List.mem_map_of_mem mem)).le

instance : Std.TransCmp (Scalar.order : Float → Float → Ordering) :=
  inferInstanceAs (Std.TransCmp (compareOn Binary64.key))

/-- A search for the `k` best documents finds the first `k` of the hits that an exhaustive
evaluation finds and ranks, and counts them all. If a score is not finite, it fails on the least
document with such a score. Documents are numbered below the end that `noMoreDocs` marks. -/
theorem search_eq_exhaustive {env : Environment Float} {q : Query Float} {p : Prepared Float}
    (numbered : docs.length ≤ noMoreDocs) (noRaw : q.NoRaw)
    (prepared : prepare ⟨.ofDocuments limit docs, env⟩ q = .ok p)
    (compiles : ∀ s ∈ (Collection.ofDocuments limit docs).segments,
      ∃ t, compile ⟨.ofDocuments limit docs, env⟩ s p.scoring = .ok t)
    (whole : p.scoring.NoEmptyAnd) (k : Nat) :
    let e : Searcher Float := ⟨.ofDocuments limit docs, env⟩
    ∃ hits, e.Exhausts p.scoring hits ∧
      ((∀ h ∈ hits, Scalar.isFinite h.score = true) ∧
          e.search q k = .ok {
            hits := (hits.take k).map fun h => ⟨h.doc, h.score, docs[h.doc]?.map Document.name⟩
            total := hits.length } ∨
        ∃ h ∈ hits, Scalar.isFinite h.score = false ∧
          (∀ g ∈ hits, Scalar.isFinite g.score = false → h.doc ≤ g.doc) ∧
          e.search q k = .error
            (.diverged (Scalar.text h.score) p.scoring.display h.doc)) := by
  intro e
  have typed := scoring_typed noRaw prepared
  obtain ⟨_, _, _, _, _, _, _, _, _, made⟩ := prepareFor_steps prepared
  have each : ∀ s ∈ e.collection.segments, ∃ hits, e.Judged p.scoring s hits ∧
      e.searchSegment p k s = hits.foldlM (collectFinite p.scoring) (.empty k) := by
    intro s mem
    obtain ⟨t, compiled⟩ := compiles s mem
    exact searchSegment_eq (Collection.indexed_of_mem numbered mem) typed whole made compiled k
  choose! found judged searched using each
  -- the segments are searched one by one, and their hits ranked together
  have all := mapM_search searched
  have exhausts : e.Exhausts p.scoring _ := exhausts_ranking rfl judged
  have perm := Hit.ranking_perm (e.collection.segments.map found).flatten
  have rising := flatten_rising judged (Collection.segments_pairwise limit docs)
  have search_eq : e.search q k = e.best p k := search_eq_best prepared k
  refine ⟨_, exhausts, ?_⟩
  rw [search_eq, best, all]
  cases first : (e.collection.segments.map found).flatten.find? fun h => !Scalar.isFinite h.score with
  | none =>
    have finite := List.find?_eq_none.mp first
    refine .inl ⟨fun h mem => by simpa using finite h (perm.mem_iff.mp mem), ?_⟩
    have holds := (TopHits.holds_empty k).foldl_merge (e.collection.segments.map found)
      (rising.imp Nat.ne_of_lt)
    rw [List.nil_append] at holds
    have named : ∀ doc, e.collection.name? doc = docs[doc]?.map Document.name :=
      Collection.name?_ofDocuments limit docs
    refine congrArg Except.ok (?_ : Results.mk (List.map _ _) _ = _)
    simp only [named]
    rw [holds.hits, holds.total, perm.length_eq]
  | some h =>
    obtain ⟨diverged, least⟩ := least_of_find? rising first
    refine .inr ⟨h, perm.mem_iff.mpr (List.mem_of_find?_eq_some first), diverged, ?_, rfl⟩
    exact fun g mem => least g (perm.mem_iff.mp mem)

/-- Two segments of one document each, searched for the better of two documents that match. -/
theorem search_eq_exhaustive_either :
    let docs : List Document := [⟨"d0", [("body", "a b")]⟩, ⟨"d1", [("body", "b")]⟩]
    let e : Searcher Float := ⟨.ofDocuments (some 1) docs, .usual⟩
    let term (text : String) (count : Nat) : Query Float := .leaf (.term {
      text, field := some "body", stats := some ⟨"body:" ++ text, count, count, 3, 2⟩ })
    let scoring : Query Float := .or [term "a" 1, term "b" 2]
    e.prepare (.or [.term "a", .term "b"]) = .ok ⟨scoring, scoring⟩ ∧
    ∃ hits, e.Exhausts scoring hits ∧
      ((∀ h ∈ hits, Scalar.isFinite h.score = true) ∧
          e.search (.or [.term "a", .term "b"]) 1 = .ok {
            hits := (hits.take 1).map fun h => ⟨h.doc, h.score, docs[h.doc]?.map Document.name⟩
            total := hits.length } ∨
        ∃ h ∈ hits, Scalar.isFinite h.score = false ∧
          (∀ g ∈ hits, Scalar.isFinite g.score = false → h.doc ≤ g.doc) ∧
          e.search (.or [.term "a", .term "b"]) 1 = .error
            (.diverged (Scalar.text h.score) scoring.display h.doc)) := by
  intro docs e term scoring
  let first : Segment := ⟨0, 1, [("body", ⟨#[2], [("b", [⟨0, [1]⟩]), ("a", [⟨0, [0]⟩])]⟩)]⟩
  let second : Segment := ⟨1, 1, [("body", ⟨#[1], [("b", [⟨0, [0]⟩])]⟩)]⟩
  have indexed : Collection.ofDocuments (some 1) docs = ⟨[first, second], #["d0", "d1"]⟩ := by
    decide +kernel
  have prepared : e.prepare (.or [.term "a", .term "b"]) = .ok ⟨scoring, scoring⟩ := by
    unfold e
    rw [indexed]
    rfl
  have compiles : ∀ s ∈ (Collection.ofDocuments (some 1) docs).segments,
      ∃ t, e.compile s scoring = .ok t := by
    have ok : ∀ s, (e.compile s scoring).isOk = true → ∃ t, e.compile s scoring = .ok t := by
      intro s compiles
      cases compiled : e.compile s scoring with
      | error fault => rw [compiled] at compiles; cases compiles
      | ok t => exact ⟨t, rfl⟩
    rw [indexed]
    exact List.forall_mem_cons.mpr ⟨ok first rfl, List.forall_mem_singleton.mpr (ok second rfl)⟩
  have noRaw : Query.NoRaw (.or [.term "a", .term "b"] : Query Float) := by
    simp [Query.NoRaw, Query.or, Query.term, Query.nodes, Query.nodesAll]
  have whole : scoring.NoEmptyAnd := by
    simp [Query.NoEmptyAnd, scoring, term, Query.or, Query.nodes, Query.nodesAll]
  exact ⟨prepared, search_eq_exhaustive (by decide) noRaw prepared compiles whole 1⟩

end Searcher

end Retrieval
