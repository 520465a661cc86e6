import Retrieval.Proofs.Ranking.Explanations
import Retrieval.Proofs.Ranking.Faults
import Retrieval.Proofs.Ranking.Siblings

/-!
# Finite scores

A search checks every score before it collects it, so all scores that it returns are finite
(`Searcher.best_finite`). Explanations and feature scores are read off single documents without a
check. What can be said of these is in `Searcher.scores_finite`: the score of a document that
matches is finite or every search for the query ends on a score that is not. They are returned all
the same (`Searcher.diverged_explained`).
-/

namespace Retrieval

variable {R : Type} [Scalar R]

/-! ## Collectors -/

lemma Hit.mem_push {g h : Hit R} {heap : List (Hit R)} : g ∈ h.push heap ↔ g = h ∨ g ∈ heap := by
  induction heap with
  | nil => rw [push, List.mem_singleton, or_iff_left List.not_mem_nil]
  | cons worst heap ih =>
    rw [push]
    split
    · rw [List.mem_cons, ih, List.mem_cons, or_left_comm]
    · exact List.mem_cons

namespace TopHits

variable {t u : TopHits R} {g h : Hit R}

/-- What is kept after an offer was kept before, or is what was offered. -/
lemma mem_offer (mem : g ∈ (t.offer h).heap) : g = h ∨ g ∈ t.heap := by
  rw [offer] at mem
  split at mem
  · exact .inr mem
  split at mem
  · exact Hit.mem_push.mp mem
  split at mem
  · next none =>
    rw [none] at mem
    cases mem
  next worst others kept =>
  rw [kept]
  split at mem
  · exact (Hit.mem_push.mp mem).imp_right (List.mem_cons_of_mem worst)
  · exact .inr (kept ▸ mem)

/-- All scores that are kept are finite. -/
def AllFinite (t : TopHits R) : Prop := ∀ h ∈ t.heap, Scalar.isFinite h.score = true

lemma AllFinite.offer (all : t.AllFinite) (finite : Scalar.isFinite h.score = true) :
    (t.offer h).AllFinite := by
  intro g mem
  obtain rfl | kept := mem_offer mem
  · exact finite
  · exact all g kept

lemma AllFinite.merge (all : t.AllFinite) (all' : u.AllFinite) : (t.merge u).AllFinite := by
  have offers (hits : List (Hit R)) (finite : ∀ h ∈ hits, Scalar.isFinite h.score = true) :
      (hits.foldl TopHits.offer t).AllFinite := by
    induction hits generalizing t with
    | nil => exact all
    | cons h hits ih =>
      obtain ⟨first, rest⟩ := List.forall_mem_cons.mp finite
      exact ih (all.offer first) rest
  exact offers u.heap all'

lemma AllFinite.foldl_merge {us : List (TopHits R)} (all : t.AllFinite)
    (each : ∀ u ∈ us, u.AllFinite) : (us.foldl TopHits.merge t).AllFinite := by
  induction us generalizing t with
  | nil => exact all
  | cons u us ih =>
    obtain ⟨first, rest⟩ := List.forall_mem_cons.mp each
    exact ih (all.merge first) rest

end TopHits

namespace Searcher

open Query

variable {e : Searcher R} {p : Prepared R} {q : Query R} {segment : Segment} {k : Nat}

/-! ## Searches -/

/-- A hit is only collected with a finite score. -/
lemma collectHit_allFinite {scoring : Query R} {base doc : Nat} {top top' : TopHits R}
    {tree tree' : Tree R} (all : top.AllFinite)
    (collected : collectHit scoring base top doc tree = .ok (top', tree')) : top'.AllFinite := by
  rw [collectHit] at collected
  split at collected
  · cases collected
  split at collected
  · next finite =>
    cases collected
    exact all.offer finite
  · cases collected

lemma searchSegment_allFinite {top : TopHits R} (searched : e.searchSegment p k segment = .ok top) :
    top.AllFinite := by
  obtain ⟨s, _, drained⟩ := bind_eq_ok searched
  have start : (TopHits.empty k : TopHits R).AllFinite := List.forall_mem_nil _
  apply Scan.drain_keeps ?_ start drained
  intro top top' doc tree tree' all collected
  exact collectHit_allFinite all collected

/-- All scores that a search returns are finite. -/
theorem best_finite {r : Results R} (searched : e.best p k = .ok r) :
    ∀ h ∈ r.hits, Scalar.isFinite h.score = true := by
  obtain ⟨tops, all, searched⟩ := bind_eq_ok searched
  cases searched
  intro h mem
  obtain ⟨g, kept, rfl⟩ := List.mem_map.mp mem
  have each : ∀ top ∈ tops, top.AllFinite := by
    intro top within
    obtain ⟨s, _, searched⟩ := (mapM_eq_ok all).2.2 top within
    exact searchSegment_allFinite searched
  have merged : (tops.foldl TopHits.merge (.empty k)).AllFinite :=
    .foldl_merge (List.forall_mem_nil _) each
  exact merged g (List.mem_reverse.mp kept)

/-! ## Single documents -/

variable {limit : Option Nat} {docs : List Document} {env : Environment R}

/-- Every search for the query ends on a document whose score is not finite. -/
def AlwaysDiverges (e : Searcher R) (q scoring : Query R) : Prop :=
  ∀ k, ∃ doc score, e.Scores scoring doc score ∧ Scalar.isFinite score = false ∧
    e.search q k = .error (.diverged (Scalar.text score) scoring.display doc)

/-- A query that is compiled for a segment has a meaning in every segment. -/
lemma exists_meaning_of_tree {segment : Segment} {scoring : Query R} {defaultField : String}
    {share : Bool} {t : Tree R} (compiled : Session.tree segment defaultField share scoring = .ok t)
    (segment' : Segment) : ∃ b, scoring.meaning segment' defaultField = .ok b := by
  obtain ⟨σ, o, t', rfl, _, means, _, compiled', _⟩ | ⟨_, _, failed⟩ :=
    Session.tree_spec segment defaultField share scoring
  · obtain ⟨b, meant, _⟩ := compiled'.agree
    have alike := meaning_alike segment' σ.segment defaultField scoring
    rw [means.trans meant] at alike
    generalize scoring.meaning segment' defaultField = meaning at alike
    cases alike
    exact ⟨_, rfl⟩
  · cases compiled.symm.trans failed

/-- A query that is compiled somewhere has a meaning among all documents. -/
lemma exists_meaning_of_treeAt (docs : List Document) {scoring : Query R} {doc : Nat} {t : Tree R}
    (set : e.treeAt scoring doc = .ok t) :
    ∃ b, scoring.meaning (.ofDocuments 0 docs) e.env.defaultField = .ok b := by
  obtain ⟨⟨s, _⟩, _, set⟩ := bind_eq_ok set
  obtain ⟨fresh, compiled, _⟩ := bind_eq_ok set
  exact exists_meaning_of_tree compiled _

/-- A fresh tree that is put on a document answers what is true of the query there. -/
lemma exists_treeAt (limit : Option Nat) (numbered : docs.length ≤ noMoreDocs)
    (typed : p.scoring.Typed .scores) (made : Made env p) {b : Answers R Reading}
    (meant : p.scoring.meaning (.ofDocuments 0 docs) env.defaultField = .ok b) {doc : Nat}
    (lt : doc < docs.length) :
    let spot : Spot := ⟨.ofDocuments 0 docs, env.defaultField, doc⟩
    ∃ t, treeAt ⟨.ofDocuments limit docs, env⟩ p.scoring doc = .ok t ∧
      t.matched.1 = .ok (p.scoring.facts spot).matched ∧
      t.score.1 = .ok (p.scoring.score spot.rate spot) := by
  intro spot
  let e : Searcher R := ⟨.ofDocuments limit docs, env⟩
  obtain ⟨s, mem, d, inside, located, document, shows, shows'⟩ :=
    exists_located limit env.defaultField numbered lt
  have indexed := Collection.indexed_of_mem numbered mem
  replace located : e.collection.locate doc = .ok (s, d) := located
  obtain ⟨o, b', scan, _, begun⟩ | ⟨fault, failed, _⟩ :=
    scan_spec (e := e) indexed typed (candidates_widen (e := e) indexed made)
  · obtain ⟨t, set, matched, score⟩ := begun.fresh inside
    rw [facts_of_shows shows shows' rfl] at matched
    rw [hitAt, score_of_shows shows shows' rfl] at score
    exact ⟨t, (treeAt_eq located).trans set, matched, score⟩
  · have alike := meaning_alike s (.ofDocuments 0 docs) env.defaultField p.scoring
    rw [failed, meant] at alike
    cases alike

/-- A document that a tree can be put on is among all documents. -/
lemma lt_of_treeAt {scoring : Query R} {doc : Nat} {t : Tree R}
    (set : treeAt ⟨.ofDocuments limit docs, env⟩ scoring doc = .ok t) : doc < docs.length := by
  obtain ⟨_, located, _⟩ := bind_eq_ok set
  by_contra not
  have failed : (Collection.ofDocuments limit docs).locate doc = _ :=
    Collection.locate_of_length_le (Nat.le_of_not_lt not)
  cases failed.symm.trans located

/-- The score that a fresh tree gives a document is the one that the query has there. -/
lemma Scores.score_eq (numbered : docs.length ≤ noMoreDocs) (typed : p.scoring.Typed .scores)
    (made : Made env p) {doc : Nat} {score : R}
    (scores : Scores ⟨.ofDocuments limit docs, env⟩ p.scoring doc score) : doc < docs.length ∧
      let spot : Spot := ⟨.ofDocuments 0 docs, env.defaultField, doc⟩
      score = p.scoring.score spot.rate spot := by
  obtain ⟨t, set, scored⟩ := scores
  obtain ⟨b, meant⟩ := exists_meaning_of_treeAt docs set
  have lt := lt_of_treeAt set
  obtain ⟨t', set', _, scored'⟩ := exists_treeAt limit numbered typed made meant lt
  cases set.symm.trans set'
  exact ⟨lt, Except.ok.inj (scored.symm.trans scored')⟩

/-- The scoring query gives the document a finite score if it matches it. -/
def FiniteAt (defaultField : String) (docs : List Document) (scoring : Query R) (doc : Nat) :
    Prop :=
  let spot : Spot := ⟨.ofDocuments 0 docs, defaultField, doc⟩
  (scoring.facts spot).matched = true → Scalar.isFinite (scoring.score spot.rate spot) = true

section Search

variable [Std.TransCmp (Scalar.order : R → R → Ordering)]

/-- Either all documents that match have finite scores and every search succeeds, or one has not and
every search ends on such a document. -/
lemma search_cases (limit : Option Nat) (numbered : docs.length ≤ noMoreDocs) (noRaw : q.NoRaw)
    (prepared : prepare ⟨.ofDocuments limit docs, env⟩ q = .ok p) (whole : p.scoring.NoEmptyAnd)
    {b : Answers R Reading} (some_ : docs ≠ [])
    (meant : p.scoring.meaning (.ofDocuments 0 docs) env.defaultField = .ok b) :
    let e : Searcher R := ⟨.ofDocuments limit docs, env⟩
    ((∀ doc < docs.length, FiniteAt env.defaultField docs p.scoring doc) ∧
        ∀ k, ∃ r, e.search q k = .ok r) ∨
      (∃ doc < docs.length, ¬FiniteAt env.defaultField docs p.scoring doc) ∧
        e.AlwaysDiverges q p.scoring := by
  intro e
  let all : Segment := .ofDocuments 0 docs
  have typed := scoring_typed noRaw prepared
  have made := candidates_made prepared
  have outcome (k : Nat) := (search_eq_best prepared k).trans
    (best_ofDocuments numbered some_ typed made k)
  simp only [meant] at outcome
  have hits_iff {doc : Nat} (lt : doc < docs.length) :
      Hits all env.defaultField p.scoring p.candidates doc ↔
        (p.scoring.facts ⟨all, env.defaultField, doc⟩).matched = true := by
    have indexed := indexed_whole numbered
    have widens := candidates_widen (e := e) indexed made
    exact hits_iff indexed typed widens meant (typed.filled whole) lt
  cases first : (allHits env.defaultField docs p).find? fun h => !Scalar.isFinite h.score with
  | none =>
    simp only [first] at outcome
    refine .inl ⟨fun doc lt yes => ?_, fun k => ⟨_, outcome k⟩⟩
    have among : hitAt all env.defaultField p.scoring doc ∈ allHits env.defaultField docs p :=
      List.mem_map_of_mem (mem_hitList.mpr ⟨lt, (hits_iff lt).mpr yes⟩)
    by_contra infinite
    have diverged := Bool.eq_false_iff.mpr infinite
    exact List.find?_eq_none.mp first _ among (congrArg not diverged)
  | some h =>
    simp only [first] at outcome
    have diverged : Scalar.isFinite h.score = false := by simpa using List.find?_some first
    obtain ⟨doc, mem, rfl⟩ := List.mem_map.mp (List.mem_of_find?_eq_some first)
    obtain ⟨lt, hits⟩ := mem_hitList.mp mem
    obtain ⟨t, set, _, scored⟩ := exists_treeAt limit numbered typed made meant lt
    have number : (hitAt all env.defaultField p.scoring doc).doc = doc := Nat.zero_add doc
    refine .inr ⟨⟨doc, lt, fun finite => ?_⟩, fun k => ⟨doc, _, ⟨t, set, scored⟩, diverged, ?_⟩⟩
    · exact Bool.eq_false_iff.mp diverged (finite ((hits_iff lt).mp hits))
    · refine (outcome k).trans ?_
      exact congrArg (fun doc => Except.error (Fault.diverged _ _ doc)) number

/-- If a document that matches has no finite score, every search ends on such a document. -/
lemma diverges_of_not_finite (numbered : docs.length ≤ noMoreDocs) (noRaw : q.NoRaw)
    (prepared : prepare ⟨.ofDocuments limit docs, env⟩ q = .ok p) (whole : p.scoring.NoEmptyAnd)
    {doc : Nat} {t : Tree R} (set : treeAt ⟨.ofDocuments limit docs, env⟩ p.scoring doc = .ok t)
    (infinite : ¬FiniteAt env.defaultField docs p.scoring doc) :
    AlwaysDiverges ⟨.ofDocuments limit docs, env⟩ q p.scoring := by
  have lt := lt_of_treeAt set
  have some_ : docs ≠ [] := List.ne_nil_of_length_pos (Nat.zero_lt_of_lt lt)
  obtain ⟨b, meant⟩ := exists_meaning_of_treeAt docs set
  obtain ⟨finite, _⟩ | ⟨_, diverges⟩ := search_cases limit numbered noRaw prepared whole some_ meant
  · exact absurd (finite doc lt) infinite
  · exact diverges

/-- A search fails if it can be computed that a document matches the prepared query, which has no
conjunctions, with a score that is not finite. -/
lemma search_ne_ok (numbered : docs.length ≤ noMoreDocs) (noRaw : q.NoRaw) {doc : Nat}
    {kinds : List String} (plain : "band" ∉ kinds) :
    let e : Searcher R := ⟨.ofDocuments limit docs, env⟩
    let spot : Spot := ⟨.ofDocuments 0 docs, env.defaultField, doc⟩
    (e.prepare q).map (fun p => ((p.scoring.facts spot).matched,
        Scalar.isFinite (p.scoring.score spot.rate spot), (e.treeAt p.scoring doc).isOk,
        p.scoring.nodes.map Query.kind)) = .ok (true, false, true, kinds) →
      ∀ k r, e.search q k ≠ .ok r := by
  intro e spot judged k r searched
  obtain ⟨p, prepared, judged⟩ := exists_of_map_eq_ok judged
  simp only [Prod.mk.injEq] at judged
  obtain ⟨yes, diverged, set, rfl⟩ := judged
  obtain ⟨t, set⟩ := exists_of_isOk set
  have whole : p.scoring.NoEmptyAnd := fun mem => plain (List.mem_map.mpr ⟨_, mem, rfl⟩)
  have infinite : ¬FiniteAt env.defaultField docs p.scoring doc := fun finite =>
    Bool.eq_false_iff.mp diverged (finite yes)
  obtain ⟨_, _, _, _, failed⟩ := diverges_of_not_finite numbered noRaw prepared whole set infinite k
  cases searched.symm.trans failed

/-- Searches for a runnable query all succeed, if the documents that match have finite scores, or
all end on one that has not. -/
theorem search_cases_of_runnable (limit : Option Nat) (numbered : docs.length ≤ noMoreDocs)
    (noRaw : q.NoRaw) (low : ∀ t ∈ q.terms, t.needed ≠ .scores)
    (runnable : q.Runnable env.defaultField .scores)
    (prepared : prepare ⟨.ofDocuments limit docs, env⟩ q = .ok p) (whole : p.scoring.NoEmptyAnd) :
    let e : Searcher R := ⟨.ofDocuments limit docs, env⟩
    ((∀ doc < docs.length, FiniteAt env.defaultField docs p.scoring doc) ∧
        ∀ k, ∃ r, e.search q k = .ok r) ∨
      (∃ doc < docs.length, ¬FiniteAt env.defaultField docs p.scoring doc) ∧
        e.AlwaysDiverges q p.scoring := by
  intro e
  obtain ⟨typed, ready⟩ := scoring_ready runnable low prepared
  obtain rfl | some_ := eq_or_ne docs []
  · refine .inl ⟨nofun, fun k => ?_⟩
    rw [search_eq_best prepared]
    obtain found | ⟨_, lt, _⟩ | ⟨text, written, _⟩ :=
      best_outcome numbered typed ready (candidates_made prepared) k
    · exact found
    · cases lt
    · exact absurd written (noRaw text)
  · cases compiled : Session.tree (.ofDocuments 0 docs) env.defaultField true p.scoring with
    | ok t =>
      obtain ⟨b, meant⟩ := exists_meaning_of_tree compiled (.ofDocuments 0 docs)
      exact search_cases limit numbered noRaw prepared whole some_ meant
    | error fault =>
      obtain ⟨text, written, _⟩ := Session.tree_error ready compiled
      exact absurd written (noRaw text)

/-- The score of a document that matches is finite, or every search ends on one that is not. -/
lemma finite_or_diverges (numbered : docs.length ≤ noMoreDocs) (noRaw : q.NoRaw)
    (prepared : prepare ⟨.ofDocuments limit docs, env⟩ q = .ok p) (whole : p.scoring.NoEmptyAnd)
    {doc : Nat} {score : R} (hit : Matches ⟨.ofDocuments limit docs, env⟩ p.scoring doc)
    (scores : Scores ⟨.ofDocuments limit docs, env⟩ p.scoring doc score) :
    Scalar.isFinite score = true ∨ AlwaysDiverges ⟨.ofDocuments limit docs, env⟩ q p.scoring := by
  have typed := scoring_typed noRaw prepared
  have made := candidates_made prepared
  obtain ⟨lt, rfl⟩ := scores.score_eq numbered typed made
  obtain ⟨t, set, yes⟩ := hit
  obtain ⟨b, meant⟩ := exists_meaning_of_treeAt docs set
  obtain ⟨t', set', matched, _⟩ := exists_treeAt limit numbered typed made meant lt
  cases set.symm.trans set'
  have yes := Except.ok.inj (matched.symm.trans yes)
  by_cases finite : FiniteAt env.defaultField docs p.scoring doc
  · exact .inl (finite yes)
  · exact .inr (diverges_of_not_finite numbered noRaw prepared whole set finite)

end Search

/-- An explanation has the score of the document, and says whether it matches. -/
lemma scores_of_explain {d : Nat} {x : Explanation R} (explained : e.explain q d = .ok x) :
    ∃ p, e.prepare q = .ok p ∧ e.Scores p.scoring d x.value ∧
      (x.matched = true → e.Matches p.scoring d) := by
  obtain ⟨p, segment, here, fresh, prepared, located, compiled, agrees⟩ := explained_tree explained
  obtain ⟨p', prepared', set⟩ := bind_eq_ok explained
  cases prepared.symm.trans prepared'
  obtain ⟨t, set, _⟩ := bind_eq_ok set
  have moved := set
  rw [treeAt_eq located, compiled] at moved
  have told := agrees [.moveTo here] rfl
  rw [Tree.after_moveTo moved] at told
  exact ⟨p, prepared, ⟨t, set, told.value⟩, fun yes => ⟨t, set, yes ▸ told.matched⟩⟩

/-- A query that is prepared alone is prepared as it may be among others. -/
lemma feature_of_prepare (noRaw : q.NoRaw) (prepared : e.prepare q = .ok p) :
    Feature e q p.scoring := by
  obtain ⟨bound, known, simple, typed, h, h', h'', inferred, measured, _⟩ :=
    prepareFor_steps prepared
  exact ⟨bound, known, simple, typed, h, h', settled_of_simplify h'', infer_unmarked inferred,
    infer_typed (noRaw_of_simple noRaw h h' h'') inferred, measured⟩

/-- A named score among those of several features, against the query alone. -/
structure Alone (e : Searcher R) (doc : Nat) (named : String × Query R) (score : String × R) :
    Prop where
  name : score.1 = named.1
  scores : ∀ p, e.prepare named.2 = .ok p → e.Matches p.scoring doc →
    e.Scores p.scoring doc score.2

/-- Features have the scores of their queries alone. -/
lemma alone_of_features {named : List (String × Query R)} {doc : Nat} {scores : List (String × R)}
    (numbered : docs.length ≤ noMoreDocs) (noRaw : ∀ n ∈ named, n.2.NoRaw)
    (found : features ⟨.ofDocuments limit docs, env⟩
      (.join (.multi (named.map Prod.fst)) (named.map Prod.snd)) doc = .ok scores) :
    List.Forall₂ (Alone ⟨.ofDocuments limit docs, env⟩ doc) named scores := by
  have noRaw' : NoRaw (.join (.multi (named.map Prod.fst)) (named.map Prod.snd)) :=
    noRaw_join (List.forall_mem_map.mpr noRaw)
  obtain ⟨some_, cs', prepared, rfl⟩ := features_multi numbered noRaw' found
  clear found noRaw'
  rw [List.forall₂_map_left_iff] at prepared
  induction prepared with
  | nil => exact .nil
  | @cons n c' named cs' feature _ ih =>
    obtain ⟨here, rest⟩ := List.forall_mem_cons.mp noRaw
    refine .cons ⟨rfl, fun p prepared hit => ?_⟩ (ih rest)
    obtain ⟨t, set, _⟩ := hit
    obtain ⟨b, meant⟩ := exists_meaning_of_treeAt docs set
    obtain ⟨t', set', _, scored⟩ := exists_treeAt limit numbered
      (scoring_typed here prepared) (candidates_made prepared) meant (lt_of_treeAt set)
    have same := score_congr ((feature_of_prepare here prepared).unique numbered some_ feature)
    rw [same] at scored
    exact ⟨t', set', scored⟩

/-- Every score that a search returns is finite. Single documents are not checked: of one that
matches, the score is finite or every search for the query ends on a score that is not, be it
explained or the score of a feature. This is so for queries that have no part in the words of the
index and are prepared to such without a conjunction of nothing. Documents are numbered below the
end that `noMoreDocs` marks. -/
theorem scores_finite [Std.TransCmp (Scalar.order : R → R → Ordering)] {env : Environment R}
    (numbered : docs.length ≤ noMoreDocs) :
    let e : Searcher R := ⟨.ofDocuments limit docs, env⟩
    (∀ q k r, e.search q k = .ok r → ∀ h ∈ r.hits, Scalar.isFinite h.score = true) ∧
    (∀ q p doc score, q.NoRaw → e.prepare q = .ok p → p.scoring.NoEmptyAnd →
      e.Matches p.scoring doc → e.Scores p.scoring doc score →
      Scalar.isFinite score = true ∨ e.AlwaysDiverges q p.scoring) ∧
    (∀ q p doc x, q.NoRaw → e.prepare q = .ok p → p.scoring.NoEmptyAnd →
      e.explain q doc = .ok x → x.matched = true →
      Scalar.isFinite x.value = true ∨ e.AlwaysDiverges q p.scoring) ∧
    ∀ named doc scores, (∀ n ∈ named, n.2.NoRaw) →
      e.features (.join (.multi (named.map Prod.fst)) (named.map Prod.snd)) doc = .ok scores →
      List.Forall₂ (fun n s => s.1 = n.1 ∧ ∀ p, e.prepare n.2 = .ok p → p.scoring.NoEmptyAnd →
        e.Matches p.scoring doc → e.Scores p.scoring doc s.2 ∧
          (Scalar.isFinite s.2 = true ∨ e.AlwaysDiverges n.2 p.scoring)) named scores := by
  intro e
  refine ⟨fun q k r searched => ?_, fun q p doc score noRaw prepared whole => ?_,
    fun q p doc x noRaw prepared whole explained yes => ?_, fun named doc scores noRaw found => ?_⟩
  · obtain ⟨p, _, searched⟩ := bind_eq_ok searched
    exact best_finite searched
  · exact finite_or_diverges numbered noRaw prepared whole
  · obtain ⟨p', prepared', scores, hit⟩ := scores_of_explain explained
    cases prepared.symm.trans prepared'
    exact finite_or_diverges numbered noRaw prepared whole (hit yes) scores
  · have alone := alone_of_features numbered noRaw found
    have each := (List.forall₂_and_left named scores).mpr ⟨noRaw, alone⟩
    refine each.imp fun n s ⟨here, alone⟩ => ⟨alone.name, fun p prepared whole hit => ?_⟩
    have scores := alone.scores p prepared hit
    exact ⟨scores, finite_or_diverges numbered here prepared whole hit scores⟩

/-- A document that a search finds by a weighted count, explained there. -/
theorem scores_finite_weighted :
    let docs : List Document := [⟨"d0", [("body", "a b")]⟩, ⟨"d1", [("body", "b")]⟩]
    let e : Searcher Float := ⟨.ofDocuments (some 1) docs, .usual⟩
    let q : Query Float := .modify (.weight 0.5) (.modify .countToScore (.term "a"))
    ∃ r x, e.search q 1 = .ok r ∧ e.explain q 0 = .ok x ∧ x.matched = true ∧
      (∀ h ∈ r.hits, Scalar.isFinite h.score = true) ∧ Scalar.isFinite x.value = true := by
  intro docs e q
  let term (needed : Need) : Query Float := .leaf (.term {
    text := "a", field := some "body", stats := some ⟨"body:a", 1, 1, 3, 2⟩, needed })
  let scored : Query Float := .modify (.weight 0.5) (.modify .countToScore (term .counts))
  have searches : (e.search q 1).isOk = true := by decide +kernel
  have explains : (e.explain q 0).map Explanation.matched = .ok true := by decide +kernel
  have prepared : e.prepare q = .ok ⟨scored, term .docs⟩ := by
    have indexed : Collection.ofDocuments (some 1) docs =
        ⟨[⟨0, 1, [("body", ⟨#[2], [("b", [⟨0, [1]⟩]), ("a", [⟨0, [0]⟩])]⟩)]⟩,
          ⟨1, 1, [("body", ⟨#[1], [("b", [⟨0, [0]⟩])]⟩)]⟩], #["d0", "d1"]⟩ := by decide +kernel
    unfold e
    rw [indexed]
    rfl
  have noRaw : q.NoRaw := by simp [q, NoRaw, Query.term, nodes]
  have whole : scored.NoEmptyAnd := by simp [scored, term, NoEmptyAnd, nodes]
  obtain ⟨r, searched⟩ := exists_of_isOk searches
  obtain ⟨x, explained, yes⟩ := exists_of_map_eq_ok explains
  have numbered : docs.length ≤ noMoreDocs := by decide
  obtain ⟨hits, _, explanations, _⟩ := @scores_finite Float _ (some 1) docs _ .usual numbered
  refine ⟨r, x, searched, explained, yes, hits q 1 r searched, ?_⟩
  obtain finite | diverges := explanations q _ 0 x noRaw prepared whole explained yes
  · exact finite
  · obtain ⟨_, _, _, _, failed⟩ := diverges 1
    cases searched.symm.trans failed

/-- An infinite weight: the search fails on the document that matches, which is explained with an
infinite score, and has it as the score of a feature. -/
theorem diverged_explained :
    let docs : List Document := [⟨"d0", [("body", "a")]⟩]
    let e : Searcher Float := ⟨.ofDocuments none docs, .usual⟩
    let q : Query Float := .modify (.weight Binary64.infinity)
      (.modify (.boolToScore 1 0) (.term "a"))
    e.env.validate = .ok () ∧
    (∀ r, e.search q 10 ≠ .ok r) ∧
    (∃ x, e.explain q 0 = .ok x ∧ x.matched = true ∧ Scalar.isFinite x.value = false) ∧
    ∃ x, e.features (.join (.multi ["x"]) [q]) 0 = .ok [("x", x)] ∧
      Scalar.isFinite x = false := by
  intro docs e q
  have valid : e.env.validate = .ok () := by decide +kernel
  have searches : (e.search q 10).isOk = false := by decide +kernel
  have explains : (e.explain q 0).map (fun x => (x.matched, Scalar.isFinite x.value)) =
      .ok (true, false) := by decide +kernel
  have finds : (e.features (.join (.multi ["x"]) [q]) 0).map
      (·.map fun s => (s.1, Scalar.isFinite s.2)) = .ok [("x", false)] := by decide +kernel
  obtain ⟨x, explained, same⟩ := exists_of_map_eq_ok explains
  obtain ⟨matched, infinite⟩ := Prod.mk.inj same
  obtain ⟨scores, found, single⟩ := exists_of_map_eq_ok finds
  obtain ⟨⟨name, y⟩, rfl, same'⟩ := List.map_eq_singleton_iff.mp single
  obtain ⟨rfl, infinite'⟩ := Prod.mk.inj same'
  refine ⟨valid, fun r searched => ?_, ⟨x, explained, matched, infinite⟩, y, found, infinite'⟩
  rw [searched] at searches
  cases searches

end Searcher

end Retrieval
