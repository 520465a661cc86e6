import Retrieval.Proofs.Query.Marks
import Retrieval.Proofs.Ranking.Segmentation

/-!
# Searches keep prefixes

A search that succeeds has met hits that do not depend on how many of them it keeps: in every
segment the scan starts poised at them (`Searcher.Starts`), and they can be listed once and for all
(`Searcher.Lists`). So a search for fewer hits finds the first of them, and the number of hits is
what counting the query gives (`Searcher.search_prefix`). Counting asks a query for documents only,
but prepares it to the same (`Searcher.prepareFor_docs`).
-/

namespace Retrieval

namespace Searcher

variable {R : Type} [Scalar R] {e : Searcher R} {p : Prepared R} {segment : Segment} {q : Query R}

/-! ## Preparing for less -/

/-- A query that is prepared for ranking is prepared to the same for counting. -/
theorem prepareFor_docs (prepared : e.prepare q = .ok p) : e.prepareFor .docs q = .ok p := by
  rw [prepare, prepareFor_eq] at prepared
  obtain ⟨scoring, scored, rest⟩ := bind_eq_ok prepared
  obtain ⟨bound, known, simple, typed, filled, attached, simplified, inferred, measured⟩ :=
    scoringFor_steps scored
  have scored' : e.scoringFor .docs q = .ok scoring := by
    simp only [scoringFor, filled, attached, simplified, Query.infer_docs inferred, measured,
      Bind.bind, Except.bind]
  rw [prepareFor_eq, scored']
  exact rest

/-! ## The hits of a segment -/

/-- The hits of a segment as a search that succeeds meets them, however many of them it keeps. -/
structure Lists (e : Searcher R) (p : Prepared R) (segment : Segment) (hits : List (Hit R)) : Prop
    extends e.Found p.scoring segment hits where
  matched : ∀ h ∈ hits, ∃ t,
    (do (← e.compile segment p.scoring).moveTo (h.doc - segment.base)) = .ok t ∧
      t.matched.1 = .ok true
  searched : ∀ k, e.searchSegment p k segment = .ok (hits.foldl TopHits.collect (.empty k))
  counted : e.foldSegment p.scoring p.candidates (fun n _ tree => .ok (n + 1, tree)) 0 segment =
    .ok hits.length

/-- Reads the score of a document and collects the hit if the score is finite. -/
def collectRead (b : Answers R Reading) (scoring : Query R) (base : Nat) (top : TopHits R)
    (d : Nat) : Except Fault (TopHits R) := do
  collectFinite scoring top ⟨base + d, ← b.score d⟩

/-- A document is collected if its score can be read and is finite. -/
lemma collectRead_eq_ok {b : Answers R Reading} {scoring : Query R} {base d : Nat}
    {top top' : TopHits R} : collectRead b scoring base top d = .ok top' ↔
      ∃ score, b.score d = .ok score ∧ Scalar.isFinite score = true ∧
        top.collect ⟨base + d, score⟩ = top' := by
  constructor
  · intro read
    obtain ⟨score, told, collected⟩ := bind_eq_ok read
    rw [collectFinite] at collected
    split at collected
    · next finite => exact ⟨score, told, finite, Except.ok.inj collected⟩
    · cases collected
  · rintro ⟨score, told, finite, rfl⟩
    rw [collectRead, told]
    exact if_pos finite

/-- Documents that have all been collected have hits to collect, in whatever they are collected. -/
lemma exists_hits {b : Answers R Reading} {scoring : Query R} {base : Nat} {ds : List Nat}
    {top top' : TopHits R} (read : ds.foldlM (collectRead b scoring base) top = .ok top') :
    ∃ hits : List (Hit R), hits.map Hit.doc = ds.map (base + ·) ∧
      (∀ h ∈ hits, b.score (h.doc - base) = .ok h.score) ∧
      ∀ top, ds.foldlM (collectRead b scoring base) top = .ok (hits.foldl TopHits.collect top) := by
  induction ds generalizing top with
  | nil => exact ⟨[], rfl, List.forall_mem_nil _, fun _ => rfl⟩
  | cons d ds ih =>
    rw [List.foldlM_cons] at read
    obtain ⟨next, first, read⟩ := bind_eq_ok read
    obtain ⟨score, told, finite, _⟩ := collectRead_eq_ok.mp first
    obtain ⟨hits, docs, scores, collects⟩ := ih read
    refine ⟨⟨base + d, score⟩ :: hits, ?_, ?_, fun top => ?_⟩
    · rw [List.map_cons, List.map_cons, docs]
    · refine List.forall_mem_cons.mpr ⟨?_, scores⟩
      rw [Nat.add_sub_cancel_left]
      exact told
    · rw [List.foldlM_cons, collectRead_eq_ok.mpr ⟨score, told, finite, rfl⟩]
      exact collects _

/-- A scan that is set up has not begun yet, with a tree that is fresh. -/
lemma before_of_scan {candidates : Query R} {s : Scan R} (indexed : segment.Indexed)
    (scanned : e.scan segment p.scoring candidates = .ok s) :
    ∃ o b, s.Before o b segment.size 0 ∧ s.tree.Follows o b none ∧
      e.compile segment p.scoring = .ok s.tree := by
  obtain ⟨t, compiled, scanned⟩ := bind_eq_ok scanned
  obtain ⟨w, walked, scanned⟩ := bind_eq_ok scanned
  cases scanned
  obtain ⟨o, b, _, follows⟩ := follows_of_compile compiled
  have fits := Walk.Fits.ofQuery indexed candidates walked
  exact ⟨o, b, ⟨fits.sound, fits.inside, none, follows, rfl⟩, follows, compiled⟩

/-- Collecting the document that a tree is on collects what is read of its score. -/
lemma collectHit_read (scoring : Query R) (base : Nat) {o : Origin} {b : Answers R Reading}
    {d : Nat} {tree : Tree R} (follows : tree.Follows o b (some d)) (top : TopHits R) :
    (∃ top' tree', collectHit scoring base top d tree = .ok (top', tree') ∧
      collectRead b scoring base top d = .ok top' ∧ tree'.Follows o b (some d)) ∨
    ∃ fault, collectHit scoring base top d tree = .error fault ∧
      collectRead b scoring base top d = .error fault := by
  obtain ⟨answer, follows'⟩ := follows.ask follows.agree.score
  have asked : tree.score = (b.score d, tree.score.2) := Prod.ext answer rfl
  rw [collectHit, collectRead, asked]
  cases b.score d with
  | error fault => exact .inr ⟨fault, rfl, rfl⟩
  | ok score =>
    dsimp only
    show (∃ top' tree', _ ∧ collectFinite scoring top ⟨base + d, score⟩ = .ok top' ∧ _) ∨
      ∃ fault, _ ∧ collectFinite scoring top ⟨base + d, score⟩ = .error fault
    rw [collectFinite]
    split
    · exact .inl ⟨_, _, rfl, rfl, follows'⟩
    · exact .inr ⟨_, rfl, rfl⟩

/-- The scan of a segment is set up, with a fresh tree and poised at the documents that hit. -/
structure Starts (e : Searcher R) (p : Prepared R) (segment : Segment) (hit : Nat → Bool)
    (o : Origin) (b : Answers R Reading) (s : Scan R) : Prop where
  scanned : e.scan segment p.scoring p.candidates = .ok s
  poised : s.Poised o b hit segment.size 0
  compiled : e.compile segment p.scoring = .ok s.tree
  follows : s.tree.Follows o b none

namespace Starts

variable {hit : Nat → Bool} {o : Origin} {b : Answers R Reading} {s : Scan R}

/-- A search of the segment reads the scores of these documents. -/
lemma searched (starts : e.Starts p segment hit o b s) (indexed : segment.Indexed) (k : Nat) :
    e.searchSegment p k segment = (Scan.hitsFrom hit segment.size 0).foldlM
      (collectRead b p.scoring segment.base) (.empty k) := by
  rw [searchSegment, foldSegment, starts.scanned]
  show s.drain (collectHit p.scoring segment.base) (.empty k) 0 = _
  apply starts.poised.drain indexed.fits
  exact fun top d tree _ _ follows => collectHit_read p.scoring segment.base follows top

/-- Counting in the segment counts these documents, whatever their scores. -/
lemma counted (starts : e.Starts p segment hit o b s) (indexed : segment.Indexed) :
    e.foldSegment p.scoring p.candidates (fun n _ tree => .ok (n + 1, tree)) 0 segment =
      .ok (Scan.hitsFrom hit segment.size 0).length := by
  have counts : s.drain (fun n _ tree => .ok (n + 1, tree)) 0 0 =
      (Scan.hitsFrom hit segment.size 0).foldlM (fun n _ => .ok (n + 1)) 0 := by
    apply starts.poised.drain indexed.fits
    exact fun n _ tree _ _ follows => .inl ⟨n + 1, tree, rfl, rfl, follows⟩
  rw [foldSegment, starts.scanned]
  exact counts.trans ((foldlM_count _ 0).trans (by rw [Nat.zero_add]))

/-- A fresh tree can be put on any document, and answers there as the meaning does. -/
lemma set (starts : e.Starts p segment hit o b s) (d : Nat) :
    ∃ t, (do (← e.compile segment p.scoring).moveTo d) = .ok t ∧
      t.matched.1 = b.matched d ∧ t.score.1 = b.score d := by
  obtain ⟨t, set, follows⟩ := exists_set starts.compiled starts.follows d
  exact ⟨t, set, (follows.ask follows.agree.matched).1, (follows.ask follows.agree.score).1⟩

/-- If one search of the segment succeeds, it has listed these documents as its hits. -/
lemma lists (starts : e.Starts p segment hit o b s) (indexed : segment.Indexed) {k : Nat}
    {top : TopHits R} (succeeds : e.searchSegment p k segment = .ok top) :
    ∃ hits, e.Lists p segment hits ∧
      hits.map Hit.doc = (Scan.hitsFrom hit segment.size 0).map (segment.base + ·) := by
  rw [starts.searched indexed] at succeeds
  obtain ⟨hits, docs, scores, collects⟩ := exists_hits succeeds
  have among : ∀ h ∈ hits, ∃ d ∈ Scan.hitsFrom hit segment.size 0, h.doc = segment.base + d := by
    intro h mem
    obtain ⟨d, mem, same⟩ := List.mem_map.mp (docs ▸ List.mem_map_of_mem mem)
    exact ⟨d, mem, same.symm⟩
  refine ⟨hits, ⟨⟨?rising, fun h mem => ?inside, fun h mem => ?scored⟩, fun h mem => ?matched,
    fun k => (starts.searched indexed k).trans (collects _), ?counted⟩, docs⟩
  case rising =>
    rw [docs, List.pairwise_map]
    exact (Scan.hitsFrom_pairwise _ segment.size 0).imp fun lt => Nat.add_lt_add_left lt _
  case inside =>
    obtain ⟨d, mem, same⟩ := among h mem
    obtain ⟨⟨_, inside⟩, _⟩ := Scan.mem_hitsFrom.mp mem
    omega
  case scored =>
    obtain ⟨t, set, _, score⟩ := starts.set (h.doc - segment.base)
    exact ⟨t, set, score.trans (scores h mem)⟩
  case matched =>
    obtain ⟨t, set, matched, _⟩ := starts.set (h.doc - segment.base)
    obtain ⟨d, mem, same⟩ := among h mem
    obtain ⟨⟨_, inside⟩, yes⟩ := Scan.mem_hitsFrom.mp mem
    have judged := starts.poised.judged d (starts.poised.complete d (Nat.zero_le d) inside yes)
    rw [same, Nat.add_sub_cancel_left] at set matched
    rw [same, Nat.add_sub_cancel_left]
    exact ⟨t, set, matched.trans (judged.trans (congrArg Except.ok yes))⟩
  case counted =>
    rw [starts.counted indexed, ← List.length_map (f := Hit.doc), docs, List.length_map]

end Starts

/-- The scan of a segment that was searched with success meets nothing that cannot be judged. -/
lemma exists_starts {k : Nat} {top : TopHits R} (indexed : segment.Indexed)
    (searched : e.searchSegment p k segment = .ok top) :
    ∃ o b s, e.Starts p segment (Scan.isMatch b s) o b s := by
  obtain ⟨s, scanned, drained⟩ := bind_eq_ok searched
  obtain ⟨o, b, before, follows, compiled⟩ := before_of_scan indexed scanned
  refine ⟨o, b, s, scanned, before.poised_of_drain ?_ drained, compiled, follows⟩
  intro top top' d tree tree' visited follows
  rcases collectHit_read p.scoring segment.base follows top with
    ⟨_, _, visited', _, follows'⟩ | ⟨_, failed, _⟩
  · cases visited.symm.trans visited'
    exact follows'
  · cases visited.symm.trans failed

/-- A search of a segment that succeeds has listed its hits. -/
theorem exists_lists {k : Nat} {top : TopHits R} (indexed : segment.Indexed)
    (searched : e.searchSegment p k segment = .ok top) : ∃ hits, e.Lists p segment hits := by
  obtain ⟨_, _, _, starts⟩ := exists_starts indexed searched
  obtain ⟨hits, lists, _⟩ := starts.lists indexed searched
  exact ⟨hits, lists⟩

/-! ## All segments -/

section Segments

variable {limit : Option Nat} {docs : List Document} {found : Segment → List (Hit R)}

/-- The hits of all segments, one segment after the other, are on different documents. -/
lemma nodup_of_lists (collected : e.collection = .ofDocuments limit docs)
    (lists : ∀ s ∈ e.collection.segments, e.Lists p s (found s)) :
    ((e.collection.segments.map found).flatten.map Hit.doc).Nodup := by
  have apart : e.collection.segments.Pairwise fun s t => s.base + s.size ≤ t.base := by
    rw [collected]
    exact Collection.segments_pairwise limit docs
  rw [List.map_flatten, List.map_map]
  have rising := Collection.flatten_rising apart (fun s mem => (lists s mem).rising) fun s mem =>
    List.forall_mem_map.mpr (lists s mem).inside
  exact rising.imp Nat.ne_of_lt

/-- Any number of hits may be kept of those that the segments list. -/
lemma best_of_lists [Std.TransCmp (Scalar.order : R → R → Ordering)]
    (collected : e.collection = .ofDocuments limit docs)
    (lists : ∀ s ∈ e.collection.segments, e.Lists p s (found s)) (k : Nat) :
    e.best p k = .ok {
      hits := ((Hit.ranking (e.collection.segments.map found).flatten).take k).map fun h =>
        ⟨h.doc, h.score, e.collection.name? h.doc⟩
      total := (e.collection.segments.map found).flatten.length } := by
  have all : e.collection.segments.mapM (e.searchSegment p k) =
      .ok ((e.collection.segments.map found).map fun hits =>
        hits.foldl TopHits.collect (.empty k)) := by
    rw [mapM_congr fun s mem => (lists s mem).searched k, List.map_map]
    exact List.mapM_pure
  have once := nodup_of_lists collected lists
  have holds := (TopHits.holds_empty k).foldl_merge (e.collection.segments.map found) once
  rw [List.nil_append] at holds
  rw [best, all]
  refine congrArg Except.ok (?_ : Results.mk (List.map _ _) _ = _)
  rw [holds.hits, holds.total]

/-- Counting adds up what it counts in the segments. -/
lemma count_eq_sum (prepared : e.prepareFor .docs q = .ok p) {number : Segment → Nat}
    (counted : ∀ s ∈ e.collection.segments,
      e.foldSegment p.scoring p.candidates (fun n _ tree => .ok (n + 1, tree)) 0 s =
        .ok (number s)) : e.count q = .ok (e.collection.segments.map number).sum := by
  have all : (e.collection.segments.mapM
        (e.foldSegment p.scoring p.candidates (fun n _ tree => .ok (n + 1, tree)) 0)) =
      .ok (e.collection.segments.map number) := by
    rw [mapM_congr counted]
    exact List.mapM_pure
  rw [count, prepared]
  exact congrArg (fun counts : Except Fault (List Nat) => do return addUp (← counts)) all

/-- Counting finds as many hits as the segments list. -/
lemma count_of_lists (prepared : e.prepare q = .ok p)
    (lists : ∀ s ∈ e.collection.segments, e.Lists p s (found s)) :
    e.count q = .ok (e.collection.segments.map found).flatten.length := by
  rw [count_eq_sum (prepareFor_docs prepared) fun s mem => (lists s mem).counted,
    List.length_flatten, List.map_map]
  rfl

/-- A search that succeeds has prepared its query, and listed the hits of every segment. -/
lemma lists_of_search {K : Nat} {r : Results R} (collected : e.collection = .ofDocuments limit docs)
    (numbered : docs.length ≤ noMoreDocs) (searched : e.search q K = .ok r) :
    ∃ p, e.prepare q = .ok p ∧ e.best p K = .ok r ∧
      ∃ found : Segment → List (Hit R), ∀ s ∈ e.collection.segments, e.Lists p s (found s) := by
  obtain ⟨p, prepared, searched⟩ := bind_eq_ok searched
  obtain ⟨tops, all, _⟩ := bind_eq_ok searched
  have each : ∀ s ∈ e.collection.segments, ∃ hits, e.Lists p s hits := by
    intro s mem
    obtain ⟨top, _, searched⟩ := (mapM_eq_ok all).2.1 s mem
    rw [collected] at mem
    exact exists_lists (Collection.indexed_of_mem numbered mem) searched
  choose! found lists using each
  exact ⟨p, prepared, searched, found, lists⟩

/-- Where a search for `K` hits succeeds, a search for fewer finds the first of them and counts as
many matches; counting the query gives that number too, and all that it leaves room for are found.
Documents are numbered below the end that `noMoreDocs` marks. -/
theorem search_prefix [Std.TransCmp (Scalar.order : R → R → Ordering)] {env : Environment R}
    {k K : Nat} {r : Results R} (numbered : docs.length ≤ noMoreDocs) (fewer : k ≤ K)
    (searched : search ⟨.ofDocuments limit docs, env⟩ q K = .ok r) :
    let e : Searcher R := ⟨.ofDocuments limit docs, env⟩
    e.search q k = .ok { hits := r.hits.take k, total := r.total } ∧
      e.count q = .ok r.total ∧ r.hits.length = min K r.total := by
  intro e
  obtain ⟨p, prepared, best_eq, found, lists⟩ := lists_of_search rfl numbered searched
  have best (k : Nat) := best_of_lists rfl lists k
  cases best_eq.symm.trans (best K)
  refine ⟨?_, count_of_lists prepared lists, ?_⟩
  · rw [search_eq_best prepared, best k, ← List.map_take, List.take_take, Nat.min_eq_left fewer]
  · rw [List.length_map, List.length_take, (Hit.ranking_perm _).length_eq]

/-- Two segments with three documents that match, searched by a weighted count for two of them and
for one. -/
theorem search_prefix_three :
    let docs : List Document := [⟨"d0", [("body", "a b a")]⟩, ⟨"d1", [("body", "b a")]⟩,
      ⟨"d2", [("body", "b")]⟩, ⟨"d3", [("body", "a b")]⟩]
    let e : Searcher Float := ⟨.ofDocuments (some 2) docs, .usual⟩
    let q : Query Float := .modify (.weight 0.5) (.modify .countToScore (.term "a"))
    ∃ r, e.search q 2 = .ok r ∧
      e.search q 1 = .ok { hits := r.hits.take 1, total := r.total } ∧
      e.count q = .ok r.total ∧ r.hits.length = min 2 r.total := by
  intro docs e q
  have searches : (e.search q 2).isOk = true := by decide +kernel
  obtain ⟨r, searched⟩ := exists_of_isOk searches
  exact ⟨r, searched, search_prefix (by decide) (by decide) searched⟩

end Segments

end Searcher

end Retrieval
