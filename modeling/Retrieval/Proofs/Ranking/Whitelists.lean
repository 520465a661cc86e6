import Retrieval.Proofs.Candidates.Coverage
import Retrieval.Proofs.Collection.Whitelists
import Retrieval.Proofs.Ranking.Prefixes

/-!
# Whitelists select the documents that they list

A query that is headed by a whitelist is the whitelist itself, or a value of which it is required.
Preparation binds the whitelist and leaves it at the head, so that in every segment both the walk and
the tree take the listed documents that the segment holds, and no others. What the value scores does
not matter for counting; a search finds the listed documents, too, unless the score of one of them
cannot be read or is not finite (`Searcher.whitelist_selects`).
-/

namespace Retrieval

variable {R : Type} [Scalar R]

/-! ## Headed queries -/

namespace Query

lemma meaning_whitelist {σ : Setting} {w : Whitelist} {ids : List Nat}
    (within : Session.idsWithin σ.segment w = .ok ids) :
    σ.meaning (.leaf (.whitelist w) : Query R) = .ok (.whitelist read ids) := by
  rw [Setting.meaning, Setting.leaf, within]
  rfl

/-- The query is a whitelist, or a value of which the whitelist is required. -/
inductive Headed (w : Whitelist) : (required : Bool) → Query R → Prop where
  | alone : Headed w false (.leaf (.whitelist w))
  | required (v : Query R) : Headed w true (.require (.leaf (.whitelist w)) v)

namespace Headed

variable {w w' : Whitelist} {required : Bool} {q q' : Query R}

omit [Scalar R] in
/-- A rebuilt query is headed by what the whitelist has become. -/
lemma rebuild {onLeaf : Leaf R → Except Fault (Leaf R)}
    {onModifier : Modifier R → Query R → Except Fault (Modifier R)}
    (changed : onLeaf (.whitelist w) = .ok (.whitelist w')) (headed : Headed w required q)
    (built : q.rebuild onLeaf onModifier = .ok q') : Headed w' required q' := by
  have list : (leaf (.whitelist w)).rebuild onLeaf onModifier = .ok (.leaf (.whitelist w')) := by
    rw [Query.rebuild, changed]
    rfl
  cases headed with
  | alone =>
    cases built.symm.trans list
    exact .alone
  | required v =>
    obtain ⟨c, cond, built⟩ := bind_eq_ok built
    obtain ⟨v', _, built⟩ := bind_eq_ok built
    cases built
    cases cond.symm.trans list
    exact .required v'

/-- No rule concerns a whitelist at the head. -/
lemma pass (headed : Headed w required q) : Headed w required q.pass.value := by
  cases headed with
  | alone => exact .alone
  | required v =>
    rw [Query.pass, weightPass, weightPass]
    exact .required _

lemma simplify (headed : Headed w required q) {passes : Nat} (simple : q.simplify passes = .ok q') :
    Headed w required q' :=
  settle?_induction (fun _ => pass) headed (settled_of_simplify simple)

lemma infer (headed : Headed w required q) {need : Need} (inferred : q.infer need = .ok q') :
    Headed w required q' := by
  obtain ⟨marked, mark, inferred⟩ := bind_eq_ok inferred
  cases inferred
  cases headed with
  | alone =>
    obtain ⟨_, _, mark⟩ := bind_eq_ok mark
    cases mark
    exact .alone
  | required v =>
    obtain ⟨_, _, mark⟩ := bind_eq_ok mark
    obtain ⟨c, cond, mark⟩ := bind_eq_ok mark
    obtain ⟨v', _, mark⟩ := bind_eq_ok mark
    obtain ⟨_, _, cond⟩ := bind_eq_ok cond
    cases cond
    cases mark
    exact .required _

/-- The candidates are simple already. -/
lemma simplify_candidates (headed : Headed w required q) (passes : Nat) :
    q.candidates.simplify passes = .ok q.candidates := by
  have same : q.candidates.pass = ⟨q.candidates, false⟩ := by
    cases headed <;> rfl
  have weights : q.candidates.checkWeights = .ok () := by
    cases headed <;> rfl
  rw [Query.simplify, weights, settle?_of_pass same]
  rfl

variable {segment : Segment} {ids : List Nat}

/-- The walk of the candidates goes through the listed documents. -/
lemma finds_candidates (headed : Headed w required q) (indexed : segment.Indexed)
    (within : Session.idsWithin segment w = .ok ids) :
    Runs segment q.candidates ∧ ∀ d, Finds segment q.candidates d ↔ d ∈ ids := by
  have made : Walk.ofQuery segment (.leaf (.whitelist w) : Query R) = .ok (Walk.ofList ids) := by
    rw [Walk.ofQuery, Walk.ofLeaf, within]
    rfl
  cases headed with
  | alone => exact ⟨⟨_, made⟩, fun d => (finds_iff made).trans Walk.offers_ofList⟩
  | required v =>
    refine ⟨runs_require.mpr ⟨⟨_, made⟩, runs_always⟩, fun d => ?_⟩
    rw [candidates, finds_require indexed, finds_always]
    rw [show candidates (.leaf (.whitelist w) : Query R) = .leaf (.whitelist w) from rfl,
      finds_iff made, Walk.offers_ofList]
    exact and_iff_left_of_imp ((idsWithin_rising within).2 d)

/-- The meaning matches the listed documents, whatever the value is. -/
lemma matched (headed : Headed w required q) {defaultField : String} {b : Answers R Reading}
    (meant : q.meaning segment defaultField = .ok b)
    (within : Session.idsWithin segment w = .ok ids) (d : Nat) :
    b.matched d = .ok (ids.contains d) := by
  obtain ⟨known, _, meant⟩ := bind_eq_ok meant
  have list := meaning_whitelist (R := R) (σ := ⟨segment, defaultField, known, .never⟩) within
  cases headed with
  | alone =>
    cases meant.symm.trans list
    rfl
  | required v =>
    obtain ⟨c, cond, meant⟩ := bind_eq_ok meant
    obtain ⟨v', _, meant⟩ := bind_eq_ok meant
    cases meant
    cases cond.symm.trans list
    rfl

end Headed

/-- A listed document scores what the value alone says. -/
lemma score_required {w : Whitelist} {v : Query R} {segment : Segment} {defaultField : String}
    {ids : List Nat} {b : Answers R Reading}
    (meant : (require (.leaf (.whitelist w)) v).meaning segment defaultField = .ok b)
    (within : Session.idsWithin segment w = .ok ids) :
    ∃ b', v.meaning segment defaultField = .ok b' ∧ ∀ d ∈ ids, b.score d = b'.score d := by
  obtain ⟨known, registered, meant⟩ := bind_eq_ok meant
  obtain ⟨c, cond, meant⟩ := bind_eq_ok meant
  obtain ⟨b', value, meant⟩ := bind_eq_ok meant
  cases meant
  cases cond.symm.trans (meaning_whitelist within)
  -- a whitelist has no terms that the value could share
  replace registered : v.registered = .ok known := registered
  refine ⟨b', ?_, fun d mem => ?_⟩
  · rw [meaning, registered]
    exact value
  · have yes : (Answers.whitelist read ids : Answers R Reading).matched d = .ok true :=
      congrArg Except.ok (List.contains_iff_mem.mpr mem)
    exact Reading.bind_of_ok _ yes

end Query

/-- The results of a search for `k` documents count those of a list, and are the first of these in
some order. -/
structure Results.Retrieves (r : Results R) (k : Nat) (listed : List Nat) : Prop where
  total : r.total = listed.length
  ranked : ∃ order : List Nat, order.Perm listed ∧ r.hits.map NamedHit.doc = order.take k

namespace Searcher

open Query

variable {e : Searcher R} {p : Prepared R} {q : Query R} {w w' : Whitelist}
  {required : Bool} {need : Need}

/-! ## Preparation -/

/-- What scores a headed query is headed by the bound whitelist. -/
lemma headed_of_scoringFor {scoring : Query R}
    (filled : Environment.fillWhitelist e.collection w = .ok w') (headed : Headed w required q)
    (scored : e.scoringFor need q = .ok scoring) : Headed w' required scoring := by
  obtain ⟨bound, known, simple, typed, h, h', h'', inferred, measured⟩ := scoringFor_steps scored
  have bind : e.env.fillLeaf e.collection (.whitelist w : Leaf R) = .ok (.whitelist w') := by
    rw [Environment.fillLeaf, filled]
    rfl
  have attach : e.collection.attachLeaf (.whitelist w' : Leaf R) = .ok (.whitelist w') := rfl
  have keep : (.ok : Leaf R → Except Fault (Leaf R)) (.whitelist w') = .ok (.whitelist w') := rfl
  exact ((((headed.rebuild bind h).rebuild attach h').simplify h'').infer inferred).rebuild keep
    measured

/-- Its candidates are prepared as they are, simplified or not. -/
lemma prepareFor_of_headed {scoring : Query R} (headed : Headed w required scoring)
    (scored : e.scoringFor need q = .ok scoring) :
    e.prepareFor need q = .ok ⟨scoring, scoring.candidates⟩ := by
  rw [prepareFor_eq, scored]
  cases e.env.simplifyCandidates with
  | true =>
    change (scoring.candidates.simplify e.env.maxPasses >>= _) = _
    rw [headed.simplify_candidates]
    rfl
  | false => rfl

lemma headed_of_prepareFor (filled : Environment.fillWhitelist e.collection w = .ok w')
    (headed : Headed w required q) (prepared : e.prepareFor need q = .ok p) :
    Headed w' required p.scoring ∧ p.candidates = p.scoring.candidates := by
  have prepared' := prepared
  rw [prepareFor_eq] at prepared'
  obtain ⟨scoring, scored, _⟩ := bind_eq_ok prepared'
  have headed' := headed_of_scoringFor filled headed scored
  cases prepared.symm.trans (prepareFor_of_headed headed' scored)
  exact ⟨headed', rfl⟩

/-- A whitelist can be prepared for anything but positions. -/
lemma prepareFor_whitelist (filled : Environment.fillWhitelist e.collection w = .ok w')
    (other : need ≠ .positions) :
    e.prepareFor need (.leaf (.whitelist w)) =
      .ok ⟨.leaf (.whitelist w'), .leaf (.whitelist w')⟩ := by
  have bound : Query.bind e.env e.collection (.leaf (.whitelist w)) =
      .ok (.leaf (.whitelist w') : Query R) := by
    rw [Query.bind, Query.rebuild, Environment.fillLeaf, filled]
    rfl
  have attached : attachStatistics e.collection (.leaf (.whitelist w') : Query R) =
      .ok (.leaf (.whitelist w')) := rfl
  have simplified : simplify e.env.maxPasses (.leaf (.whitelist w') : Query R) =
      .ok (.leaf (.whitelist w')) := Headed.alone.simplify_candidates _
  have inferred : infer need (.leaf (.whitelist w') : Query R) = .ok (.leaf (.whitelist w')) := by
    cases need with
    | positions => exact absurd rfl other
    | _ => rfl
  have measured : e.measure (.leaf (.whitelist w')) = .ok (.leaf (.whitelist w')) := rfl
  refine prepareFor_of_headed .alone ?_
  simp only [scoringFor, bound, attached, simplified, inferred, measured, Bind.bind, Except.bind]

/-! ## Segments -/

variable {segment : Segment} {ids : List Nat}

/-- Of a rising list of documents of a segment each is met once. -/
lemma hitsFrom_contains {size : Nat} (rising : ids.Pairwise (· < ·))
    (inside : ∀ d ∈ ids, d < size) : Scan.hitsFrom ids.contains size 0 = ids := by
  refine eq_of_rising (Scan.hitsFrom_pairwise _ size 0) rising fun d => ?_
  rw [Scan.mem_hitsFrom, List.contains_iff_mem]
  exact and_iff_right_of_imp fun mem => ⟨Nat.zero_le d, inside d mem⟩

/-- The scan of a segment starts at the documents of the whitelist. -/
lemma exists_starts_of_headed (indexed : segment.Indexed) (headed : Headed w required p.scoring)
    (candidates : p.candidates = p.scoring.candidates)
    (within : Session.idsWithin segment w = .ok ids) {t : Tree R}
    (compiled : e.compile segment p.scoring = .ok t) :
    ∃ o b s, e.Starts p segment ids.contains o b s ∧
      p.scoring.meaning segment e.env.defaultField = .ok b := by
  obtain ⟨⟨walk, walked⟩, finds⟩ := headed.finds_candidates indexed within
  have fits := Walk.Fits.ofQuery indexed _ walked
  have offers : ∀ d, walk.Offers d ↔ d ∈ ids := fun d => (finds_iff walked).symm.trans (finds d)
  obtain ⟨o, b, meant, follows⟩ := follows_of_compile compiled
  refine ⟨o, b, ⟨walk, t, none, 0⟩, ⟨?_, ?_, compiled, follows⟩, meant⟩
  · rw [scan, compiled, candidates, walked]
    rfl
  · exact {
      sound := fits.sound
      inside := fits.inside
      complete := fun d _ _ mem => (offers d).mpr (List.contains_iff_mem.mp mem)
      judged := fun d _ => headed.matched meant within d
      follows := ⟨none, follows, rfl⟩ }

/-- Where a query has a meaning, a fresh tree can be put on any document and answers as it does. -/
lemma exists_set_of_meaning {b : Answers R Reading}
    (meant : q.meaning segment e.env.defaultField = .ok b) (d : Nat) :
    ∃ t, (do (← e.compile segment q).moveTo d) = .ok t ∧
      t.matched.1 = b.matched d ∧ t.score.1 = b.score d := by
  obtain ⟨tree, compiled⟩ := compile_of_meaning meant
  obtain ⟨o, b', meant', follows⟩ := follows_of_compile compiled
  cases meant.symm.trans meant'
  obtain ⟨t, set, follows⟩ := exists_set compiled follows d
  exact ⟨t, set, (follows.ask follows.agree.matched).1, (follows.ask follows.agree.score).1⟩

/-- A document scores what the query means there. -/
lemma scores_iff {b : Answers R Reading} {doc d : Nat} {score : R}
    (meant : q.meaning segment e.env.defaultField = .ok b)
    (located : e.collection.locate doc = .ok (segment, d)) :
    e.Scores q doc score ↔ b.score d = .ok score := by
  obtain ⟨t, set, _, told⟩ := exists_set_of_meaning meant d
  rw [Scores, treeAt_eq located, set]
  constructor
  · rintro ⟨_, ⟨rfl⟩, score⟩
    exact told.symm.trans score
  · exact fun score => ⟨t, rfl, told.trans score⟩

/-- A search for a prepared query succeeds if it does in every segment. -/
lemma exists_best_iff {k : Nat} : (∃ r, e.best p k = .ok r) ↔
    ∀ s ∈ e.collection.segments, ∃ top, e.searchSegment p k s = .ok top := by
  constructor
  · rintro ⟨r, best⟩ s held
    obtain ⟨tops, all, _⟩ := bind_eq_ok best
    obtain ⟨top, _, searched⟩ := (mapM_eq_ok all).2.1 s held
    exact ⟨top, searched⟩
  · intro each
    obtain ⟨tops, all⟩ := exists_mapM_eq_ok each
    rw [best, all]
    exact ⟨_, rfl⟩

/-- Documents are collected if the score of each of them can be read and is finite. -/
lemma exists_foldlM_collectRead {b : Answers R Reading} {scoring : Query R} {base : Nat}
    {ds : List Nat} {top : TopHits R} :
    (∃ top', ds.foldlM (collectRead b scoring base) top = .ok top') ↔
      ∀ d ∈ ds, ∃ score, b.score d = .ok score ∧ Scalar.isFinite score = true := by
  induction ds generalizing top with
  | nil => exact ⟨fun _ => List.forall_mem_nil _, fun _ => ⟨top, rfl⟩⟩
  | cons d ds ih =>
    rw [List.foldlM_cons, List.forall_mem_cons]
    constructor
    · rintro ⟨top', read⟩
      obtain ⟨next, first, read⟩ := bind_eq_ok read
      obtain ⟨score, told, finite, _⟩ := collectRead_eq_ok.mp first
      exact ⟨⟨score, told, finite⟩, ih.mp ⟨top', read⟩⟩
    · rintro ⟨⟨score, told, finite⟩, rest⟩
      rw [collectRead_eq_ok.mpr ⟨score, told, finite, rfl⟩]
      exact ih.mpr rest

/-! ## All segments -/

/-- The prepared query selects the documents of a list: in every segment its candidates are those
that the segment holds, and a fresh tree matches them and no others. -/
structure Selects (e : Searcher R) (p : Prepared R) (listed : List Nat) : Prop where
  visited : ∀ s ∈ e.collection.segments, ∃ walk, Walk.ofQuery s p.candidates = .ok walk ∧
    ∀ d, d ∈ walk.visits 0 ↔ d < s.size ∧ s.base + d ∈ listed
  judged : ∀ doc < e.collection.size, ∃ t, e.treeAt p.scoring doc = .ok t ∧
    t.matched.1 = .ok (listed.contains doc)

section Segments

variable {limit : Option Nat} {docs : List Document}
  (collected : e.collection = .ofDocuments limit docs) (numbered : docs.length ≤ noMoreDocs)
  (headed : Headed w required p.scoring) (candidates : p.candidates = p.scoring.candidates)
  (numbers : w.ids.isSome)
  (compiles : ∀ s ∈ e.collection.segments, ∃ t, e.compile s p.scoring = .ok t)

include collected numbered headed candidates numbers compiles

/-- Every segment has its documents of the whitelist, at which its scan starts. -/
lemma exists_starts_everywhere : ∃ here : Segment → List Nat,
    ∀ s ∈ (Collection.ofDocuments limit docs).segments,
      Session.idsWithin s w = .ok (here s) ∧ ∃ o b scan, e.Starts p s (here s).contains o b scan ∧
        p.scoring.meaning s e.env.defaultField = .ok b := by
  choose here within using fun s => (exists_idsWithin_iff s w).mpr numbers
  refine ⟨here, fun s held => ⟨within s, ?_⟩⟩
  obtain ⟨t, compiled⟩ := compiles s (collected ▸ held)
  have indexed := Collection.indexed_of_mem numbered held
  exact exists_starts_of_headed indexed headed candidates (within s) compiled

lemma selects_of_headed : e.Selects p (w.listed docs) where
  visited s held := by
    rw [collected] at held
    obtain ⟨ids, within⟩ := (exists_idsWithin_iff s w).mpr numbers
    have indexed := Collection.indexed_of_mem numbered held
    obtain ⟨⟨walk, walked⟩, finds⟩ := headed.finds_candidates indexed within
    have sound := (Walk.Fits.ofQuery indexed _ walked).sound
    refine ⟨walk, candidates ▸ walked, fun d => ?_⟩
    rw [sound.mem_visits, ← finds_iff walked, finds, Whitelist.mem_idsWithin held within]
    exact and_iff_right (Nat.zero_le d)
  judged doc lt := by
    rw [collected, Collection.size_ofDocuments] at lt
    obtain ⟨s, held, le, lt⟩ := Collection.exists_segment limit lt
    obtain ⟨here, each⟩ :=
      exists_starts_everywhere collected numbered headed candidates numbers compiles
    obtain ⟨within, _, b, _, _, meant⟩ := each s held
    obtain ⟨t, set, told, _⟩ := exists_set_of_meaning meant (doc - s.base)
    have located := Collection.locate_of_mem held le lt
    rw [← collected] at located
    have matched := told.trans (headed.matched meant within _)
    refine ⟨t, (treeAt_eq located).trans set, matched.trans (congrArg _ ?_)⟩
    rw [Bool.eq_iff_iff, List.contains_iff_mem, List.contains_iff_mem,
      Whitelist.mem_idsWithin held within, Nat.add_sub_cancel' le]
    exact and_iff_right (by omega)

/-- All listed documents are counted, whatever their scores. -/
lemma count_of_headed (prepared : e.prepareFor .docs q = .ok p) :
    e.count q = .ok (w.listed docs).length := by
  obtain ⟨here, each⟩ :=
    exists_starts_everywhere collected numbered headed candidates numbers compiles
  have counted : ∀ s ∈ e.collection.segments,
      e.foldSegment p.scoring p.candidates (fun n _ tree => .ok (n + 1, tree)) 0 s =
        .ok (here s).length := by
    intro s held
    rw [collected] at held
    obtain ⟨within, _, _, _, starts, _⟩ := each s held
    obtain ⟨rising, inside⟩ := idsWithin_rising within
    rw [starts.counted (Collection.indexed_of_mem numbered held),
      hitsFrom_contains rising inside]
  rw [count_eq_sum prepared counted, collected,
    ← Whitelist.flatten_idsWithin fun s held => (each s held).1, List.length_flatten,
    List.map_map]
  simp only [Function.comp_def, List.length_map]

/-- A search succeeds if all listed documents have scores that are finite. -/
lemma exists_best_of_headed {k : Nat} : (∃ r, e.best p k = .ok r) ↔
    ∀ doc ∈ w.listed docs,
      ∃ score, e.Scores p.scoring doc score ∧ Scalar.isFinite score = true := by
  obtain ⟨here, each⟩ :=
    exists_starts_everywhere collected numbered headed candidates numbers compiles
  have scored : ∀ s ∈ (Collection.ofDocuments limit docs).segments,
      (∃ top, e.searchSegment p k s = .ok top) ↔ ∀ d ∈ here s, ∃ score,
        e.Scores p.scoring (s.base + d) score ∧ Scalar.isFinite score = true := by
    intro s held
    obtain ⟨within, o, b, _, starts, meant⟩ := each s held
    obtain ⟨rising, inside⟩ := idsWithin_rising within
    rw [starts.searched (Collection.indexed_of_mem numbered held), hitsFrom_contains rising inside,
      exists_foldlM_collectRead]
    refine forall₂_congr fun d mem => exists_congr fun score => and_congr_left fun _ => ?_
    have located := Collection.locate_of_mem held (Nat.le_add_right s.base d)
      (Nat.add_lt_add_left (inside d mem) s.base)
    rw [← collected, Nat.add_sub_cancel_left] at located
    exact (scores_iff meant located).symm
  rw [exists_best_iff, collected, forall₂_congr scored]
  rw [← Whitelist.flatten_idsWithin fun s held => (each s held).1]
  simp only [← List.flatMap_def, List.forall_mem_flatMap, List.forall_mem_map]

/-- A search that succeeds has found the listed documents and no others. -/
lemma retrieves_of_headed [Std.TransCmp (Scalar.order : R → R → Ordering)] {k : Nat}
    {r : Results R} (best : e.best p k = .ok r) : r.Retrieves k (w.listed docs) := by
  obtain ⟨here, each⟩ :=
    exists_starts_everywhere collected numbered headed candidates numbers compiles
  have listed : ∀ s ∈ e.collection.segments, ∃ hits, e.Lists p s hits ∧
      hits.map Hit.doc = (here s).map (s.base + ·) := by
    intro s held
    obtain ⟨top, searched⟩ := exists_best_iff.mp ⟨r, best⟩ s held
    rw [collected] at held
    obtain ⟨within, o, b, _, starts, _⟩ := each s held
    obtain ⟨rising, inside⟩ := idsWithin_rising within
    obtain ⟨hits, lists, docs⟩ := starts.lists (Collection.indexed_of_mem numbered held) searched
    rw [hitsFrom_contains rising inside] at docs
    exact ⟨hits, lists, docs⟩
  choose! found lists docs_eq using listed
  have all : (e.collection.segments.map found).flatten.map Hit.doc = w.listed docs := by
    rw [List.map_flatten, List.map_map, ← Whitelist.flatten_idsWithin fun s held => (each s held).1,
      ← collected]
    exact congrArg List.flatten (List.map_congr_left docs_eq)
  cases best.symm.trans (best_of_lists collected lists k)
  have perm := Hit.ranking_perm (e.collection.segments.map found).flatten
  refine ⟨?_, _, all ▸ perm.map Hit.doc, ?_⟩
  · rw [← all, List.length_map]
  · rw [List.map_map, List.map_take]
    rfl

end Segments

/-! ## Whitelists -/

variable {limit : Option Nat} {docs : List Document}

/-- A bound whitelist compiles in every segment. -/
lemma compile_whitelist (numbers : w.ids.isSome) (s : Segment) :
    ∃ t, e.compile s (.leaf (.whitelist w)) = .ok t := by
  obtain ⟨ids, within⟩ := (exists_idsWithin_iff s w).mpr numbers
  exact compile_of_meaning (meaning_whitelist (σ := ⟨s, e.env.defaultField, [], .never⟩) within)

/-- A prepared query that is searched for compiles in every segment. -/
lemma compiles_of_best {k : Nat} {r : Results R} (best : e.best p k = .ok r) :
    ∀ s ∈ e.collection.segments, ∃ t, e.compile s p.scoring = .ok t := by
  intro s held
  obtain ⟨top, searched⟩ := exists_best_iff.mp ⟨r, best⟩ s held
  obtain ⟨scan, scanned, _⟩ := bind_eq_ok searched
  obtain ⟨t, compiled, _⟩ := bind_eq_ok scanned
  exact ⟨t, compiled⟩

/-- A listed document scores what the value of which the whitelist is required scores alone. -/
lemma scores_required {limit : Option Nat} {docs : List Document}
    (collected : e.collection = .ofDocuments limit docs) (numbers : w.ids.isSome) {v : Query R}
    (compiles : ∀ s ∈ e.collection.segments,
      ∃ t, e.compile s (.require (.leaf (.whitelist w)) v) = .ok t)
    {doc : Nat} (mem : doc ∈ w.listed docs) (score : R) :
    e.Scores (.require (.leaf (.whitelist w)) v) doc score ↔ e.Scores v doc score := by
  obtain ⟨_, here, _⟩ := Whitelist.mem_listed.mp mem
  obtain ⟨s, held, le, lt⟩ := Collection.exists_segment limit (List.getElem?_eq_some_iff.mp here).1
  obtain ⟨ids, within⟩ := (exists_idsWithin_iff s w).mpr numbers
  have located := Collection.locate_of_mem held le lt
  rw [← collected] at held located
  obtain ⟨t, compiled⟩ := compiles s held
  obtain ⟨_, b, meant, _⟩ := follows_of_compile compiled
  obtain ⟨b', meant', same⟩ := score_required meant within
  rw [scores_iff meant located, scores_iff meant' located, same]
  rw [Whitelist.mem_idsWithin (collected ▸ held) within, Nat.add_sub_cancel' le]
  exact ⟨by omega, mem⟩

/-- A whitelist of names or numbers selects the documents that it lists, wherever the collection is
cut: alone, and where it is required of any value. What the value scores matters neither for what is
counted nor for what is found; it only makes a search fail where the score of a listed document
cannot be read or is not finite. The documents have distinct names, and are numbered below the end
that `noMoreDocs` marks. -/
theorem whitelist_selects [Std.TransCmp (Scalar.order : R → R → Ordering)] {env : Environment R}
    (numbered : docs.length ≤ noMoreDocs) (distinct : (docs.map Document.name).Nodup)
    (given : w.ids.isSome ∨ w.names.isSome) :
    let e : Searcher R := ⟨.ofDocuments limit docs, env⟩
    (∀ need, need ≠ .positions → ∃ p, e.prepareFor need (.leaf (.whitelist w)) = .ok p ∧
      e.Selects p (w.listed docs)) ∧
    ∀ v : Query R, let q : Query R := .require (.leaf (.whitelist w)) v
      (∀ need p, e.prepareFor need q = .ok p →
        (∀ s ∈ e.collection.segments, ∃ t, e.compile s p.scoring = .ok t) →
          e.Selects p (w.listed docs) ∧
          (need = .docs → e.count q = .ok (w.listed docs).length) ∧
          (need = .scores → ∃ c v', p.scoring = .require c v' ∧ ∀ k,
            (∃ r, e.search q k = .ok r) ↔ ∀ doc ∈ w.listed docs,
              ∃ score, e.Scores v' doc score ∧ Scalar.isFinite score = true)) ∧
      ∀ k r, e.search q k = .ok r → r.Retrieves k (w.listed docs) := by
  intro e
  obtain ⟨w', filled⟩ := Whitelist.exists_fillWhitelist (c := e.collection) given
  obtain ⟨numbers, same⟩ := Whitelist.listed_of_fillWhitelist distinct filled
  rw [← same]
  constructor
  · intro need other
    refine ⟨_, prepareFor_whitelist filled other, ?_⟩
    exact selects_of_headed rfl numbered .alone rfl numbers fun s _ => compile_whitelist numbers s
  intro v q
  have headed {need : Need} {p : Prepared R} (prepared : e.prepareFor need q = .ok p) :=
    headed_of_prepareFor filled (.required v) prepared
  constructor
  · intro need p prepared compiles
    obtain ⟨head, candidates⟩ := headed prepared
    refine ⟨selects_of_headed rfl numbered head candidates numbers compiles, ?_, ?_⟩
    · rintro rfl
      exact count_of_headed rfl numbered head candidates numbers compiles prepared
    · rintro rfl
      have best (k : Nat) : (∃ r, e.best p k = .ok r) ↔ _ :=
        exists_best_of_headed rfl numbered head candidates numbers compiles
      obtain ⟨scoring, _⟩ := p
      cases head with
      | required v' =>
        refine ⟨_, v', rfl, fun k => ?_⟩
        rw [search_eq_best prepared, best]
        refine forall₂_congr fun doc mem => exists_congr fun score => and_congr_left fun _ => ?_
        exact scores_required rfl numbers compiles mem score
  · intro k r searched
    obtain ⟨p, prepared, best⟩ := bind_eq_ok searched
    obtain ⟨head, candidates⟩ := headed prepared
    exact retrieves_of_headed rfl numbered head candidates numbers (compiles_of_best best) best

/-- Names out of order, one of them twice and one unknown, in two segments. The term whose count is
the score is only in one of the two documents that are found. -/
theorem whitelist_selects_named :
    let docs : List Document := [⟨"d0", [("body", "a b")]⟩, ⟨"d1", [("body", "b")]⟩,
      ⟨"d2", [("body", "a")]⟩]
    let e : Searcher Float := ⟨.ofDocuments (some 2) docs, .usual⟩
    let w : Whitelist := { names := some ["d2", "unknown", "d0", "d2"] }
    let q : Query Float := .require (.leaf (.whitelist w)) (.modify .countToScore (.term "b"))
    docs.length ≤ noMoreDocs ∧ (docs.map Document.name).Nodup ∧ w.listed docs = [0, 2] ∧
      ∃ p, e.prepareFor .scores q = .ok p ∧ e.Selects p [0, 2] ∧
        ∃ r, e.search q 5 = .ok r ∧ r.Retrieves 5 [0, 2] := by
  intro docs e w q
  have numbered : docs.length ≤ noMoreDocs := by decide
  have distinct : (docs.map Document.name).Nodup := by decide
  have listed : w.listed docs = [0, 2] := by decide
  let first : Segment :=
    ⟨0, 2, [("body", ⟨#[2, 1], [("b", [⟨0, [1]⟩, ⟨1, [0]⟩]), ("a", [⟨0, [0]⟩])]⟩)]⟩
  let second : Segment := ⟨2, 1, [("body", ⟨#[1], [("a", [⟨0, [0]⟩])]⟩)]⟩
  have indexed : Collection.ofDocuments (some 2) docs = ⟨[first, second], #["d0", "d1", "d2"]⟩ := by
    decide +kernel
  let counted : Query Float := .modify .countToScore (.leaf (.term {
    text := "b", field := some "body", stats := some ⟨"body:b", 2, 2, 4, 3⟩, needed := .counts }))
  let resolved : Query Float := .leaf (.whitelist { w with ids := some [2, 0, 2] })
  have prepared : e.prepareFor .scores q =
      .ok ⟨.require resolved counted, .require resolved .always⟩ := by
    unfold e
    rw [indexed]
    rfl
  have compiles : ∀ s ∈ e.collection.segments,
      ∃ t, e.compile s (.require resolved counted) = .ok t := by
    show ∀ s ∈ (Collection.ofDocuments (some 2) docs).segments, _
    rw [indexed]
    exact List.forall_mem_cons.mpr ⟨exists_of_isOk (by decide +kernel),
      List.forall_mem_singleton.mpr (exists_of_isOk (by decide +kernel))⟩
  obtain ⟨_, required⟩ :=
    @whitelist_selects Float _ w (some 2) docs _ .usual numbered distinct (.inr rfl)
  obtain ⟨each, found⟩ := required (.modify .countToScore (.term "b"))
  obtain ⟨selects, _, searches⟩ := each .scores _ prepared compiles
  obtain ⟨_, _, ⟨⟩, succeeds⟩ := searches rfl
  rw [listed] at selects succeeds
  have finite : ∀ doc, (do return Scalar.isFinite (← (← e.treeAt counted doc).score.1)) = .ok true →
      ∃ score, e.Scores counted doc score ∧ Scalar.isFinite score = true := by
    intro doc read
    obtain ⟨t, set, read⟩ := bind_eq_ok read
    obtain ⟨score, told, read⟩ := bind_eq_ok read
    exact ⟨score, ⟨t, set, told⟩, Except.ok.inj read⟩
  obtain ⟨r, searched⟩ := (succeeds 5).mpr <| List.forall_mem_cons.mpr
    ⟨finite 0 (by decide +kernel), List.forall_mem_singleton.mpr (finite 2 (by decide +kernel))⟩
  have retrieved := found 5 r searched
  rw [listed] at retrieved
  exact ⟨numbered, distinct, listed, _, prepared, selects, r, searched, retrieved⟩

end Searcher

end Retrieval
