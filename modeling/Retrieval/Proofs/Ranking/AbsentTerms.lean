import Retrieval.Proofs.Evaluation.Scorers
import Retrieval.Proofs.Query.Ranked
import Retrieval.Proofs.Ranking.Faults
import Retrieval.Proofs.Ranking.Finite
import Retrieval.Proofs.Ranking.Measuring
import Mathlib.Algebra.Field.Rat
import Mathlib.Algebra.Order.Ring.Rat

/-!
# Terms that a document lacks

A ranked query of terms whose scorers leave everything to a valid environment and to the collection
is scored in exact arithmetic with the parameters and statistics that keep most formulas away from
zero. If a search for it fails on a score, it is that of a document without one of the terms, whose
scorer gives no mass to such a term there (`Searcher.search_ranked`).
-/

namespace Retrieval

open Partial

variable {K : Type} [DivisionRing K] [LinearOrder K] [ToString K] {log : K → K}

/-! ## Scores of ranked queries -/

/-- The score of a ranked query is a number if those of its scorers are. -/
theorem Query.Ranked.isFinite_score {q : Query (Partial K log none)}
    {S : Model (Partial K log none) → Option Statistics → Term → Prop} {rate : Rating _}
    {spot : Spot} (h : q.Ranked (Scalar.isFinite · = true) S) (each : ∀ m stats t, S m stats t →
      Scalar.isFinite (score rate spot (.modify (.scorer m stats) (.leaf (.term t)))) = true) :
    Scalar.isFinite (q.score rate spot) = true := by
  induction h with
  | scorer holds => exact each _ _ _ holds
  | weight finite _ ih => exact isFinite_mul finite ih
  | combine weights _ ih =>
    rw [score, Operator.score, scoreAll_eq_map]
    refine List.foldlRecOn (motive := (Scalar.isFinite · = true)) _ _ rfl fun sum finite p mem => ?_
    obtain ⟨inner, weight⟩ := List.of_mem_zip mem
    obtain ⟨c, within, same⟩ := List.mem_map.mp inner
    exact isFinite_add finite (isFinite_mul (weights p.2 weight) (same ▸ ih c within))
  | @max cs some_ _ ih =>
    rw [score, Operator.score, scoreAll_eq_map]
    cases cs with
    | nil => exact absurd rfl some_
    | cons c cs =>
      obtain ⟨first, rest⟩ := List.forall_mem_cons.mp ih
      rw [List.map_cons, List.foldl_cons]
      -- the first of the scores takes the place of the bottom
      refine List.foldlRecOn (motive := (Scalar.isFinite · = true)) _ _ (isFinite_larger _ first) ?_
      intro best _ x mem
      obtain ⟨c, within, same⟩ := List.mem_map.mp mem
      exact isFinite_larger best (same ▸ rest c within)
  | mult _ ih =>
    rw [score, Operator.score, scoreAll_eq_map]
    refine List.foldlRecOn (motive := (Scalar.isFinite · = true)) _ _ rfl fun _ finite x mem => ?_
    obtain ⟨c, within, same⟩ := List.mem_map.mp mem
    exact isFinite_mul finite (same ▸ ih c within)

/-! ## Preparation -/

section Preparation

variable {R : Type} {docs : List Document} {limit : Option Nat} {env : Environment R}

/-- The scorer and its term set nothing themselves, and the field that the term draws its statistics
from has a token somewhere. -/
structure LeftOpen (env : Environment R) (docs : List Document) (m : Model R)
    (stats : Option Statistics) (t : Term) : Prop where
  parameters : m.IsOpen
  statistics : stats = none ∧ t.stats = none
  tokens : ∃ field, (env.fillTerm t).statisticsField = .ok field ∧ ∃ d ∈ docs, d.stream field ≠ []

/-- What the scorer of a model over a term is equipped with in a prepared query. -/
structure Equipped (env : Environment R) (m : Model R) (t : Term) (m' : Model R)
    (stats' : Option Statistics) (t' : Term) : Prop where
  parameters : m.IsOpen ∧ m' = env.fillModel m
  text : t'.text = t.text
  field : t'.field = some (t.field.getD env.defaultField)
  statistics : ∃ s : Statistics, stats' = some s ∧ 0 < s.cl ∧ 0 < s.dc

/-- The statistics of a term in a field that has a token tell of that. -/
lemma Statistics.ofTerm_pos {term field : String} (some_ : ∃ d ∈ docs, d.stream field ≠ []) :
    0 < (ofTerm term field docs).cl ∧ 0 < (ofTerm term field docs).dc := by
  obtain ⟨d, mem, some_⟩ := some_
  have length := List.length_pos_iff.mpr some_
  constructor
  · exact List.sum_pos_iff_exists_pos_nat.mpr ⟨_, List.mem_map_of_mem mem, length⟩
  · exact List.countP_pos_iff.mpr ⟨d, mem, decide_eq_true length⟩

/-- A term whose field of statistics has a token is given statistics that tell of that. -/
lemma Collection.attachTerm_pos {t t' : Term} {field : String} (unknown : t.stats = none)
    (named : t.statisticsField = .ok field) (some_ : ∃ d ∈ docs, d.stream field ≠ [])
    (attached : (ofDocuments limit docs).attachTerm t = .ok t') :
    ∃ s : Statistics, t' = { t with stats := some s } ∧ 0 < s.cl ∧ 0 < s.dc := by
  rw [attachTerm, unknown] at attached
  obtain ⟨field', named', attached⟩ := bind_eq_ok attached
  cases named.symm.trans named'
  obtain ⟨_, _, attached⟩ := bind_eq_ok attached
  cases attached
  refine ⟨_, rfl, ?_⟩
  rw [termStatistics_ofDocuments]
  exact Statistics.ofTerm_pos some_

variable [Scalar R] {W : R → Prop} {q : Query R} {p : Prepared R}

/-- What a ranked query is prepared to is ranked, and its scorers are equipped with what they leave
open. -/
theorem Searcher.scoring_ranked (add : ∀ {u w}, W u → W w → W (u + w))
    (mul : ∀ {u w}, W u → W w → W (u * w)) (ranked : q.Ranked W (LeftOpen env docs))
    (prepared : prepare ⟨.ofDocuments limit docs, env⟩ q = .ok p) :
    p.scoring.Ranked W fun m' stats' t' => ∃ m t,
      .modify (.scorer m none) (.leaf (.term t)) ∈ q.nodes ∧ Equipped env m t m' stats' t' := by
  obtain ⟨bound, known, simple, typed, filled, attached, simplified, inferred, measured, _⟩ :=
    prepareFor_steps prepared
  have bound_ : bound.Ranked W fun m' stats' t' => stats' = none ∧ ∃ m t,
      .modify (.scorer m none) (.leaf (.term t)) ∈ q.nodes ∧ LeftOpen env docs m none t ∧
        m' = env.fillModel m ∧ t' = env.fillTerm t := by
    refine (ranked.among (List.Subset.refl _)).rebuild ?_ ?_ filled
    · rintro m stats t _ _ ⟨open_, mem⟩ ⟨⟩ ⟨⟩
      obtain rfl := open_.statistics.1
      exact ⟨_, _, _, rfl, rfl, rfl, m, t, mem, open_, rfl, rfl⟩
    · rintro w c _ ⟨⟩
      rfl
  have known_ : known.Ranked W fun m' stats' t' => ∃ m t,
      .modify (.scorer m none) (.leaf (.term t)) ∈ q.nodes ∧ Equipped env m t m' stats' t' := by
    refine bound_.rebuild ?_ ?_ attached
    · rintro _ _ _ _ _ ⟨rfl, m, t, mem, open_, rfl, rfl⟩ given ⟨⟩
      obtain ⟨t', equipped, h⟩ := bind_eq_ok given
      cases h
      obtain ⟨field, named, some_⟩ := open_.tokens
      have unknown : (env.fillTerm t).stats = none := open_.statistics.2
      obtain ⟨s, rfl, tokens, documents⟩ := Collection.attachTerm_pos unknown named some_ equipped
      have equipped : Equipped env m t (env.fillModel m) (some s)
          { env.fillTerm t with stats := some s } :=
        ⟨⟨open_.parameters, rfl⟩, rfl, rfl, s, rfl, tokens, documents⟩
      exact ⟨_, _, _, rfl, rfl, m, t, mem, equipped⟩
    · rintro w c _ ⟨⟩
      rfl
  have simple_ := known_.simplify add mul simplified
  have typed_ := simple_.of_unmarked (by
    rintro m' stats' t' t'' same ⟨m, t, mem, equipped⟩
    refine ⟨m, t, mem, equipped.parameters, ?_, ?_, equipped.statistics⟩
    · exact (congrArg Term.text same).trans equipped.text
    · exact (congrArg Term.field same).trans equipped.field) (Query.infer_unmarked inferred)
  refine typed_.rebuild ?_ ?_ measured
  · rintro _ _ t' _ _ ⟨m, t, mem, equipped⟩ ⟨⟩ counted
    obtain ⟨s, rfl, _⟩ := equipped.statistics
    cases counted
    exact ⟨_, _, t', rfl, rfl, m, t, mem, equipped⟩
  · rintro w c _ ⟨⟩
    rfl

end Preparation

/-! ## Searches -/

section Searches

variable [IsStrictOrderedRing K] {docs : List Document} {limit : Option Nat}
  {env : Environment (Partial K log none)}

/-- A scorer in a prepared query has a number for a score, unless the document lacks the term and
gets no mass for it. -/
lemma Equipped.isFinite_score {m m' : Model (Partial K log none)} {t t' : Term}
    {stats' : Option Statistics} (valid : env.validate = .ok ())
    (equipped : Equipped env m t m' stats' t') {spot : Spot} {number : Nat} {d : Document}
    (shows : spot.Shows number d) :
    let field := t.field.getD env.defaultField
    Scalar.isFinite
        (Query.score spot.rate spot (.modify (.scorer m' stats') (.leaf (.term t')))) = true ↔
      ¬ (d.positions field t.text = [] ∧ env.Unsmoothed m (d.stream field).length) := by
  intro field
  obtain ⟨⟨isOpen, rfl⟩, text, named, s, rfl, tokens, documents⟩ := equipped
  have counted : t'.countedField = .ok field := Query.countedField_eq_ok.mpr named
  have normed : Session.scorerField spot.defaultField
      (.leaf (.term t') : Query (Partial K log none)) = .ok field := by
    refine Query.scorerField_eq_ok.mpr (.inr ⟨fun _ _ => nofun, ?_, nofun⟩)
    exact List.forall_mem_singleton.mpr named
  have occurs : (.leaf (.term t') : Query (Partial K log none)).facts spot =
      .occurring (d.positions field t.text) := by
    rw [Query.facts, Leaf.facts, counted, text]
    exact shows.occurs t.text field
  rw [Query.score, Modifier.score, normed, occurs]
  unfold Spot.rate
  rw [env.scorer_fillModel _ s isOpen]
  dsimp only [Except.toOption]
  rw [shows.lengthOf, Environment.isFinite_score_iff _ _ valid tokens documents]
  exact not_congr (and_congr_left fun _ => List.length_eq_zero_iff)

namespace Searcher

/-- If a ranked query scores a document with something else than a number, the document lacks a term
that gets no mass there. -/
lemma exists_absent {q : Query (Partial K log none)} {p : Prepared (Partial K log none)}
    (valid : env.validate = .ok ())
    (ranked : q.Ranked (Scalar.isFinite · = true) (LeftOpen env docs))
    (prepared : prepare ⟨.ofDocuments limit docs, env⟩ q = .ok p) {spot : Spot} {number : Nat}
    {d : Document} (shows : spot.Shows number d)
    (diverged : Scalar.isFinite (p.scoring.score spot.rate spot) = false) : ∃ m t,
      .modify (.scorer m none) (.leaf (.term t)) ∈ q.nodes ∧
        d.positions (t.field.getD env.defaultField) t.text = [] ∧
        env.Unsmoothed m (d.stream (t.field.getD env.defaultField)).length := by
  by_contra none
  refine Bool.eq_false_iff.mp diverged ?_
  apply (scoring_ranked isFinite_add isFinite_mul ranked prepared).isFinite_score
  rintro m' stats' t' ⟨m, t, mem, equipped⟩
  refine (equipped.isFinite_score valid shows).mpr fun ⟨lacks, unsmoothed⟩ => none ?_
  exact ⟨m, t, mem, lacks, unsmoothed⟩

/-- With the parameters of a valid environment and the statistics of a field that has a token, what
scorers divide by and take logarithms of is positive, but for terms that a document lacks and gets
no mass for. A search for a ranked query whose scorers leave everything open succeeds, or fails on
the score of a document that lacks such a term. Documents are numbered below the end that
`noMoreDocs` marks. -/
theorem search_ranked (numbered : docs.length ≤ noMoreDocs) (valid : env.validate = .ok ()) :
    (∀ (stats : Statistics) (count length : Nat), 0 < stats.cl → 0 < stats.dc →
      (∃ x, 0 < x ∧ (Scorer.rarity stats : Partial K log none) = exact x) ∧
      (∃ x, 0 ≤ x ∧ Scorer.saturation env.bm25B env.bm25K stats count length = exact x ∧
        (x = 0 ↔ count = 0 ∧ env.Unsmoothed (.bm25 none none) length)) ∧
      (∃ x, 0 < x ∧ Scorer.smoothed env.dirichletMu stats count length = exact x) ∧
      ∃ x, 0 ≤ x ∧ Scorer.discounted env.absoluteDiscountingDelta stats count length = exact x ∧
        (x = 0 ↔ count = 0 ∧ env.Unsmoothed (.absoluteDiscounting none) length)) ∧
    let e : Searcher (Partial K log none) := ⟨.ofDocuments limit docs, env⟩
    ∀ q p k, q.Ranked (Scalar.isFinite · = true) (LeftOpen env docs) →
      (∀ t ∈ q.terms, t.needed ≠ .scores) → e.prepare q = .ok p →
      (∃ r, e.search q k = .ok r) ∨ ∃ doc d, docs[doc]? = some d ∧
        e.search q k =
          .error (.diverged (Scalar.text (diverged : Partial K log none)) p.scoring.display doc) ∧
        ∃ m t, .modify (.scorer m none) (.leaf (.term t)) ∈ q.nodes ∧
          d.positions (t.field.getD env.defaultField) t.text = [] ∧
          env.Unsmoothed m (d.stream (t.field.getD env.defaultField)).length := by
  refine ⟨fun _ count length => Environment.guarded count length valid, ?_⟩
  intro e q p k ranked low prepared
  obtain ⟨typed, ready⟩ := scoring_ready ranked.runnable low prepared
  have made := candidates_made prepared
  rw [search_eq_best prepared]
  obtain searched | ⟨doc, _, score, scores, diverged, failed⟩ | ⟨text, written, _⟩ :=
    best_outcome numbered typed ready made k
  · exact .inl searched
  · obtain ⟨lt, rfl⟩ := scores.score_eq numbered typed made
    have shows := shows_whole env.defaultField numbered lt
    have absent := exists_absent valid ranked prepared shows diverged
    refine .inr ⟨doc, docs[doc], List.getElem?_eq_getElem lt, ?_, absent⟩
    generalize p.scoring.score _ _ = score at failed diverged
    cases score with
    | exact => cases diverged
    | diverged => exact failed
  · exact absurd written (ranked.noRaw text)

end Searcher

end Searches

namespace Searcher

/-- A sum of two models over two terms, each of which is in one of two documents. -/
theorem search_ranked_sum :
    let log (x : ℚ) : ℚ := x - 1
    let docs : List Document := [⟨"d0", [("body", "a")]⟩, ⟨"d1", [("body", "b b")]⟩]
    let env : Environment (Partial ℚ log none) := {
      defaultField := "body", defaultStatsField := none, dirichletMu := exact 1500
      bm25B := exact (3 / 4), bm25K := exact (6 / 5), absoluteDiscountingDelta := exact (7 / 10)
      simplifyCandidates := true, shareCursors := true, maxPasses := 1000 }
    let e : Searcher (Partial ℚ log none) := ⟨.ofDocuments (some 1) docs, env⟩
    let q : Query (Partial ℚ log none) := .join (.combine [exact 1, exact 2])
      [.modify (.scorer (.bm25 none none) none) (.term "a"),
        .modify (.scorer (.absoluteDiscounting none) none) (.term "b")]
    env.validate = .ok () ∧ ∃ r, e.search q 10 = .ok r := by
  intro log docs env e q
  have valid : env.validate = .ok () := by decide +kernel
  have prepares : (e.prepare q).isOk = true := by decide +kernel
  have low : ∀ t ∈ q.terms, t.needed ≠ .scores := by decide +kernel
  have ranked : q.Ranked (Scalar.isFinite · = true) (LeftOpen env docs) := by
    have tokens {t : Term} (named : (env.fillTerm t).statisticsField = .ok "body") :
        ∃ field, (env.fillTerm t).statisticsField = .ok field ∧ ∃ d ∈ docs, d.stream field ≠ [] :=
      ⟨"body", named, docs[0], List.mem_cons_self, by decide +kernel⟩
    refine .combine (by decide) fun c mem => ?_
    simp only [List.mem_cons, List.not_mem_nil, or_false] at mem
    obtain rfl | rfl := mem
    · exact .scorer ⟨⟨rfl, rfl⟩, ⟨rfl, rfl⟩, tokens rfl⟩
    · exact .scorer ⟨rfl, ⟨rfl, rfl⟩, tokens rfl⟩
  have smoothed (m : Model (Partial ℚ log none)) (length : Nat) : ¬ env.Unsmoothed m length := by
    intro unsmoothed
    cases unsmoothed with
    | bm25K zero => exact absurd zero (by decide +kernel)
    | bm25B one => exact absurd one (by decide +kernel)
    | absoluteDiscounting zero => exact absurd zero (by decide +kernel)
  obtain ⟨p, prepared⟩ := exists_of_isOk prepares
  have numbered : docs.length ≤ noMoreDocs := by decide
  obtain searched | ⟨_, _, _, _, _, _, _, _, unsmoothed⟩ :=
    (search_ranked numbered valid).2 q p 10 ranked low prepared
  · exact ⟨valid, searched⟩
  · exact absurd unsmoothed (smoothed _ _)

/-- Without saturation, which a valid environment may ask for, nothing is left of the denominator
for a document that lacks a term, and the sum of two terms finds none of the documents that have one
of them. -/
theorem search_ranked_diverges :
    let log (x : ℚ) : ℚ := x - 1
    let docs : List Document := [⟨"d0", [("body", "a")]⟩, ⟨"d1", [("body", "b")]⟩]
    let env : Environment (Partial ℚ log none) := {
      defaultField := "body", defaultStatsField := none, dirichletMu := exact 1500
      bm25B := exact (3 / 4), bm25K := exact 0, absoluteDiscountingDelta := exact (7 / 10)
      simplifyCandidates := true, shareCursors := true, maxPasses := 1000 }
    let e : Searcher (Partial ℚ log none) := ⟨.ofDocuments none docs, env⟩
    let scored (text : String) : Query (Partial ℚ log none) :=
      .modify (.scorer (.bm25 none none) none) (.term text)
    let q := .join (.combine [exact 1, exact 1]) [scored "a", scored "b"]
    env.validate = .ok () ∧
      Scorer.saturation env.bm25B env.bm25K (e.collection.termStatistics "a" "body") 0 1 = exact 0 ∧
      ∀ r, e.search q 10 ≠ .ok r := by
  intro log docs env e scored q
  let spot : Spot := ⟨.ofDocuments 0 docs, "body", 0⟩
  have judged : (e.prepare q).map (fun p => ((p.scoring.facts spot).matched,
      Scalar.isFinite (p.scoring.score spot.rate spot), (e.treeAt p.scoring 0).isOk,
      p.scoring.nodes.map Query.kind)) =
        .ok (true, false, true, ["combine", "bm25", "text", "bm25", "text"]) := by
    decide +kernel
  have noRaw : q.NoRaw := by simp [q, scored, Query.NoRaw, Query.term, Query.nodes, Query.nodesAll]
  exact ⟨by decide +kernel, by decide +kernel, search_ne_ok (by decide) noRaw (by decide) judged 10⟩

end Searcher

end Retrieval
