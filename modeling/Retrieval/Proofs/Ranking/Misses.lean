import Retrieval.Proofs.Ranking.Finite
import Retrieval.Proofs.Scalar.Partial
import Mathlib.Algebra.Field.Rat
import Mathlib.Algebra.Order.Ring.Abs
import Mathlib.Algebra.Order.Ring.Rat
import Mathlib.Tactic.Abel

/-!
# Conditions that are not met

A child of a weighted sum that is required of a condition scores the least number that can be
represented where the condition is not met. So a partial sum is as far from zero as the weights of
such children add up to, give or take what the others score (`Query.exactSum_near`). The sum can be
represented if all partial sums can, and searches succeed or fail accordingly
(`Searcher.search_misses`): several conditions may not fail at once where their weights add up to
more than one.
-/

namespace Retrieval

open Partial

variable {K : Type} [DivisionRing K] [LinearOrder K] [ToString K] {log : K → K} {m : K}

namespace Partial

/-- The number, and zero for what has diverged. -/
def number {limit : Option K} : Partial K log limit → K
  | exact x => x
  | diverged => 0

/-- A sum of products that can be represented is a number if all partial sums can be represented. -/
lemma isFinite_foldl (ps : List (K × K)) (init : K) (small : ∀ p ∈ ps, |p.1 * p.2| ≤ m)
    (start : |init| ≤ m) :
    Scalar.isFinite (ps.foldl (fun sum p => sum + exact p.1 * exact p.2)
      (exact init : Partial K log (some m))) = true ↔
        ∀ n, |init + ((ps.take n).map fun p => p.1 * p.2).sum| ≤ m := by
  have diverges (ps : List (K × K)) : ps.foldl (fun sum p => sum + exact p.1 * exact p.2)
      (diverged : Partial K log (some m)) = diverged := by
    induction ps with
    | nil => rfl
    | cons p ps ih => exact ih
  induction ps generalizing init with
  | nil => exact iff_of_true rfl fun n => by simpa using start
  | cons p ps ih =>
    obtain ⟨first, rest⟩ := List.forall_mem_cons.mp small
    have step : (exact init + exact p.1 * exact p.2 : Partial K log (some m)) =
        fit (init + p.1 * p.2) := by
      rw [limited_mul, fit_some, if_pos first, limited_add]
    rw [List.foldl_cons, step, fit_some]
    -- the sums of at least one product are those that begin with the first
    have shift : (∀ n, |init + (((p :: ps).take n).map fun p => p.1 * p.2).sum| ≤ m) ↔
        ∀ n, |init + p.1 * p.2 + ((ps.take n).map fun p => p.1 * p.2).sum| ≤ m := by
      constructor
      · intro within n
        simpa [add_assoc] using within (n + 1)
      · rintro within (_ | n)
        · simpa using start
        · simpa [add_assoc] using within n
    rw [shift]
    split
    · next fits => exact ih _ rest fits
    · next beyond =>
      rw [diverges]
      exact iff_of_false nofun fun within => beyond (by simpa using within 0)

end Partial

namespace Query

/-! ## Weighted sums with misses -/

/-- The query is required of a condition that the document does not meet. -/
def misses {R : Type} (spot : Spot) : Query R → Bool
  | .require c _ => !(c.facts spot).matched
  | _ => false

variable (spot : Spot) (ps : List (Query (Partial K log (some m)) × K))

/-- The sum of weighted scores in exact arithmetic. -/
def exactSum : K := (ps.map fun p => p.2 * (p.1.score spot.rate spot).number).sum

/-- The sum of the weights of those queries that are required of a condition which is not met. -/
def missedWeight {R : Type} (ps : List (Query R × K)) : K :=
  (ps.map fun p => if p.1.misses spot then p.2 else 0).sum

/-- The number of the other queries. -/
def others {R : Type} (ps : List (Query R × K)) : Nat := ps.countP fun p => !p.1.misses spot

/-- The query has a score of at most this magnitude, unless it is required of a condition that the
document does not meet. -/
def ScoresWithin (bound : K) (c : Query (Partial K log (some m))) : Prop :=
  c.misses spot = false → ∃ x, |x| ≤ bound ∧ c.score spot.rate spot = exact x

variable {spot ps}

lemma score_of_misses {c : Query (Partial K log (some m))} (missed : c.misses spot = true)
    (rate : Rating _) : c.score rate spot = exact (-m) := by
  cases c with
  | require c v =>
    rw [misses, Bool.not_eq_true'] at missed
    rw [score, missed]
    rfl
  | _ => cases missed

variable [IsStrictOrderedRing K] {bound : K}

/-- An exact sum and the limit times the weights of the children that miss cancel, give or take the
scores of the others. -/
theorem exactSum_near (weights : ∀ p ∈ ps, |p.2| ≤ 1)
    (scored : ∀ p ∈ ps, p.1.ScoresWithin spot bound) :
    |exactSum spot ps + missedWeight spot ps * m| ≤ others spot ps * bound := by
  induction ps with
  | nil => simp [exactSum, missedWeight, others]
  | cons p ps ih =>
    obtain ⟨light, lights⟩ := List.forall_mem_cons.mp weights
    obtain ⟨first, rest⟩ := List.forall_mem_cons.mp scored
    have ih := ih lights rest
    have sum : exactSum spot (p :: ps) =
        p.2 * (p.1.score spot.rate spot).number + exactSum spot ps := List.sum_cons
    have weight : missedWeight spot (p :: ps) =
        (if p.1.misses spot then p.2 else 0) + missedWeight spot ps := List.sum_cons
    rw [sum, weight, others, List.countP_cons]
    cases missed : p.1.misses spot with
    | true =>
      -- what the child scores is what its weight stands for
      have cancels : p.2 * (exact (-m) : Partial K log (some m)).number + exactSum spot ps +
          (p.2 + missedWeight spot ps) * m = exactSum spot ps + missedWeight spot ps * m := by
        rw [number, mul_neg, add_mul]
        abel
      rw [score_of_misses missed, if_pos rfl, cancels]
      simpa [others] using ih
    | false =>
      obtain ⟨x, within, scored⟩ := first missed
      have small : |p.2 * x| ≤ bound := by
        rw [abs_mul]
        exact (mul_le_of_le_one_left (abs_nonneg x) light).trans within
      have regrouped : p.2 * (exact x : Partial K log (some m)).number + exactSum spot ps +
          (0 + missedWeight spot ps) * m =
            p.2 * x + (exactSum spot ps + missedWeight spot ps * m) := by
        rw [number, zero_add, add_assoc]
      rw [scored, if_neg nofun, regrouped]
      calc |p.2 * x + (exactSum spot ps + missedWeight spot ps * m)|
          ≤ |p.2 * x| + |exactSum spot ps + missedWeight spot ps * m| := abs_add_le _ _
        _ ≤ bound + others spot ps * bound := add_le_add small ih
        _ = _ := by simp [others, add_mul, add_comm]

/-- A weighted sum is a number if all its partial sums can be represented. -/
theorem isFinite_combine {us : List K} {cs : List (Query (Partial K log (some m)))}
    (nonneg : 0 ≤ bound) (le : bound ≤ m) (weights : ∀ u ∈ us, |u| ≤ 1)
    (scored : ∀ c ∈ cs, c.ScoresWithin spot bound) :
    Scalar.isFinite (score spot.rate spot (.join (.combine (us.map exact)) cs)) = true ↔
      ∀ n, |exactSum spot ((cs.zip us).take n)| ≤ m := by
  have number_of {c : Query (Partial K log (some m))} (mem : c ∈ cs) :
      ∃ x, |x| ≤ m ∧ c.score spot.rate spot = exact x := by
    cases missed : c.misses spot with
    | true => exact ⟨-m, by rw [abs_neg, abs_of_nonneg (nonneg.trans le)], score_of_misses missed _⟩
    | false =>
      obtain ⟨x, within, same⟩ := scored c mem missed
      exact ⟨x, within.trans le, same⟩
  let ps : List (K × K) := (cs.zip us).map fun p => (p.2, (p.1.score spot.rate spot).number)
  have small : ∀ p ∈ ps, |p.1 * p.2| ≤ m := by
    intro p mem
    obtain ⟨⟨c, u⟩, within, rfl⟩ := List.mem_map.mp mem
    obtain ⟨child, weight⟩ := List.of_mem_zip within
    obtain ⟨x, small, same⟩ := number_of child
    rw [same, abs_mul]
    exact (mul_le_of_le_one_left (abs_nonneg x) (weights u weight)).trans small
  have folded : score spot.rate spot (.join (.combine (us.map exact)) cs) =
      ps.foldl (fun sum p => sum + exact p.1 * exact p.2) (exact 0 : Partial K log (some m)) := by
    rw [score, Operator.score, scoreAll_eq_map, zero_eq, List.zip_map, List.foldl_map,
      List.foldl_map]
    refine List.foldl_ext _ _ _ fun sum p mem => ?_
    obtain ⟨x, _, same⟩ := number_of (List.of_mem_zip mem).1
    simp only [Prod.map, same, number]
  rw [folded, isFinite_foldl ps 0 small (by simpa using nonneg.trans le)]
  simp only [zero_add, ps, ← List.map_take, List.map_map]
  rfl

end Query

namespace Searcher

open Query

/-- Sums of children of which some are required of conditions. In exact arithmetic, a partial sum is
as many times the largest number as the weights of the children add up to whose conditions are not
met, give or take the scores of the others. Every search succeeds if all partial sums can be
represented in all documents that match, and none does if one cannot in one of them. Documents are
numbered below the end that `noMoreDocs` marks. -/
theorem search_misses [IsStrictOrderedRing K] {docs : List Document} {limit : Option Nat}
    {env : Environment (Partial K log (some m))} {q : Query (Partial K log (some m))}
    {p : Prepared (Partial K log (some m))} {us : List K}
    {cs : List (Query (Partial K log (some m)))} {bound : K}
    (numbered : docs.length ≤ noMoreDocs) (noRaw : q.NoRaw)
    (low : ∀ t ∈ q.terms, t.needed ≠ .scores) (runnable : q.Runnable env.defaultField .scores)
    (prepared : prepare ⟨.ofDocuments limit docs, env⟩ q = .ok p) (whole : p.scoring.NoEmptyAnd)
    (sum : p.scoring = .join (.combine (us.map exact)) cs) (weights : ∀ u ∈ us, |u| ≤ 1)
    (nonneg : 0 ≤ bound) (le : bound ≤ m) (scored : ∀ doc < docs.length, ∀ c ∈ cs,
      c.ScoresWithin ⟨.ofDocuments 0 docs, env.defaultField, doc⟩ bound) :
    let e : Searcher (Partial K log (some m)) := ⟨.ofDocuments limit docs, env⟩
    let spot (doc : Nat) : Spot := ⟨.ofDocuments 0 docs, env.defaultField, doc⟩
    let first (n : Nat) := (cs.zip us).take n
    (∀ doc < docs.length, ∀ n,
      |exactSum (spot doc) (first n) + missedWeight (spot doc) (first n) * m| ≤
        others (spot doc) (first n) * bound) ∧
    ((∀ doc < docs.length, (p.scoring.facts (spot doc)).matched = true →
        ∀ n, |exactSum (spot doc) (first n)| ≤ m) → ∀ k, ∃ r, e.search q k = .ok r) ∧
    ((∃ doc < docs.length, (p.scoring.facts (spot doc)).matched = true ∧
        ∃ n, m < |exactSum (spot doc) (first n)|) → e.AlwaysDiverges q p.scoring) := by
  intro e spot first
  have finite_iff {doc : Nat} (lt : doc < docs.length) :
      FiniteAt env.defaultField docs p.scoring doc ↔ ((p.scoring.facts (spot doc)).matched = true →
        ∀ n, |exactSum (spot doc) (first n)| ≤ m) := by
    refine imp_congr_right fun _ => ?_
    rw [sum]
    exact isFinite_combine nonneg le weights (scored doc lt)
  refine ⟨fun doc lt n => ?_, fun within => ?_, fun ⟨doc, lt, yes, n, beyond⟩ => ?_⟩
  · have among {x : Query (Partial K log (some m)) × K} (mem : x ∈ first n) : x.1 ∈ cs ∧ x.2 ∈ us :=
      List.of_mem_zip (List.mem_of_mem_take mem)
    exact exactSum_near (fun x mem => weights x.2 (among mem).2)
      fun x mem => scored doc lt x.1 (among mem).1
  · obtain ⟨_, found⟩ | ⟨⟨doc, lt, infinite⟩, _⟩ :=
      search_cases_of_runnable limit numbered noRaw low runnable prepared whole
    · exact found
    · exact absurd ((finite_iff lt).mpr (within doc lt)) infinite
  · obtain ⟨finite, _⟩ | ⟨_, diverges⟩ :=
      search_cases_of_runnable limit numbered noRaw low runnable prepared whole
    · exact absurd ((finite_iff lt).mp (finite doc lt) yes n) (not_le_of_gt beyond)
    · exact diverges

/-- Numbers up to a hundred: of two documents one does not meet the condition of a child with half
the weight. -/
theorem search_misses_half :
    let log (x : ℚ) : ℚ := x - 1
    let docs : List Document := [⟨"d0", [("body", "a")]⟩, ⟨"d1", [("body", "a b")]⟩]
    let env : Environment (Partial ℚ log (some 100)) := {
      defaultField := "body", defaultStatsField := none, dirichletMu := exact 50
      bm25B := exact (3 / 4), bm25K := exact (6 / 5), absoluteDiscountingDelta := exact (7 / 10)
      simplifyCandidates := true, shareCursors := true, maxPasses := 1000 }
    let e : Searcher (Partial ℚ log (some 100)) := ⟨.ofDocuments (some 1) docs, env⟩
    let q : Query (Partial ℚ log (some 100)) := .join (.combine [exact (1 / 2), exact 1])
      [.require (.term "b") (.leaf (.constScore (exact 3))),
        .modify (.boolToScore (exact 1) (exact 0)) (.term "a")]
    ∃ r, e.search q 10 = .ok r := by
  intro log docs env e q
  let term (text : String) (df : Nat) : Query (Partial ℚ log (some 100)) := .leaf (.term {
    text, field := some "body", stats := some ⟨s!"body:{text}", df, df, 3, 2⟩, needed := .docs })
  let cs : List (Query (Partial ℚ log (some 100))) :=
    [.require (term "b" 1) (.leaf (.constScore (exact 3))),
      .modify (.boolToScore (exact 1) (exact 0)) (term "a" 2)]
  let us : List ℚ := [1 / 2, 1]
  have prepares : (e.prepare q).map Prepared.scoring =
      .ok (.join (.combine (us.map exact)) cs) := by
    have indexed : Collection.ofDocuments (some 1) docs =
        ⟨[⟨0, 1, [("body", ⟨#[1], [("a", [⟨0, [0]⟩])]⟩)]⟩,
          ⟨1, 1, [("body", ⟨#[2], [("b", [⟨0, [1]⟩]), ("a", [⟨0, [0]⟩])]⟩)]⟩], #["d0", "d1"]⟩ := by
      decide +kernel
    unfold e
    rw [indexed]
    rfl
  obtain ⟨p, prepared, sum⟩ := exists_of_map_eq_ok prepares
  have numbered : docs.length ≤ noMoreDocs := by decide
  have noRaw : q.NoRaw := by simp [q, NoRaw, Query.term, nodes, nodesAll]
  have low : ∀ t ∈ q.terms, t.needed ≠ .scores := by decide +kernel
  have runnable : q.Runnable env.defaultField .scores := by
    refine .join trivial ?_
    simp only [List.forall_mem_cons]
    exact ⟨.require trivial (.leaf trivial) (.leaf trivial), .modify trivial (.leaf trivial),
      List.forall_mem_nil _⟩
  have whole : p.scoring.NoEmptyAnd := by
    simp [sum, cs, term, NoEmptyAnd, nodes, nodesAll]
  have weights : ∀ u ∈ us, |u| ≤ 1 := by decide +kernel
  let spot (doc : Nat) : Spot := ⟨.ofDocuments 0 docs, env.defaultField, doc⟩
  have scored : ∀ doc < docs.length, ∀ c ∈ cs, c.ScoresWithin (spot doc) 3 := by
    intro doc _ c mem met
    simp only [cs, List.mem_cons, List.not_mem_nil, or_false] at mem
    obtain rfl | rfl := mem
    · rw [misses, Bool.not_eq_false'] at met
      exact ⟨3, by decide +kernel, if_pos met⟩
    · rw [score, Modifier.score]
      split
      · exact ⟨1, by decide +kernel, rfl⟩
      · exact ⟨0, by decide +kernel, rfl⟩
  have sums : ∀ doc < docs.length, ∀ n, |exactSum (spot doc) ((cs.zip us).take n)| ≤ 100 := by
    have few : ∀ doc < docs.length, ∀ n < 3, |exactSum (spot doc) ((cs.zip us).take n)| ≤ 100 := by
      decide +kernel
    intro doc lt n
    obtain less | more := Nat.lt_or_ge n 3
    · exact few doc lt n less
    · rw [List.take_of_length_le (Nat.le_of_succ_le more)]
      exact few doc lt 2 (by decide)
  obtain ⟨_, found, _⟩ := search_misses numbered noRaw low runnable prepared whole sum weights
    (by decide) (by decide) scored
  exact found (fun doc lt _ n => sums doc lt n) 10

/-- Two conditions that are not met leave the range of binary64, so that the search fails on a
document that matches by another child, although the whole sum can be represented. -/
theorem search_misses_diverges :
    let docs : List Document := [⟨"d0", [("body", "a")]⟩]
    let e : Searcher Float := ⟨.ofDocuments none docs, .usual⟩
    let required (text : String) : Query Float := .require (.term text) (.leaf (.constScore 1))
    let q : Query Float := .join (.combine [1, 1, 1, -1])
      [.modify (.boolToScore 0 0) (.term "a"), required "b", required "c", required "d"]
    e.env.validate = .ok () ∧ ∀ r, e.search q 10 ≠ .ok r := by
  intro docs e required q
  let spot : Spot := ⟨.ofDocuments 0 docs, "body", 0⟩
  have judged : (e.prepare q).map (fun p => ((p.scoring.facts spot).matched,
      Scalar.isFinite (p.scoring.score spot.rate spot), (e.treeAt p.scoring 0).isOk,
      p.scoring.nodes.map Query.kind)) =
        .ok (true, false, true, ["combine", "bool-to-score", "text",
          "require", "text", "const-score", "require", "text", "const-score",
          "require", "text", "const-score"]) := by
    decide +kernel
  have noRaw : q.NoRaw := by simp [q, required, NoRaw, Query.term, nodes, nodesAll]
  exact ⟨by decide +kernel, search_ne_ok (by decide) noRaw (by decide) judged 10⟩

end Searcher

end Retrieval
