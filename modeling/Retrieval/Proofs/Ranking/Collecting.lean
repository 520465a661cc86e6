import Retrieval.Proofs.Ranking.Search
import Mathlib.Logic.Function.Basic

/-!
# Collecting and merging

Hits may be spread over any number of collectors, and these may be merged in any order and nesting.
At every point a collector shows the first of the ranking of all hits that have come to it, one way
or the other (`TopHits.run_exact`). So two collectors of the same capacity that have come by the same
hits show the same, however they did.
-/

namespace Retrieval

instance : Std.LawfulEqCmp (Scalar.order : Float → Float → Ordering) where
  eq_of_compare := by
    intro x y same
    have keys : Binary64.key x = Binary64.key y := Std.LawfulEqOrd.eq_of_compare same
    have bits : x.toBits.toNat = y.toBits.toNat := by
      unfold Binary64.key at keys
      dsimp only at keys
      split_ifs at keys <;> omega
    -- a float is nothing but its bits
    obtain ⟨⟨m, _⟩⟩ := x
    obtain ⟨⟨n, _⟩⟩ := y
    have same : m = n := UInt64.toNat_inj.mp bits
    subst same
    rfl

variable {R : Type} [Scalar R]

/-- Hits of the same rank are the same, if the order of scores tells all scores apart. -/
lemma Hit.decided [Std.LawfulEqCmp (Scalar.order : R → R → Ordering)] (hits : List (Hit R)) :
    Decided hits := by
  rintro ⟨doc, score⟩ _ ⟨doc', score'⟩ _ same
  obtain ⟨scores, docs⟩ := Ordering.then_eq_eq.mp same
  have scores : score' = score := Std.LawfulEqCmp.eq_of_compare scores
  have docs : doc = doc' := Nat.compare_eq_eq.mp docs
  rw [scores, docs]

namespace TopHits

/-- A way of going through a heap. -/
structure Iteration (R : Type) where
  order : List (Hit R) → List (Hit R)
  perm : ∀ heap, (order heap).Perm heap

/-- What may be done with collectors that are named by `ι`. -/
inductive Action (ι R : Type) where
  | collect (i : ι) (h : Hit R)
  | merge (receiver donor : ι) (iteration : Iteration R)

variable {ι : Type} [DecidableEq ι]

/-- Does one thing. A collector that is merged into another one leaves an empty one behind. -/
def step (k : Nat) (collectors : ι → TopHits R) : Action ι R → ι → TopHits R
  | .collect i h => Function.update collectors i ((collectors i).collect h)
  | .merge i j iteration =>
    let given := { collectors j with heap := iteration.order (collectors j).heap }
    let left := Function.update collectors j (.empty k)
    Function.update left i ((left i).merge given)

/-- Does one thing after the other, beginning with empty collectors. -/
def run (k : Nat) (actions : List (Action ι R)) : ι → TopHits R :=
  actions.foldl (step k) fun _ => .empty k

/-- The hits that have come to each collector, after one thing more. -/
def gather (seen : ι → List (Hit R)) : Action ι R → ι → List (Hit R)
  | .collect i h => Function.update seen i (seen i ++ [h])
  | .merge i j _ =>
    let left := Function.update seen j []
    Function.update left i (left i ++ seen j)

/-- The hits that have come to each collector, by itself or in others that were merged into it. -/
def gathered (actions : List (Action ι R)) : ι → List (Hit R) := actions.foldl gather fun _ => []

variable {k : Nat} {collectors : ι → TopHits R} {seen : ι → List (Hit R)}

/-- Collectors hold what they did, but for the one that is changed. -/
lemma holds_update {i : ι} {t : TopHits R} {hits : List (Hit R)}
    (holds : ∀ i, (collectors i).Holds k (seen i)) (changed : t.Holds k hits) :
    ∀ j, (Function.update collectors i t j).Holds k (Function.update seen i hits j) := by
  intro j
  by_cases same : j = i
  · subst same
    rwa [Function.update_self, Function.update_self]
  · rw [Function.update_of_ne same, Function.update_of_ne same]
    exact holds j

variable [Std.TransCmp (Scalar.order : R → R → Ordering)]
  [Std.LawfulEqCmp (Scalar.order : R → R → Ordering)]

/-- Each action keeps what the collectors hold up with the hits that have come to them. -/
lemma holds_step (holds : ∀ i, (collectors i).Holds k (seen i)) (action : Action ι R) :
    ∀ i, (step k collectors action i).Holds k (gather seen action i) := by
  cases action with
  | collect i h =>
    apply holds_update holds
    exact (holds i).collect h
  | merge i j iteration =>
    have left := holds_update (i := j) holds (holds_empty k)
    apply holds_update left
    exact (left i).merge (holds j) (iteration.perm _) (Hit.decided _)

/-- At every point collectors hold the hits that have come to them. -/
lemma holds_run (k : Nat) (actions : List (Action ι R)) :
    ∀ i, (run k actions i).Holds k (gathered actions i) := by
  have from_ (collectors : ι → TopHits R) (seen : ι → List (Hit R))
      (holds : ∀ i, (collectors i).Holds k (seen i)) :
      ∀ i, (actions.foldl (step k) collectors i).Holds k (actions.foldl gather seen i) := by
    induction actions generalizing collectors seen with
    | nil => exact holds
    | cons action actions ih => exact ih _ _ (holds_step holds action)
  exact from_ _ _ fun _ => holds_empty k

omit [Std.LawfulEqCmp (Scalar.order : R → R → Ordering)] in
lemma ranked_mergeSort (hits : List (Hit R)) :
    Hit.Ranked (hits.mergeSort fun a b => (Hit.order a b).isLE) := by
  apply List.pairwise_mergeSort
  · exact fun _ _ _ => Std.TransCmp.isLE_trans
  · intro a b
    have total : (Hit.order a b).isLE ∨ (Hit.order b a).isLE := by
      rw [show Hit.order b a = (Hit.order a b).swap from Std.OrientedCmp.eq_swap]
      cases Hit.order a b with
      | gt => exact .inr rfl
      | _ => exact .inl rfl
    rwa [Bool.or_eq_true]

/-- Ranking hits means sorting them. -/
lemma ranking_eq_mergeSort (hits : List (Hit R)) :
    Hit.ranking hits = hits.mergeSort fun a b => (Hit.order a b).isLE :=
  (Hit.ranked_ranking hits).eq_of_decided (ranked_mergeSort hits)
    ((Hit.ranking_perm hits).trans (List.mergeSort_perm hits _).symm) (Hit.decided _)

omit [Std.TransCmp (Scalar.order : R → R → Ordering)]
  [Std.LawfulEqCmp (Scalar.order : R → R → Ordering)] in
/-- The hits that a collector holds determine it. -/
lemma Holds.unique {hits : List (Hit R)} {t u : TopHits R} (holds : t.Holds k hits)
    (holds' : u.Holds k hits) : t = u := by
  have heaps : t.heap = u.heap := List.reverse_injective (holds.hits.trans holds'.hits.symm)
  have capacities := holds.capacity.trans holds'.capacity.symm
  have totals := holds.total.trans holds'.total.symm
  cases t
  cases u
  cases heaps
  cases capacities
  cases totals
  rfl

/-- At every point a collector of capacity `k` shows the first `k` of all hits that have come to it,
sorted, and counts them all; the score of the `k`-th one is the least that it keeps. Nothing else
matters, neither the order of the hits nor how they have been spread and merged. -/
theorem run_exact (k : Nat) (actions : List (Action ι R)) (i : ι) :
    let t := run k actions i
    let seen := gathered actions i
    let sorted := seen.mergeSort fun a b => (Hit.order a b).isLE
    t.hits = sorted.take k ∧ t.total = seen.length ∧
    t.leastScore? = (if 1 ≤ k ∧ k ≤ seen.length then sorted[k - 1]?.map Hit.score else none) ∧
    ∀ (actions' : List (Action ι R)) (i' : ι), (gathered actions' i').Perm seen →
      run k actions' i' = t := by
  intro t seen sorted
  have holds : t.Holds k seen := holds_run k actions i
  have ranking : Hit.ranking seen = sorted := ranking_eq_mergeSort seen
  refine ⟨?_, holds.total, ?_, fun actions' i' perm => ?_⟩
  · rw [holds.hits, ranking]
  · rw [holds.leastScore?, ranking]
  · have holds' := holds_run k actions' i'
    have same : Hit.ranking (gathered actions' i') = Hit.ranking seen :=
      (Hit.ranked_ranking _).eq_of_decided (Hit.ranked_ranking _)
        ((Hit.ranking_perm _).trans (perm.trans (Hit.ranking_perm _).symm)) (Hit.decided _)
    have again : (run k actions' i').Holds k seen :=
      ⟨holds'.capacity, holds'.hits.trans (by rw [same]), holds'.total.trans perm.length_eq⟩
    exact again.unique holds

/-- Three of five hits, spread over two collectors; both zeros, infinity and a tie are among them. -/
theorem run_exact_zeros :
    let backwards : Iteration Float := ⟨List.reverse, List.reverse_perm⟩
    let actions : List (Action Nat Float) := [.collect 0 ⟨4, 0.0⟩, .collect 1 ⟨2, -0.0⟩,
      .collect 1 ⟨7, 0.0⟩, .collect 0 ⟨9, 1.0 / 0.0⟩, .merge 1 0 backwards, .collect 1 ⟨1, -1.0⟩]
    let t := run 3 actions 1
    let sorted := (gathered actions 1).mergeSort fun a b => (Hit.order a b).isLE
    t.hits = sorted.take 3 ∧ t.hits.map Hit.doc = [9, 4, 7] ∧ t.total = 5 ∧
      t.leastScore? = sorted[2]?.map Hit.score := by
  intro backwards actions t sorted
  obtain ⟨hits, total, least, _⟩ := run_exact 3 actions 1
  exact ⟨hits, by decide +kernel, total, least⟩

end TopHits

end Retrieval
