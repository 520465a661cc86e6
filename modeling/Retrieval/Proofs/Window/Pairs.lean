import Retrieval.Proofs.Window.Ordered
import Mathlib.Data.List.Nodup
import Mathlib.Data.Set.List
import Mathlib.Logic.Equiv.Basic
import Mathlib.Order.Bounds.Defs

/-!
# Ordered windows of two terms

Windows of two terms are pairs of positions, and pairs that share no position are a matching of the
two lists. The search takes the first position that comes after a start, and never thinks better of
it. It finds as many windows as any matching has pairs (`Window.orderedStarts_isGreatest`): whatever
a matching does with the two positions that the search takes, it loses at most one pair if it has to
do without them (`Window.IsMatching.exchange`).
-/

namespace Retrieval

namespace Window

variable {step a b : Nat} {starts ends starts' ends' : List Nat} {pairs : List (Nat × Nat)}

/-- Pairs of positions, the second after the first and at most `step` from it, that share none. -/
structure IsMatching (step : Nat) (starts ends : List Nat) (pairs : List (Nat × Nat)) : Prop where
  fits : ∀ p ∈ pairs, p.1 ∈ starts ∧ p.2 ∈ ends ∧ p.1 < p.2 ∧ p.2 - p.1 ≤ step
  firstOnce : (pairs.map Prod.fst).Nodup
  secondOnce : (pairs.map Prod.snd).Nodup

/-! ## Matchings with fewer positions -/

namespace IsMatching

/-- Pairs that only use some of the positions match these. -/
lemma restrict (matching : IsMatching step starts ends pairs)
    (uses : ∀ p ∈ pairs, p.1 < p.2 → p.2 - p.1 ≤ step → p.1 ∈ starts → p.2 ∈ ends →
      p.1 ∈ starts' ∧ p.2 ∈ ends') : IsMatching step starts' ends' pairs where
  fits p mem := by
    obtain ⟨first, second, after, near⟩ := matching.fits p mem
    obtain ⟨first', second'⟩ := uses p mem after near first second
    exact ⟨first', second', after, near⟩
  firstOnce := matching.firstOnce
  secondOnce := matching.secondOnce

lemma sublist {pairs' : List (Nat × Nat)} (matching : IsMatching step starts ends pairs)
    (sublist : pairs'.Sublist pairs) : IsMatching step starts ends pairs' where
  fits p mem := matching.fits p (sublist.subset mem)
  firstOnce := matching.firstOnce.sublist (sublist.map Prod.fst)
  secondOnce := matching.secondOnce.sublist (sublist.map Prod.snd)

/-- Without positions there is nothing to match. -/
lemma eq_nil (matching : IsMatching step starts ends pairs) (none : starts = [] ∨ ends = []) :
    pairs = [] := by
  refine List.eq_nil_iff_forall_not_mem.mpr fun p mem => ?_
  obtain ⟨first, second, _⟩ := matching.fits p mem
  rcases none with rfl | rfl
  · cases first
  · cases second

/-- No start is matched to a position that does not come after the first of them. -/
lemma pass (rising : (a :: starts).Pairwise (· < ·)) (rising' : ends.Pairwise (· < ·))
    (matching : IsMatching step (a :: starts) ends pairs) :
    IsMatching step (a :: starts) (ends.dropWhile (· ≤ a)) pairs := by
  refine matching.restrict fun p _ after _ first second => ⟨first, ?_⟩
  refine (mem_dropWhile_le rising').mpr ⟨?_, second⟩
  cases first with
  | head => exact after
  | tail _ first => exact ((List.pairwise_cons.mp rising).1 _ first).trans after

/-- A start that is far from the first position after it is not matched. -/
lemma skip (rising' : (b :: ends).Pairwise (· < ·)) (far : step < b - a)
    (matching : IsMatching step (a :: starts) (b :: ends) pairs) :
    IsMatching step starts (b :: ends) pairs := by
  refine matching.restrict fun p _ _ near first second => ⟨?_, second⟩
  have least := first_le (rising'.imp Nat.le_of_lt) second
  cases first with
  | head => omega
  | tail _ first => exact first

end IsMatching

/-! ## The exchange -/

/-- Where values differ, at most one item has a given value. -/
lemma length_le_filter_ne {α : Type} {f : α → Nat} {items : List α} (once : (items.map f).Nodup)
    (x : Nat) : items.length ≤ (items.filter (f · ≠ x)).length + 1 := by
  have one : (items.map f).count x ≤ 1 := List.nodup_iff_count_le_one.mp once x
  rw [List.count_eq_countP, List.countP_map] at one
  rw [List.length_eq_countP_add_countP (fun i => decide (f i ≠ x)), ← List.countP_eq_length_filter]
  refine Nat.add_le_add_left (le_of_eq_of_le (List.countP_congr fun i _ => ?_) one) _
  simp

/-- If the first start is not matched, a matching does without the first end at the cost of a pair. -/
lemma IsMatching.without (matching : IsMatching step (a :: starts) (b :: ends) pairs)
    (free : ∀ q, (a, q) ∉ pairs) : IsMatching step starts ends (pairs.filter (·.2 ≠ b)) := by
  refine (matching.sublist List.filter_sublist).restrict fun p among _ _ start end_ => ?_
  obtain ⟨mem, other⟩ := List.mem_filter.mp among
  have other' : p.1 ≠ a := fun same => free p.2 (same ▸ mem)
  exact ⟨List.mem_of_ne_of_mem other' start, List.mem_of_ne_of_mem (of_decide_eq_true other) end_⟩

/-- If the first start is matched, its pair may be broken up. What it was matched to is near enough
for whatever is matched to the first end, which is thereby free. -/
lemma IsMatching.swap {q : Nat} (rising : (a :: starts).Pairwise (· < ·))
    (rising' : (b :: ends).Pairwise (· < ·))
    (matching : IsMatching step (a :: starts) (b :: ends) pairs) (pair : (a, q) ∈ pairs) :
    IsMatching step starts ends
      ((pairs.filter (·.1 ≠ a)).map fun p => (p.1, Equiv.swap b q p.2)) := by
  obtain ⟨_, end_, _, near⟩ := matching.fits _ pair
  have least := first_le (rising'.imp Nat.le_of_lt) end_
  have rest := matching.sublist (List.filter_sublist (p := fun p => decide (p.1 ≠ a)))
  constructor
  case fits =>
    refine List.forall_mem_map.mpr fun p among => ?_
    obtain ⟨start, end', after, near'⟩ := rest.fits p among
    obtain ⟨mem, other⟩ := List.mem_filter.mp among
    replace other : p.1 ≠ a := of_decide_eq_true other
    replace start : p.1 ∈ starts := List.mem_of_ne_of_mem other start
    have free : p.2 ≠ q := fun same =>
      other (congrArg Prod.fst (List.inj_on_of_nodup_map matching.secondOnce mem pair same))
    dsimp only
    by_cases taken : p.2 = b
    · rw [taken] at free after near'
      rw [taken, Equiv.swap_apply_left]
      have later := (List.pairwise_cons.mp rising).1 p.1 start
      exact ⟨start, List.mem_of_ne_of_mem free.symm end_, by omega, by omega⟩
    · rw [Equiv.swap_apply_of_ne_of_ne taken free]
      exact ⟨start, List.mem_of_ne_of_mem taken end', after, near'⟩
  case firstOnce =>
    rw [List.map_map]
    exact rest.firstOnce
  case secondOnce =>
    have once := rest.secondOnce.map (Equiv.swap b q).injective
    rw [List.map_map] at once ⊢
    exact once

/-- A matching without the first positions of both lists has at most one pair less. -/
lemma IsMatching.exchange (rising : (a :: starts).Pairwise (· < ·))
    (rising' : (b :: ends).Pairwise (· < ·))
    (matching : IsMatching step (a :: starts) (b :: ends) pairs) :
    ∃ pairs', IsMatching step starts ends pairs' ∧ pairs.length ≤ pairs'.length + 1 := by
  by_cases matched : ∃ q, (a, q) ∈ pairs
  · obtain ⟨q, pair⟩ := matched
    refine ⟨_, matching.swap rising rising' pair, ?_⟩
    rw [List.length_map]
    exact length_le_filter_ne matching.firstOnce a
  · have free : ∀ q, (a, q) ∉ pairs := fun q pair => matched ⟨q, pair⟩
    exact ⟨_, matching.without free, length_le_filter_ne matching.secondOnce b⟩

/-! ## The search -/

/-- The search in two lists, without a chain: the next position after a start either is too far or
makes a window with it. -/
lemma orderedStarts_pair (step a : Nat) (starts ends : List Nat) :
    orderedStarts step (a :: starts) [ends] =
      match ends.dropWhile (· ≤ a) with
      | [] => []
      | b :: ends =>
        if step < b - a then orderedStarts step starts [b :: ends]
        else a :: orderedStarts step starts [ends] := by
  rw [orderedStarts, follow]
  cases ends.dropWhile (· ≤ a) with
  | nil => rfl
  | cons b ends =>
    by_cases far : step < b - a
    · simp only [if_pos far]
    · simp only [if_neg far, follow, List.map_cons, List.map_nil, List.tail_cons]

/-- No matching has more pairs than the search finds windows. -/
lemma IsMatching.length_le (rising : starts.Pairwise (· < ·)) (rising' : ends.Pairwise (· < ·))
    (matching : IsMatching step starts ends pairs) :
    pairs.length ≤ (orderedStarts step starts [ends]).length := by
  induction starts generalizing ends pairs with
  | nil => exact (matching.eq_nil (.inl rfl)) ▸ Nat.le_refl _
  | cons a starts ih =>
    obtain ⟨_, later⟩ := List.pairwise_cons.mp rising
    have left := matching.pass rising rising'
    have rising' := rising'.sublist (List.dropWhile_sublist (· ≤ a))
    rw [orderedStarts_pair]
    generalize ends.dropWhile (· ≤ a) = ends at left rising'
    cases ends with
    | nil => exact (left.eq_nil (.inr rfl)) ▸ Nat.le_refl _
    | cons b ends =>
      dsimp only
      split
      · next far => exact ih later rising' (left.skip rising' far)
      · obtain ⟨pairs', left', le⟩ := left.exchange rising rising'
        exact le.trans (Nat.succ_le_succ (ih later (List.pairwise_cons.mp rising').2 left'))

/-- Windows in two lists are pairs. -/
lemma isWindow_pair {p q : Nat} :
    IsWindow step [starts, ends] [p, q] ↔ p ∈ starts ∧ q ∈ ends ∧ p < q ∧ q - p ≤ step := by
  constructor
  · rintro ⟨within, near⟩
    simp only [Within, List.forall₂_cons, List.Forall₂.nil, and_true] at within
    exact ⟨within.1, within.2, (List.isChain_cons_cons.mp near).1⟩
  · rintro ⟨start, end_, near⟩
    exact ⟨.cons start (.cons end_ .nil), .cons_cons near (.singleton q)⟩

/-- The windows that the search finds are a matching. -/
lemma exists_matching (step : Nat) (rising : starts.Pairwise (· < ·))
    (rising' : ends.Pairwise (· < ·)) :
    ∃ pairs, IsMatching step starts ends pairs ∧
      pairs.length = (orderedStarts step starts [ends]).length := by
  obtain ⟨windows, heads, real, apart⟩ :=
    exists_windows step rising (List.forall_mem_singleton.mpr rising')
  have paired : ∀ w ∈ windows, w ∈ Set.range fun p : Nat × Nat => [p.1, p.2] := by
    intro w mem
    obtain ⟨p, q, rfl⟩ := List.length_eq_two.mp (real w mem).within.length_eq
    exact ⟨(p, q), rfl⟩
  obtain ⟨pairs, rfl⟩ : windows ∈ Set.range (List.map fun p : Nat × Nat => [p.1, p.2]) :=
    Set.range_list_map _ ▸ paired
  have below : pairs.Pairwise fun p p' => p.1 < p'.1 ∧ p.2 < p'.2 :=
    (List.pairwise_map.mp apart).imp fun both => by simpa using both
  refine ⟨pairs, ⟨fun p mem => isWindow_pair.mp (real _ (List.mem_map_of_mem mem)), ?_, ?_⟩, ?_⟩
  · exact List.pairwise_map.mpr (below.imp fun both => both.1.ne)
  · exact List.pairwise_map.mpr (below.imp fun both => both.2.ne)
  · simpa using congrArg List.length heads

/-- Ordered windows of two terms are never undercounted. The search finds as many as the largest
matching has pairs. -/
theorem orderedStarts_isGreatest (step : Nat) (rising : starts.Pairwise (· < ·))
    (rising' : ends.Pairwise (· < ·)) :
    IsGreatest {n | ∃ pairs, IsMatching step starts ends pairs ∧ pairs.length = n}
      (orderedStarts step starts [ends]).length := by
  refine ⟨exists_matching step rising rising', ?_⟩
  rintro n ⟨pairs, matching, rfl⟩
  exact matching.length_le rising rising'

/-- Three starts have two positions near enough. The search gives them to the first two starts; to
give one to the last start would be no better. -/
theorem orderedStarts_isGreatest_two :
    [0, 1, 2].Pairwise (· < ·) ∧ [2, 3].Pairwise (· < ·) ∧
      IsGreatest {n | ∃ pairs, IsMatching 2 [0, 1, 2] [2, 3] pairs ∧ pairs.length = n} 2 := by
  have rising : [0, 1, 2].Pairwise (· < ·) := by decide
  have rising' : [2, 3].Pairwise (· < ·) := by decide
  exact ⟨rising, rising', orderedStarts_isGreatest 2 rising rising'⟩

end Window

end Retrieval
