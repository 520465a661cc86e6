import Retrieval.Proofs.Window.Unordered
import Mathlib.Algebra.Order.Group.Abs
import Mathlib.Algebra.Order.Group.Int

/-!
# Proximity windows

A position of the first list starts a proximity window if every other list has a position near it.
Of each list the search looks at one position only, the first that is not too early. In a list that
does not fall it is the least of those, so where it is too late, all of them are
(`Window.isNear_iff_between`). The range of what is near is cut off at zero and at the largest
position. No position lies beyond these, so nothing is lost (`Window.between_iff_near`), and the
windows are those that the distances between integers give (`Window.find_prox`).
-/

namespace Retrieval

namespace Window

variable {width p q : Nat} {positions : List Nat}

/-! ## One list -/

/-- One look at a list that does not fall tells whether it has a position in the range. -/
lemma isNear_iff_between (ascends : positions.Pairwise (· ≤ ·)) :
    isNear width p positions = true ↔
      ∃ q ∈ positions, p - width ≤ q ∧ q ≤ min (p + width) maxPosition := by
  have left (q : Nat) : q ∈ positions.dropWhile (· < p - width) ↔ p - width ≤ q ∧ q ∈ positions :=
    mem_dropWhile_lt ascends
  rw [isNear]
  split
  · next none =>
    rw [none] at left
    refine ⟨nofun, fun ⟨q, mem, from_, _⟩ => ?_⟩
    exact absurd ((left q).mpr ⟨from_, mem⟩) List.not_mem_nil
  · next first later found =>
    -- no position in the range comes before the one that is looked at
    obtain ⟨from_, mem, least⟩ := least_of_dropWhile_lt ascends found
    rw [decide_eq_true_eq]
    constructor
    · intro until_
      exact ⟨first, mem, from_, until_⟩
    · rintro ⟨q, mem, from_, until_⟩
      exact (least q mem from_).trans until_

/-- A list that falls can hide a near position behind one that is too late. -/
example : isNear 1 0 [9, 0] = false := rfl

/-- Cutting off the range around a position at both ends loses no position. -/
lemma between_iff_near (inside : q ≤ maxPosition) :
    p - width ≤ q ∧ q ≤ min (p + width) maxPosition ↔ |(p : ℤ) - q| ≤ width := by
  have below : p - width ≤ q ↔ (p : ℤ) - q ≤ width := by omega
  have above : q ≤ min (p + width) maxPosition ↔ -(width : ℤ) ≤ (p : ℤ) - q := by
    rw [le_min_iff, and_iff_left inside]
    omega
  rw [below, above, abs_le, and_comm]

/-- A list comes near a position if one of its positions does, by the distance between integers. -/
lemma isNear_iff (ascends : positions.Pairwise (· ≤ ·))
    (inside : ∀ q ∈ positions, q ≤ maxPosition) :
    isNear width p positions = true ↔ ∃ q ∈ positions, |(p : ℤ) - q| ≤ width := by
  rw [isNear_iff_between ascends]
  exact exists_congr fun q => and_congr_right fun mem => between_iff_near (inside q mem)

/-! ## All lists -/

/-- Nothing is near in an empty list, so it makes no difference that empty lists are looked for
first. -/
lemma find_prox_eq (width : Nat) (first : List Nat) (rest : List (List Nat)) :
    (prox width).find (first :: rest) = proxStarts width first rest := by
  by_cases empty : [] ∈ first :: rest
  · rw [find_of_empty empty]
    symm
    refine List.filter_eq_nil_iff.mpr fun p start near => ?_
    cases empty with
    | head => cases start
    | tail _ mem => cases List.all_eq_true.mp near [] mem
  · simp only [find, any_isEmpty_of_full empty, Bool.false_eq_true, if_false]

/-- Proximity windows are found exactly. They start at those positions `p` of the first list, in
their order and as often as they are there, for which every other list has a position at most `width`
from `p`. Distances are those between integers, at both ends of what a position can be. -/
theorem find_prox (width : Nat) (first : List Nat) {rest : List (List Nat)} (ascend : Ascend rest)
    (inside : ∀ list ∈ rest, ∀ q ∈ list, q ≤ maxPosition) :
    (prox width).find (first :: rest) =
      first.filter fun p : Nat => ∀ list ∈ rest, ∃ q ∈ list, |(p : ℤ) - q| ≤ width := by
  rw [find_prox_eq]
  refine List.filter_congr fun p _ => Bool.eq_iff_iff.mpr ?_
  rw [List.all_eq_true, decide_eq_true_eq]
  exact forall₂_congr fun list mem => isNear_iff (ascend list mem) (inside list mem)

/-- Starts near both ends of what a position can be, one of them twice. -/
theorem find_prox_ends :
    let first := [2, 2, 9, maxPosition - 1]
    let rest := [[0, maxPosition], [5, 6, maxPosition - 4]]
    Ascend rest ∧ (∀ list ∈ rest, ∀ q ∈ list, q ≤ maxPosition) ∧
      (prox 3).find (first :: rest) = [2, 2, maxPosition - 1] ∧
      (first.filter fun p : Nat => ∀ list ∈ rest, ∃ q ∈ list, |(p : ℤ) - q| ≤ 3) =
        [2, 2, maxPosition - 1] := by
  intro first rest
  have ascend : Ascend rest := by simp [Ascend, rest, maxPosition]
  have inside : ∀ list ∈ rest, ∀ q ∈ list, q ≤ maxPosition := by simp [rest, maxPosition]
  have found : (prox 3).find (first :: rest) = [2, 2, maxPosition - 1] := rfl
  refine ⟨ascend, inside, found, ?_⟩
  rw [← found]
  exact (find_prox 3 first ascend inside).symm

end Window

end Retrieval
