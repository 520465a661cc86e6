import Retrieval.Collection
import Mathlib.Order.Nat
import Mathlib.Tactic.Lemma

/-!
# Cursors over rising lists

The documents of a posting list rise strictly. So a cursor that moves on to a target passes just
those postings that lie before it (`Postings.Rising.mem_advance`). In any list that does not fall,
the first number that is left when those before a target are dropped is the least that is not before
it (`least_of_dropWhile_lt`).
-/

namespace Retrieval

/-- Dropping what lies before a target from a list that does not fall leaves what is not before
it. -/
lemma mem_dropWhile_lt {α : Type} {f : α → Nat} {target : Nat} {l : List α}
    (ascends : l.Pairwise fun a b => f a ≤ f b) {x : α} :
    x ∈ l.dropWhile (f · < target) ↔ target ≤ f x ∧ x ∈ l := by
  induction l with
  | nil => simp
  | cons a l ih =>
    obtain ⟨first, ascends⟩ := List.pairwise_cons.mp ascends
    rw [List.dropWhile_cons]
    split
    · next before =>
      rw [ih ascends]
      simp only [decide_eq_true_eq] at before
      refine and_congr_right fun le => ⟨List.mem_cons_of_mem a, fun mem => ?_⟩
      cases mem with
      | head => omega
      | tail _ mem => exact mem
    · next here =>
      simp only [decide_eq_true_eq] at here
      refine ⟨fun mem => ⟨?_, mem⟩, And.right⟩
      cases mem with
      | head => omega
      | tail _ mem => exact (Nat.le_of_not_lt here).trans (first x mem)

/-- The first number of a list that does not fall is a least one. -/
lemma first_le {first n : Nat} {l : List Nat} (ascends : (first :: l).Pairwise (· ≤ ·))
    (mem : n ∈ first :: l) : first ≤ n := by
  cases mem with
  | head => exact Nat.le_refl _
  | tail _ mem => exact (List.pairwise_cons.mp ascends).1 n mem

/-- The first number that is left of a list that does not fall is the least that is not before the
target. -/
lemma least_of_dropWhile_lt {target next : Nat} {l later : List Nat} (ascends : l.Pairwise (· ≤ ·))
    (found : l.dropWhile (· < target) = next :: later) :
    target ≤ next ∧ next ∈ l ∧ ∀ n ∈ l, target ≤ n → next ≤ n := by
  have left (n : Nat) : n ∈ next :: later ↔ target ≤ n ∧ n ∈ l := found ▸ mem_dropWhile_lt ascends
  have ascends' : (next :: later).Pairwise (· ≤ ·) :=
    found ▸ ascends.sublist (List.dropWhile_sublist _)
  obtain ⟨from_, mem⟩ := (left next).mp List.mem_cons_self
  exact ⟨from_, mem, fun n mem from_ => first_le ascends' ((left n).mpr ⟨from_, mem⟩)⟩

namespace Postings

/-- The postings that are left rise and belong to real documents. -/
def Rising (p : Postings) : Prop :=
  p.rest.Pairwise (fun q r => q.doc < r.doc) ∧ ∀ q ∈ p.rest, q.doc < noMoreDocs

/-- A cursor is on the first posting that is left. -/
lemma Rising.doc_le {p : Postings} {q} (h : p.Rising) (hq : q ∈ p.rest) : p.doc ≤ q.doc := by
  obtain ⟨rise, _⟩ := h
  cases e : p.rest with
  | nil => simp [e] at hq
  | cons r rest =>
    rw [e] at hq rise
    simp only [doc, e]
    cases hq with
    | head => exact Nat.le_refl _
    | tail _ hq => exact ((List.pairwise_cons.mp rise).1 q hq).le

/-- A cursor is on a posting unless it has run out. -/
lemma doc_mem (p : Postings) : p.doc = noMoreDocs ∨ ∃ q ∈ p.rest, q.doc = p.doc := by
  cases e : p.rest with
  | nil => simp [doc, e]
  | cons q rest => simp [doc, e]

/-- A cursor that has moved has passed only what lies before the target. -/
lemma Rising.mem_advance {p : Postings} (h : p.Rising) {target : Nat} {q : Posting} :
    q ∈ (p.advance target).rest ↔ target ≤ q.doc ∧ q ∈ p.rest :=
  mem_dropWhile_lt (h.1.imp Nat.le_of_lt)

/-- Moving keeps a cursor rising. -/
lemma Rising.advance {p : Postings} (h : p.Rising) (target : Nat) : (p.advance target).Rising :=
  ⟨h.1.sublist (List.dropWhile_sublist _), fun q hq => h.2 q (h.mem_advance.mp hq).2⟩

end Postings

end Retrieval
