import Retrieval.Query.Basic
import Mathlib.Data.List.Forall2
import Mathlib.Tactic.Lemma

/-!
# Queries that compare as equal

Queries compare as equal if they are built alike from parts that compare as equal. Whatever relation
holds between nodes that are built alike from related children holds between such queries
(`Query.Congruence.of_beq`). Where scalars that compare as equal are equal, queries are too. Where it
does not matter in which order scalars are compared, it does not matter for queries either.
-/

namespace Retrieval

namespace Query

variable {R : Type} [BEq R]

/-- An equivalence between queries in which nodes are related if they are built alike from related
children. -/
structure Congruence (Same : Query R → Query R → Prop) : Prop extends Equivalence Same where
  leaf : ∀ {l k}, (l == k) = true → Same (.leaf l) (.leaf k)
  modify : ∀ {m n c d}, m = n ∨ (m == n) = true → Same c d → Same (.modify m c) (.modify n d)
  join : ∀ {o p cs ds}, o = p ∨ (o == p) = true → List.Forall₂ Same cs ds →
    Same (.join o cs) (.join p ds)
  require : ∀ {c v d w}, Same c d → Same v w → Same (.require c v) (.require d w)

section Congruence

variable {Same : Query R → Query R → Prop}

mutual

/-- A congruence relates queries that compare as equal. -/
theorem Congruence.of_beq (cong : Congruence Same) :
    (q q' : Query R) → (q == q') = true → Same q q'
  | .leaf _, .leaf _, equal => cong.leaf equal
  | .modify _ c, .modify _ d, equal => by
    obtain ⟨same, inner⟩ := (Bool.and_eq_true _ _).mp equal
    exact cong.modify (.inr same) (Congruence.of_beq cong c d inner)
  | .join _ cs, .join _ ds, equal => by
    obtain ⟨same, inner⟩ := (Bool.and_eq_true _ _).mp equal
    exact cong.join (.inr same) (Congruence.of_beqAll cong cs ds inner)
  | .require c v, .require d w, equal => by
    obtain ⟨cond, value⟩ := (Bool.and_eq_true _ _).mp equal
    exact cong.require (Congruence.of_beq cong c d cond) (Congruence.of_beq cong v w value)

theorem Congruence.of_beqAll (cong : Congruence Same) :
    (cs ds : List (Query R)) → beqAll cs ds = true → List.Forall₂ Same cs ds
  | [], [], _ => .nil
  | c :: cs, d :: ds, equal => by
    obtain ⟨first, rest⟩ := (Bool.and_eq_true _ _).mp equal
    exact .cons (Congruence.of_beq cong c d first) (Congruence.of_beqAll cong cs ds rest)

end

end Congruence

/-! ## Scalars that are equal if they compare so -/

section Lawful

variable [LawfulBEq R]

lemma leaf_eq_of_beq {l k : Leaf R} (equal : (l == k) = true) : l = k := by
  change Leaf.beq l k = true at equal
  cases l <;> cases k <;> simp_all [Leaf.beq]

lemma model_eq_of_beq {x y : Model R} (equal : (x == y) = true) : x = y := by
  change Model.beq x y = true at equal
  cases x <;> cases y <;> simp_all [Model.beq]

lemma modifier_eq_of_beq {m n : Modifier R} (equal : (m == n) = true) : m = n := by
  change Modifier.beq m n = true at equal
  cases m <;> cases n <;> simp_all [Modifier.beq]
  exact model_eq_of_beq equal.1

lemma operator_eq_of_beq {o p : Operator R} (equal : (o == p) = true) : o = p := by
  change Operator.beq o p = true at equal
  cases o <;> cases p <;> simp_all [Operator.beq]

/-- Nodes built alike from equal children are equal. -/
lemma congruence_eq : Congruence (Eq : Query R → Query R → Prop) where
  refl := Eq.refl
  symm := Eq.symm
  trans := Eq.trans
  leaf equal := congrArg leaf (leaf_eq_of_beq equal)
  modify same := by
    rintro rfl
    rw [same.elim id modifier_eq_of_beq]
  join same each := by
    rw [List.forall₂_eq_eq_eq] at each
    rw [same.elim id operator_eq_of_beq, each]
  require := by
    rintro _ _ _ _ rfl rfl
    rfl

/-- Queries are equal if they compare as equal. -/
theorem query_eq_of_beq {q q' : Query R} (equal : (q == q') = true) : q = q' :=
  congruence_eq.of_beq q q' equal

end Lawful

/-! ## Scalars that compare the same in either order -/

section Symmetric

variable [PartialEquivBEq R]

lemma option_beq_symm {x y : Option R} (equal : (x == y) = true) : (y == x) = true := by
  cases x <;> cases y <;> simp_all [BEq.comm]

lemma scalars_beq_symm {xs ys : List R} (equal : (xs == ys) = true) : (ys == xs) = true := by
  induction xs generalizing ys with
  | nil =>
    cases ys with
    | nil => rfl
    | cons => cases equal
  | cons x xs ih =>
    cases ys with
    | nil => cases equal
    | cons y ys =>
      obtain ⟨first, rest⟩ := (Bool.and_eq_true _ _).mp equal
      exact (Bool.and_eq_true _ _).mpr ⟨BEq.symm first, ih rest⟩

lemma leaf_beq_symm {l k : Leaf R} (equal : (l == k) = true) : (k == l) = true := by
  change Leaf.beq l k = true at equal
  change Leaf.beq k l = true
  cases l <;> cases k <;> simp_all [Leaf.beq, BEq.comm]

lemma model_beq_symm {x y : Model R} (equal : (x == y) = true) : (y == x) = true := by
  change Model.beq x y = true at equal
  change Model.beq y x = true
  cases x <;> cases y <;> simp_all [Model.beq, option_beq_symm]

lemma modifier_beq_symm {m n : Modifier R} (equal : (m == n) = true) : (n == m) = true := by
  change Modifier.beq m n = true at equal
  change Modifier.beq n m = true
  cases m <;> cases n <;> simp_all [Modifier.beq, model_beq_symm, BEq.comm]

lemma operator_beq_symm {o p : Operator R} (equal : (o == p) = true) : (p == o) = true := by
  change Operator.beq o p = true at equal
  change Operator.beq p o = true
  cases o <;> cases p <;> simp_all [Operator.beq, scalars_beq_symm]

end Symmetric

mutual

/-- It does not matter in which order queries are compared. -/
theorem query_beq_symm [PartialEquivBEq R] :
    (q q' : Query R) → (q == q') = true → (q' == q) = true
  | .leaf _, .leaf _, equal => leaf_beq_symm equal
  | .modify _ c, .modify _ d, equal => by
    obtain ⟨same, inner⟩ := (Bool.and_eq_true _ _).mp equal
    exact (Bool.and_eq_true _ _).mpr ⟨modifier_beq_symm same, query_beq_symm c d inner⟩
  | .join _ cs, .join _ ds, equal => by
    obtain ⟨same, inner⟩ := (Bool.and_eq_true _ _).mp equal
    exact (Bool.and_eq_true _ _).mpr ⟨operator_beq_symm same, queries_beq_symm cs ds inner⟩
  | .require c v, .require d w, equal => by
    obtain ⟨cond, value⟩ := (Bool.and_eq_true _ _).mp equal
    exact (Bool.and_eq_true _ _).mpr ⟨query_beq_symm c d cond, query_beq_symm v w value⟩

theorem queries_beq_symm [PartialEquivBEq R] :
    (cs ds : List (Query R)) → beqAll cs ds = true → beqAll ds cs = true
  | [], [], _ => rfl
  | c :: cs, d :: ds, equal => by
    obtain ⟨first, rest⟩ := (Bool.and_eq_true _ _).mp equal
    exact (Bool.and_eq_true _ _).mpr ⟨query_beq_symm c d first, queries_beq_symm cs ds rest⟩

end

lemma beq_eq_false_symm [PartialEquivBEq R] {q q' : Query R} (other : (q == q') = false) :
    (q' == q) = false := by
  rw [← Bool.not_eq_true] at other ⊢
  exact fun equal => other (query_beq_symm q' q equal)

end Query

end Retrieval
