import Retrieval.Environment
import Retrieval.Evaluation.Session
import Retrieval.Scorer
import Retrieval.Proofs.Query.Typing
import Retrieval.Proofs.Scalar.Partial

/-!
# What scorers divide by and take logarithms of

In exact arithmetic, with the parameters of a valid environment and the statistics of a field that
has a token, no scorer fails on a count that is positive, and Dirichlet smoothing fails on none. For
a count of zero there is no BM25 score where `k` is zero, or where `b` is one and the document has
no token in the field, and no score by absolute discounting where `delta` is zero and the document
has one (`Environment.isFinite_score_iff`): a term that a document lacks gets no mass there.
-/

namespace Retrieval

open Partial

variable {K : Type} [DivisionRing K] [LinearOrder K] [ToString K] {log : K → K}

/-- A scalar between zero and one is a number. -/
lemma Partial.isUnit_iff {limit : Option K} {x : Partial K log limit} :
    Environment.isUnit x = true ↔ ∃ v, x = exact v ∧ 0 ≤ v ∧ v ≤ 1 := by
  rw [Environment.isUnit, zero_eq, one_eq]
  cases x with
  | exact v =>
    change (decide (0 ≤ v) && decide (v ≤ 1)) = true ↔ _
    simp
  | diverged => exact ⟨nofun, nofun⟩

/-- The parameters that a valid environment has for models. -/
structure Environment.Parameters (e : Environment (Partial K log none)) (mu b k delta : K) :
    Prop where
  mu_eq : e.dirichletMu = exact mu
  mu_pos : 0 < mu
  b_eq : e.bm25B = exact b
  b_nonneg : 0 ≤ b
  b_le : b ≤ 1
  k_eq : e.bm25K = exact k
  k_nonneg : 0 ≤ k
  delta_eq : e.absoluteDiscountingDelta = exact delta
  delta_nonneg : 0 ≤ delta

lemma Environment.exists_parameters {e : Environment (Partial K log none)}
    (valid : e.validate = .ok ()) : ∃ mu b k delta, e.Parameters mu b k delta := by
  rw [validate, zero_eq] at valid
  split at valid
  · cases valid
  split at valid
  · cases valid
  next positive =>
  split at valid
  · cases valid
  next unit =>
  split at valid
  · cases valid
  next nonneg =>
  split at valid
  · cases valid
  next unit' =>
  clear valid
  simp only [Bool.not_eq_true', Bool.not_eq_false, Bool.and_eq_true] at positive unit nonneg unit'
  obtain ⟨mu, mu_eq⟩ := isFinite_iff.mp positive.1
  obtain ⟨b, b_eq, b_nonneg, b_le⟩ := isUnit_iff.mp unit
  obtain ⟨k, k_eq⟩ := isFinite_iff.mp nonneg.1
  obtain ⟨delta, delta_eq, delta_nonneg, _⟩ := isUnit_iff.mp unit'
  rw [mu_eq] at positive
  rw [k_eq] at nonneg
  exact ⟨mu, b, k, delta, mu_eq, of_decide_eq_true positive.2, b_eq, b_nonneg, b_le, k_eq,
    of_decide_eq_true nonneg.2, delta_eq, delta_nonneg⟩

namespace Scorer

variable [IsStrictOrderedRing K] {stats : Statistics} {mu b k delta : K}

/-! ## Formulas -/

omit [ToString K] in
lemma one_half_positive : (0 : K) < 1 / 2 := div_pos one_pos two_pos

variable (log) (count length : Nat)

/-- The argument of the logarithm in the inverse document frequency. -/
lemma rarity_pos (docs : 0 < stats.dc) :
    ∃ x, 0 < x ∧ (rarity stats : Partial K log none) = exact x := by
  have dc : (0 : K) < stats.dc := Nat.cast_pos.mpr docs
  have below : (0 : K) < stats.df + 1 / 2 :=
    add_pos_of_nonneg_of_pos (Nat.cast_nonneg stats.df) one_half_positive
  refine ⟨stats.dc / (stats.df + 1 / 2), div_pos dc below, ?_⟩
  rw [rarity, ofNat_eq, ofNat_eq, half_eq, exact_add, exact_div below.ne']

lemma averageLength_pos (tokens : 0 < stats.cl) (docs : 0 < stats.dc) :
    ∃ x, 0 < x ∧ (stats.averageLength : Partial K log none) = exact x := by
  have cl : (0 : K) < stats.cl := Nat.cast_pos.mpr tokens
  have dc : (0 : K) < stats.dc := Nat.cast_pos.mpr docs
  refine ⟨stats.cl / stats.dc, div_pos cl dc, ?_⟩
  rw [Statistics.averageLength, ofNat_eq, ofNat_eq, exact_div dc.ne']

lemma probability_pos (tokens : 0 < stats.cl) :
    ∃ x, 0 < x ∧ (stats.probability : Partial K log none) = exact x := by
  have cl : (0 : K) < stats.cl := Nat.cast_pos.mpr tokens
  have mass : (0 : K) < max (stats.cf : K) (1 / 2) := lt_max_of_lt_right one_half_positive
  refine ⟨max (stats.cf : K) (1 / 2) / stats.cl, div_pos mass cl, ?_⟩
  rw [Statistics.probability, ofNat_eq, ofNat_eq, half_eq, larger_eq, exact_div cl.ne']

/-- Documents are not normalised away, but for those without a token where only the length counts.
-/
lemma lengthNorm_nonneg (tokens : 0 < stats.cl) (docs : 0 < stats.dc) (b_nonneg : 0 ≤ b)
    (b_le : b ≤ 1) : ∃ x, 0 ≤ x ∧ lengthNorm (exact b : Partial K log none) stats length = exact x ∧
      (x = 0 ↔ b = 1 ∧ length = 0) := by
  obtain ⟨average, pos, average_eq⟩ := averageLength_pos log tokens docs
  have ratio : (0 : K) ≤ length / average := div_nonneg (Nat.cast_nonneg length) pos.le
  have share : 0 ≤ 1 - b := sub_nonneg.mpr b_le
  have product := mul_nonneg b_nonneg ratio
  refine ⟨1 - b + b * (length / average), add_nonneg share product, ?_, ?_⟩
  · rw [lengthNorm, average_eq, one_eq, ofNat_eq, exact_div pos.ne', exact_sub, exact_mul,
      exact_add]
  · rw [add_eq_zero_iff_of_nonneg share product, sub_eq_zero, eq_comm (b := b)]
    refine and_congr_right fun one => ?_
    rw [one, one_mul, div_eq_zero_iff, or_iff_left pos.ne', Nat.cast_eq_zero]

/-- The denominator of the saturated frequency. -/
lemma saturation_nonneg (tokens : 0 < stats.cl) (docs : 0 < stats.dc) (b_nonneg : 0 ≤ b)
    (b_le : b ≤ 1) (k_nonneg : 0 ≤ k) :
    ∃ x, 0 ≤ x ∧ saturation (exact b) (exact k : Partial K log none) stats count length = exact x ∧
      (x = 0 ↔ count = 0 ∧ (k = 0 ∨ b = 1 ∧ length = 0)) := by
  obtain ⟨norm, nonneg, norm_eq, zero_iff⟩ :=
    lengthNorm_nonneg log length tokens docs b_nonneg b_le
  have counted : (0 : K) ≤ count := Nat.cast_nonneg count
  have product := mul_nonneg k_nonneg nonneg
  refine ⟨count + k * norm, add_nonneg counted product, ?_, ?_⟩
  · rw [saturation, norm_eq, ofNat_eq, exact_mul, exact_add]
  · rw [add_eq_zero_iff_of_nonneg counted product, Nat.cast_eq_zero, mul_eq_zero, zero_iff]

/-- The argument of the logarithm in Dirichlet smoothing. -/
lemma smoothed_pos (tokens : 0 < stats.cl) (mu_pos : 0 < mu) :
    ∃ x, 0 < x ∧ smoothed (exact mu : Partial K log none) stats count length = exact x := by
  obtain ⟨share, pos, share_eq⟩ := probability_pos log tokens
  have mass : (0 : K) < count + mu * share :=
    add_pos_of_nonneg_of_pos (Nat.cast_nonneg count) (mul_pos mu_pos pos)
  have size : (0 : K) < length + mu := add_pos_of_nonneg_of_pos (Nat.cast_nonneg length) mu_pos
  refine ⟨(count + mu * share) / (length + mu), div_pos mass size, ?_⟩
  rw [smoothed, priorMass, share_eq, ofNat_eq, ofNat_eq, exact_mul, exact_add, exact_add,
    exact_div size.ne']

/-- The argument of the logarithm in absolute discounting. -/
lemma discounted_nonneg (tokens : 0 < stats.cl) (delta_nonneg : 0 ≤ delta) :
    ∃ x, 0 ≤ x ∧ discounted (exact delta : Partial K log none) stats count length = exact x ∧
      (x = 0 ↔ delta = 0 ∧ count = 0 ∧ 0 < length) := by
  obtain ⟨share, pos, share_eq⟩ := probability_pos log tokens
  obtain rfl | some_ := Nat.eq_zero_or_pos length
  · refine ⟨share, pos.le, ?_, ?_⟩
    · rw [discounted, if_pos rfl, share_eq]
    · exact iff_of_false pos.ne' fun h => Nat.lt_irrefl 0 h.2.2
  · have size : (0 : K) < length := Nat.cast_pos.mpr some_
    have kept : 0 ≤ max (count - delta) 0 := le_max_right ..
    have given : 0 ≤ delta * length * share := mul_nonneg (mul_nonneg delta_nonneg size.le) pos.le
    refine ⟨(max (count - delta) 0 + delta * length * share) / length,
      div_nonneg (add_nonneg kept given) size.le, ?_, ?_⟩
    · rw [discounted, if_neg some_.ne', share_eq, ofNat_eq, ofNat_eq, zero_eq, exact_sub, larger_eq,
        exact_mul, exact_mul, exact_add, exact_div size.ne']
    · rw [div_eq_zero_iff, or_iff_left size.ne', add_eq_zero_iff_of_nonneg kept given, mul_eq_zero,
        mul_eq_zero, or_iff_left size.ne', or_iff_left pos.ne', max_eq_right_iff, and_comm]
      refine and_congr_right fun none => ?_
      rw [none, sub_zero, and_iff_left some_]
      exact_mod_cast Nat.le_zero

end Scorer

/-! ## Scores -/

/-- All parameters of the model are left open. -/
def Model.IsOpen {R : Type} : Model R → Prop
  | .dirichlet mu => mu = none
  | .absoluteDiscounting delta => delta = none
  | .bm25 b k => b = none ∧ k = none

namespace Environment

/-- The scorer of a model that leaves its parameters to the environment. -/
def scorerFor {R : Type} (e : Environment R) (stats : Statistics) : Model R → Scorer R
  | .dirichlet _ => .dirichlet e.dirichletMu stats
  | .absoluteDiscounting _ => .absoluteDiscounting e.absoluteDiscountingDelta stats
  | .bm25 _ _ => .bm25 e.bm25B e.bm25K stats

lemma scorer_fillModel {R : Type} [Scalar R] (e : Environment R) (q : Query R) (stats : Statistics)
    {m : Model R} (isOpen : m.IsOpen) :
    Session.scorer q (e.fillModel m) (some stats) = .ok (e.scorerFor stats m) := by
  cases m with
  | dirichlet mu =>
    cases isOpen
    rfl
  | absoluteDiscounting delta =>
    cases isOpen
    rfl
  | bm25 b k =>
    obtain ⟨rfl, rfl⟩ := isOpen
    rfl

/-- The model gives no mass to a term that a document of this length lacks. -/
inductive Unsmoothed (e : Environment (Partial K log none)) :
    Model (Partial K log none) → Nat → Prop where
  | bm25K {b k} {length : Nat} :
    e.bm25K = exact 0 →
    Unsmoothed e (.bm25 b k) length
  | bm25B {b k} :
    e.bm25B = exact 1 →
    Unsmoothed e (.bm25 b k) 0
  | absoluteDiscounting {delta} {length : Nat} :
    e.absoluteDiscountingDelta = exact 0 →
    0 < length →
    Unsmoothed e (.absoluteDiscounting delta) length

section Parameters

omit [ToString K]

variable {e : Environment (Partial K log none)} {mu b k delta : K} {length : Nat}

lemma Parameters.unsmoothed_bm25 (h : e.Parameters mu b k delta)
    (b' k' : Option (Partial K log none)) :
    e.Unsmoothed (.bm25 b' k') length ↔ k = 0 ∨ b = 1 ∧ length = 0 := by
  constructor
  · intro unsmoothed
    cases unsmoothed with
    | bm25K zero => exact .inl (exact.inj (h.k_eq.symm.trans zero))
    | bm25B one => exact .inr ⟨exact.inj (h.b_eq.symm.trans one), rfl⟩
  · rintro (rfl | ⟨rfl, rfl⟩)
    · exact .bm25K h.k_eq
    · exact .bm25B h.b_eq

lemma Parameters.unsmoothed_absoluteDiscounting (h : e.Parameters mu b k delta)
    (delta' : Option (Partial K log none)) :
    e.Unsmoothed (.absoluteDiscounting delta') length ↔ delta = 0 ∧ 0 < length := by
  constructor
  · intro unsmoothed
    cases unsmoothed with
    | absoluteDiscounting zero some_ => exact ⟨exact.inj (h.delta_eq.symm.trans zero), some_⟩
  · rintro ⟨rfl, some_⟩
    exact .absoluteDiscounting h.delta_eq some_

end Parameters

variable [IsStrictOrderedRing K] {e : Environment (Partial K log none)} {stats : Statistics}

/-- What is divided by and what logarithms are taken of, with the parameters of a valid environment
and the statistics of a field that has a token. It is positive, but for a term that the document
lacks and gets no mass for. -/
theorem guarded (count length : Nat) (valid : e.validate = .ok ()) (tokens : 0 < stats.cl)
    (docs : 0 < stats.dc) :
    (∃ x, 0 < x ∧ (Scorer.rarity stats : Partial K log none) = exact x) ∧
    (∃ x, 0 ≤ x ∧ Scorer.saturation e.bm25B e.bm25K stats count length = exact x ∧
      (x = 0 ↔ count = 0 ∧ e.Unsmoothed (.bm25 none none) length)) ∧
    (∃ x, 0 < x ∧ Scorer.smoothed e.dirichletMu stats count length = exact x) ∧
    ∃ x, 0 ≤ x ∧ Scorer.discounted e.absoluteDiscountingDelta stats count length = exact x ∧
      (x = 0 ↔ count = 0 ∧ e.Unsmoothed (.absoluteDiscounting none) length) := by
  obtain ⟨mu, b, k, delta, h⟩ := exists_parameters valid
  rw [h.unsmoothed_bm25, h.unsmoothed_absoluteDiscounting, h.b_eq, h.k_eq, h.mu_eq, h.delta_eq]
  refine ⟨Scorer.rarity_pos log docs,
    Scorer.saturation_nonneg log count length tokens docs h.b_nonneg h.b_le h.k_nonneg,
    Scorer.smoothed_pos log count length tokens h.mu_pos, ?_⟩
  obtain ⟨x, nonneg, discounted_eq, zero_iff⟩ := Scorer.discounted_nonneg log count length
    tokens h.delta_nonneg
  exact ⟨x, nonneg, discounted_eq, zero_iff.trans and_left_comm⟩

/-- With the parameters of a valid environment and the statistics of a field that has a token, there
is a score for every count, unless the model gives no mass to an absent term. -/
theorem isFinite_score_iff (count length : Nat) (valid : e.validate = .ok ())
    (tokens : 0 < stats.cl) (docs : 0 < stats.dc) (m : Model (Partial K log none)) :
    Scalar.isFinite ((e.scorerFor stats m).score count length) = true ↔
      ¬ (count = 0 ∧ e.Unsmoothed m length) := by
  obtain ⟨mu, b, k, delta, h⟩ := exists_parameters valid
  obtain ⟨⟨rare, rare_pos, rarity_eq⟩, ⟨below, _, saturation_eq, below_zero⟩,
    ⟨smooth, smooth_pos, smoothed_eq⟩, ⟨rest, rest_nonneg, discounted_eq, rest_zero⟩⟩ :=
    guarded count length valid tokens docs
  cases m with
  | bm25 b' k' =>
    obtain ⟨v, idf_eq⟩ := isFinite_iff.mp (isFinite_log.mpr rare_pos)
    rw [h.unsmoothed_bm25, ← h.unsmoothed_bm25 none none, ← below_zero, scorerFor,
      Scorer.score, Scorer.bm25Score, Scorer.idf, rarity_eq, idf_eq, saturation_eq, h.k_eq, one_eq,
      ofNat_eq, exact_add, exact_mul]
    obtain rfl | ne := eq_or_ne below 0
    · rw [exact_div_zero]
      exact iff_of_false nofun (absurd rfl)
    · rw [exact_div ne, exact_mul]
      exact iff_of_true rfl ne
  | dirichlet mu' =>
    rw [scorerFor, Scorer.score, smoothed_eq]
    exact iff_of_true (isFinite_log.mpr smooth_pos) nofun
  | absoluteDiscounting delta' =>
    rw [h.unsmoothed_absoluteDiscounting, ← h.unsmoothed_absoluteDiscounting none,
      ← rest_zero, scorerFor, Scorer.score, discounted_eq, isFinite_log, rest_nonneg.lt_iff_ne']

end Environment

end Retrieval
