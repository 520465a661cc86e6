import Retrieval.Proofs.Query.Equality
import Retrieval.Proofs.Query.Everywhere

/-!
# Weighted sums

The rules for weights follow from four laws of weighted sums (`Query.SumLaws`): a weight is a sum
with one summand, an inner sum may be put in its place with its weights scaled, it does not matter
from which side weights are scaled, and the weights of equal summands may be added. A congruence
with these laws relates a query to what the rules for weights make of it
(`Query.SumLaws.weightPass`), provided that its sums have one weight for each child.
-/

namespace Retrieval

namespace Query

variable {R : Type}

/-! ## One weight for each child -/

/-- A weighted sum has one weight for each child. -/
def IsEven (q : Query R) : Prop := ∀ ws cs, q = .join (.combine ws) cs → cs.length = ws.length

/-- Every weighted sum has one weight for each child, whatever is needed of the query. -/
def Even (need : Need) : Query R → Prop := Everywhere (fun _ => IsEven) need

mutual

/-- A query whose weights are checked is even. -/
theorem even_of_checkWeights {need : Need} : (q : Query R) → q.checkWeights = .ok () → q.Even need
  | .leaf l, _ => .leaf nofun
  | .modify m c, checked => .modify nofun (even_of_checkWeights c checked)
  | .join op cs, checked => by
    cases op with
    | combine ws =>
      rw [checkWeights] at checked
      split at checked
      · next same =>
        refine .join ?_ (even_of_checkWeightsAll cs checked)
        rintro _ _ ⟨rfl, rfl⟩
        exact same
      · cases checked
    | _ => exact .join nofun (even_of_checkWeightsAll cs checked)
  | .require c v, checked => by
    obtain ⟨_, cond, value⟩ := bind_eq_ok checked
    exact .require nofun (even_of_checkWeights c cond) (even_of_checkWeights v value)

theorem even_of_checkWeightsAll {need : Need} :
    (cs : List (Query R)) → checkWeightsAll cs = .ok () → ∀ c ∈ cs, c.Even need
  | [], _ => List.forall_mem_nil _
  | c :: cs, checked => by
    obtain ⟨_, first, rest⟩ := bind_eq_ok checked
    exact List.forall_mem_cons.mpr ⟨even_of_checkWeights c first, even_of_checkWeightsAll cs rest⟩

end

/-- Rewriting rules leave one weight for each child. -/
lemma even_lasting [Scalar R] : Lasting fun _ : Need => (IsEven : Query R → Prop) where
  weight := fun _ => nofun
  spread := fun {_ _ _ vs cs _} _ even same => by
    rintro _ _ ⟨rfl, rfl⟩
    rw [List.length_map, same, even vs cs rfl]
  combine := fun _ same => by
    rintro _ _ ⟨rfl, rfl⟩
    exact same
  decided := fun _ => ⟨nofun, nofun⟩
  junction := fun {_ _ _ j} _ _ => by cases j <;> exact nofun
  modify := fun _ => ⟨nofun, nofun⟩
  join := fun {_ op cs _} even same => by
    rintro ws _ ⟨rfl, rfl⟩
    exact same.trans (even ws cs rfl)
  require := fun _ => nofun

/-! ## Laws of weighted sums -/

/-- The weighted sum of queries with their weights. -/
def sumOf (ps : List (Query R × R)) : Query R := .join (.combine (ps.map Prod.snd)) (ps.map Prod.fst)

lemma combine_eq_sumOf {ws : List R} {cs : List (Query R)} (even : cs.length = ws.length) :
    .join (.combine ws) cs = sumOf (cs.zip ws) := by
  rw [sumOf, List.map_fst_zip (Nat.le_of_eq even), List.map_snd_zip (Nat.le_of_eq even.symm)]

lemma map_zip_right (cs : List (Query R)) (ws : List R) (f : R → R) :
    (cs.zip ws).map (fun p => (p.1, f p.2)) = cs.zip (ws.map f) := by
  rw [List.zip_map_right]
  rfl

/-- A sum whose weights are changed. -/
lemma sumOf_scaled {ws : List R} {cs : List (Query R)} (even : cs.length = ws.length) (f : R → R) :
    sumOf ((cs.zip ws).map fun p => (p.1, f p.2)) = .join (.combine (ws.map f)) cs := by
  rw [map_zip_right, ← combine_eq_sumOf]
  rw [even, List.length_map]

variable [Scalar R]

/-- A congruence with the laws of weighted sums. -/
structure SumLaws (Same : Query R → Query R → Prop) : Prop extends Congruence Same where
  single : ∀ (w : R) (c : Query R), Same (weighted w c) (sumOf [(c, w)])
  nest : ∀ (ps qs rs : List (Query R × R)) (w : R), Same (sumOf (ps ++ (sumOf rs, w) :: qs))
    (sumOf (ps ++ ((rs.map fun r => (r.1, w * r.2)) ++ qs)))
  swap : ∀ (rs : List (Query R × R)) (w : R),
    Same (sumOf (rs.map fun r => (r.1, w * r.2))) (sumOf (rs.map fun r => (r.1, r.2 * w)))
  merge : ∀ (ps qs rs : List (Query R × R)) (c : Query R) (u w : R),
    Same (sumOf (ps ++ (c, u) :: (qs ++ (c, w) :: rs))) (sumOf (ps ++ (c, u + w) :: (qs ++ rs)))

namespace SumLaws

variable {Same : Query R → Query R → Prop} (laws : SumLaws Same)

include laws

/-- Sums with the same weights are related if their summands are. -/
lemma sumOf_congr {ps qs : List (Query R × R)}
    (each : List.Forall₂ (fun p q => Same p.1 q.1 ∧ p.2 = q.2) ps qs) :
    Same (sumOf ps) (sumOf qs) := by
  have weights : ps.map Prod.snd = qs.map Prod.snd := by
    rw [← List.forall₂_eq_eq_eq, List.forall₂_map_left_iff, List.forall₂_map_right_iff]
    exact each.imp fun _ _ => And.right
  refine laws.join (.inl (congrArg Operator.combine weights)) ?_
  rw [List.forall₂_map_left_iff, List.forall₂_map_right_iff]
  exact each.imp fun _ _ => And.left

lemma same_refl (ps : List (Query R × R)) :
    List.Forall₂ (fun p q => Same p.1 q.1 ∧ p.2 = q.2) ps ps :=
  List.forall₂_same.mpr fun p _ => ⟨laws.refl p.1, rfl⟩

/-- One summand may be replaced by a related one. -/
lemma replace (ps qs : List (Query R × R)) (w : R) {c d : Query R} (same : Same c d) :
    Same (sumOf (ps ++ (c, w) :: qs)) (sumOf (ps ++ (d, w) :: qs)) :=
  laws.sumOf_congr (List.rel_append (laws.same_refl ps) (.cons ⟨same, rfl⟩ (laws.same_refl qs)))

/-- A weight inside a sum may be multiplied with the weight that it has there. -/
lemma weighted_summand (ps qs : List (Query R × R)) (w v : R) (c : Query R) :
    Same (sumOf (ps ++ (weighted v c, w) :: qs)) (sumOf (ps ++ (c, w * v) :: qs)) := by
  have nested := laws.nest ps qs [(c, v)] w
  rw [List.map_cons, List.map_nil, List.singleton_append] at nested
  exact laws.trans (laws.replace ps qs w (laws.single v c)) nested

/-- A sum inside a sum may be replaced by its summands, or by related ones. -/
lemma sum_summand (ps qs : List (Query R × R)) (w : R) {vs : List R} {inner inner' : List (Query R)}
    (even : inner.length = vs.length) (same : List.Forall₂ Same inner inner') :
    Same (sumOf (ps ++ (.join (.combine vs) inner, w) :: qs))
      (sumOf (ps ++ (inner'.zip (vs.map (w * ·)) ++ qs))) := by
  have nested := laws.nest ps qs (inner.zip vs) w
  rw [← combine_eq_sumOf even, map_zip_right] at nested
  refine laws.trans nested (laws.sumOf_congr ?_)
  have weights : List.Forall₂ (· = ·) (vs.map (w * ·)) (vs.map (w * ·)) := List.forall₂_refl _
  exact List.rel_append (laws.same_refl ps)
    (List.rel_append (forall₂_zip_zip same weights) (laws.same_refl qs))

/-- A weight over a weight is the product of both. -/
lemma weighted_weighted (w v : R) (c : Query R) :
    Same (weighted w (weighted v c)) (weighted (w * v) c) :=
  laws.trans (laws.single w _)
    (laws.trans (laws.weighted_summand [] [] w v c) (laws.symm (laws.single _ c)))

/-- A weight over a sum may be given to its summands. -/
lemma weighted_sumOf (w : R) (rs : List (Query R × R)) :
    Same (weighted w (sumOf rs)) (sumOf (rs.map fun r => (r.1, r.2 * w))) := by
  have nested := laws.nest [] [] rs w
  rw [List.nil_append, List.nil_append, List.append_nil] at nested
  exact laws.trans (laws.single w _) (laws.trans nested (laws.swap rs w))

/-! ## Merging equal summands -/

/-- Adding a summand to others in front of the rest comes to the same as putting it behind them. -/
lemma addSummand {key value : Query R} (w : R) (keyed : Same key value)
    (merged : List (Query R × Query R × R)) (known : ∀ p ∈ merged, Same p.1 p.2.1)
    (ps rest : List (Query R × R)) :
    Same (sumOf (ps ++ (merged.map Prod.snd ++ (value, w) :: rest)))
      (sumOf (ps ++ ((Query.addSummand key value w merged).map Prod.snd ++ rest))) := by
  induction merged generalizing ps with
  | nil => exact laws.refl _
  | cons p merged ih =>
    obtain ⟨k, v, u⟩ := p
    obtain ⟨first, more⟩ := List.forall_mem_cons.mp known
    rw [Query.addSummand]
    split
    · next equal =>
      have same : Same value v :=
        laws.trans (laws.symm keyed) (laws.trans (laws.symm (laws.of_beq k key equal)) first)
      have replaced := laws.replace (ps ++ (v, u) :: merged.map Prod.snd) rest w same
      simp only [List.append_assoc, List.cons_append] at replaced
      exact laws.trans replaced (laws.merge ps _ rest v u w)
    · have moved := ih more (ps ++ [(v, u)])
      rwa [List.append_assoc, List.append_assoc] at moved

/-- Merging summands one after the other comes to the same as putting them behind each other. -/
lemma foldl_addSummand (ts : List ((Query R × Query R) × R)) (keyed : ∀ t ∈ ts, Same t.1.1 t.1.2)
    (merged : List (Query R × Query R × R)) (known : ∀ p ∈ merged, Same p.1 p.2.1) :
    Same (sumOf (merged.map Prod.snd ++ ts.map fun t => (t.1.2, t.2)))
      (sumOf ((ts.foldl (fun merged t => Query.addSummand t.1.1 t.1.2 t.2 merged) merged).map
        Prod.snd)) := by
  induction ts generalizing merged with
  | nil =>
    rw [List.map_nil, List.append_nil]
    exact laws.refl _
  | cons t ts ih =>
    obtain ⟨first, rest⟩ := List.forall_mem_cons.mp keyed
    refine laws.trans (laws.addSummand t.2 first merged known [] _) (ih rest _ fun p mem => ?_)
    rcases mem_addSummand mem with ⟨key, value⟩ | ⟨q, mem, key, value⟩
    · exact key ▸ value ▸ first
    · exact key ▸ value ▸ known q mem

/-- Summands that stand for related ones may be merged where these are equal. -/
lemma mergeSummands {keys values : List (Query R)} {ws : List R}
    (keyed : List.Forall₂ Same keys values) (even : keys.length = ws.length) :
    Same (.join (.combine ws) keys)
      (sumOf ((Query.mergeSummands keys values ws).map Prod.snd)) := by
  have first := laws.join (.inl (Eq.refl (Operator.combine ws))) keyed
  have merged := laws.foldl_addSummand ((keys.zip values).zip ws)
    (fun t mem => List.forall₂_zip keyed (List.of_mem_zip mem).1) [] (List.forall_mem_nil _)
  have values_eq : ((keys.zip values).zip ws).map (fun t => (t.1.2, t.2)) = values.zip ws := by
    have snd : (keys.zip values).map Prod.snd = values :=
      List.map_snd_zip (Nat.le_of_eq keyed.length_eq.symm)
    conv_rhs => rw [← snd, List.zip_map_left]
    rfl
  rw [List.map_nil, List.nil_append, values_eq, ← combine_eq_sumOf] at merged
  · exact laws.trans first merged
  · rw [← keyed.length_eq, even]

/-! ## The rules for weights -/

/-- The rules for weights make of a query a related one. -/
theorem weightPass_all :
    (∀ (q : Query R) {need}, q.Even need → Same q q.weightPass.value) ∧
      (∀ (cs : List (Query R)) (ws : List R), (∀ c ∈ cs, c.Even .scores) →
        cs.length = ws.length →
          ∀ ps, Same (sumOf (ps ++ cs.zip ws)) (sumOf (ps ++ flattened cs ws))) ∧
      ∀ (cs : List (Query R)) {need}, (∀ c ∈ cs, c.Even need) →
        List.Forall₂ Same cs (weightPassAll cs).value := by
  refine weightPass.mutual_induct _ _ _ ?_ ?_ ?_ ?_ ?_ ?_ ?_ ?_ ?_ ?_ ?_ ?_ ?_ ?_ ?_
  -- a weight over a weight
  · intro w v c ih need even
    cases even with
    | modify _ even =>
      cases even with
      | modify _ even =>
        rw [Query.weightPass]
        exact laws.trans (laws.weighted_weighted w v c) (laws.modify (.inl rfl) (ih even))
  -- a weight over a weighted sum
  · intro w vs cs ih need even
    cases even with
    | modify _ even =>
      cases even with
      | join here inner =>
        rw [Query.weightPass]
        have scaled := laws.weighted_sumOf w (cs.zip vs)
        rw [sumOf_scaled (here vs cs rfl) (· * w), ← combine_eq_sumOf (here vs cs rfl)] at scaled
        exact laws.trans scaled (laws.join (.inl rfl) (ih inner))
  -- sums: with equal summands, with weighted or nested ones, and plain ones
  · intro ws cs repeats ih need even
    cases even with
    | join here inner =>
      rw [Query.weightPass, if_pos repeats]
      have merged := laws.mergeSummands (ih inner) (here ws cs rfl)
      rw [sumOf, List.map_map, List.map_map] at merged
      exact merged
  · intro ws cs distinct weighted ih need even
    cases even with
    | join here inner =>
      rw [Query.weightPass, if_neg distinct, if_pos weighted, combine_eq_sumOf (here ws cs rfl)]
      exact ih inner (here ws cs rfl) []
  · intro ws cs distinct plain ih need even
    cases even with
    | join here inner =>
      rw [Query.weightPass, if_neg distinct, if_neg plain]
      exact laws.join (.inl rfl) (ih inner)
  -- nodes that no rule is for
  · intro l need even
    rw [Query.weightPass]
    exact laws.refl _
  · intro m c other other' ih need even
    cases even with
    | modify _ inner =>
      rw [Query.weightPass]
      · exact laws.modify (.inl rfl) (ih inner)
      · exact other
      · exact other'
  · intro op cs other ih need even
    cases even with
    | join _ inner =>
      rw [Query.weightPass]
      · exact laws.join (.inl rfl) (ih inner)
      · exact other
  · intro c v ihc ihv need even
    cases even with
    | require _ cond value =>
      rw [Query.weightPass]
      exact laws.require (ihc cond) (ihv value)
  -- summands: a nested sum, a weighted one, any other, and none
  · intro vs inner cs w ws ihInner ih each length ps
    obtain ⟨first, rest⟩ := List.forall_mem_cons.mp each
    rw [flattened]
    cases first with
    | join here each =>
      have moved := ih rest (Nat.succ.inj length)
        (ps ++ (weightPassAll inner).value.zip (vs.map (w * ·)))
      rw [List.append_assoc, List.append_assoc] at moved
      exact laws.trans (laws.sum_summand ps _ w (here vs inner rfl) (ihInner each)) moved
  · intro v c cs w ws ihc ih each length ps
    obtain ⟨first, rest⟩ := List.forall_mem_cons.mp each
    rw [flattened]
    cases first with
    | modify _ inner =>
      have moved := ih rest (Nat.succ.inj length) (ps ++ [((Query.weightPass c).value, w * v)])
      rw [List.append_assoc, List.append_assoc] at moved
      refine laws.trans (laws.weighted_summand ps _ w v c) (laws.trans ?_ moved)
      exact laws.replace ps _ _ (ihc inner)
  · intro c cs w ws other other' ihc ih each length ps
    obtain ⟨first, rest⟩ := List.forall_mem_cons.mp each
    rw [flattened]
    · have moved := ih rest (Nat.succ.inj length) (ps ++ [((Query.weightPass c).value, w)])
      rw [List.append_assoc, List.append_assoc] at moved
      exact laws.trans (laws.replace ps _ w (ihc first)) moved
    · exact other
    · exact other'
  · intro cs ws _ _ other each length ps
    cases cs with
    | nil =>
      cases ws with
      | nil =>
        rw [flattened]
        · exact laws.refl _
        all_goals
          intros
          contradiction
      | cons => cases length
    | cons c cs =>
      cases ws with
      | nil => cases length
      | cons w ws => exact absurd rfl (other c cs w ws rfl)
  -- lists of members
  · intro need _
    rw [weightPassAll]
    exact .nil
  · intro c cs ihc ih need each
    obtain ⟨first, rest⟩ := List.forall_mem_cons.mp each
    rw [weightPassAll]
    exact .cons (ihc first) (ih rest)

theorem weightPass {need : Need} {q : Query R} (even : q.Even need) :
    Same q q.weightPass.value := laws.weightPass_all.1 q even

end SumLaws

end Query

end Retrieval
