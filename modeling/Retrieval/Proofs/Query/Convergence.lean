import Retrieval.Proofs.Query.Sums
import Retrieval.Scalar.Binary64

/-!
# Convergence

A rule that fires makes the tree smaller, and a query on which none fires comes out as it is
(`Query.pass_shrinks`). A query of `n` nodes therefore settles after fewer than `n` passes that
change it, and simplification fails only if it may not make as many passes as that
(`Query.simplify_converges`).
-/

namespace Retrieval

/-! ## Rewriting that shrinks -/

namespace Simplified

variable {α β γ : Type} {sizeA : α → Nat} {sizeB : β → Nat} {sizeC : γ → Nat}

/-- What may become of `a`: nothing while no rule has fired, and something smaller once one has. -/
structure Shrinks (size : α → Nat) (a : α) (r : Simplified α) : Prop where
  kept : r.changed = false → r.value = a
  less : r.changed = true → size r.value < size a

namespace Shrinks

variable {a : α} {b : β} {r s : Simplified α} {t : Simplified β}

lemma refl (size : α → Nat) (a : α) : Shrinks size a ⟨a, false⟩ where
  kept _ := rfl
  less changed := absurd changed Bool.false_ne_true

lemma le (h : Shrinks sizeA a r) : sizeA r.value ≤ sizeA a := by
  cases e : r.changed with
  | false => exact Nat.le_of_eq (congrArg sizeA (h.kept e))
  | true => exact Nat.le_of_lt (h.less e)

/-- A rule has fired exactly if something has changed. -/
lemma changed_eq_false_iff (h : Shrinks sizeA a r) : r.changed = false ↔ r.value = a := by
  refine ⟨h.kept, fun same => ?_⟩
  rw [← Bool.not_eq_true]
  intro fired
  exact Nat.lt_irrefl _ (same ▸ h.less fired)

lemma shrunk {a' : α} (less : sizeA a' < sizeA a) : Shrinks sizeA a ⟨a', true⟩ where
  kept same := absurd same.symm Bool.false_ne_true
  less _ := less

lemma map {f : α → β} {extra : Nat} (grows : ∀ a, sizeB (f a) = sizeA a + extra)
    (h : Shrinks sizeA a r) : Shrinks sizeB (f a) (r.map f) where
  kept same := congrArg f (h.kept same)
  less changed := by
    have less := h.less changed
    rw [Simplified.map, grows, grows]
    omega

lemma map₂ {f : α → β → γ} {extra : Nat} (grows : ∀ a b, sizeC (f a b) = sizeA a + sizeB b + extra)
    (h : Shrinks sizeA a r) (h' : Shrinks sizeB b t) : Shrinks sizeC (f a b) (r.map₂ f t) where
  kept same := by
    obtain ⟨left, right⟩ := (Bool.or_eq_false_iff).mp same
    exact congrArg₂ f (h.kept left) (h'.kept right)
  less changed := by
    have le := h.le
    have le' := h'.le
    rw [Simplified.map₂, grows, grows]
    rcases (Bool.or_eq_true _ _).mp changed with left | right
    · have less := h.less left
      omega
    · have less := h'.less right
      omega

/-- One rewriting after another. -/
lemma trans (first : Shrinks sizeA a r) (second : Shrinks sizeA r.value s) :
    Shrinks sizeA a ⟨s.value, r.changed || s.changed⟩ where
  kept same := by
    obtain ⟨left, right⟩ := (Bool.or_eq_false_iff).mp same
    exact (second.kept right).trans (first.kept left)
  less changed := by
    rcases (Bool.or_eq_true _ _).mp changed with left | right
    · exact Nat.lt_of_le_of_lt second.le (first.less left)
    · exact Nat.lt_of_lt_of_le (second.less right) first.le

end Shrinks

end Simplified

open Simplified (Shrinks)

namespace Query

variable {R : Type}

/-! ## Sizes -/

lemma size_pos (q : Query R) : 1 ≤ q.size := by
  cases q <;> rw [size] <;> exact Nat.le_add_left 1 _

lemma sizeAll_append (cs ds : List (Query R)) : sizeAll (cs ++ ds) = sizeAll cs + sizeAll ds := by
  induction cs with
  | nil => rw [List.nil_append, sizeAll, Nat.zero_add]
  | cons c cs ih => rw [List.cons_append, sizeAll, sizeAll, ih, Nat.add_assoc]

/-- Each query that is left out makes a list smaller. -/
lemma sizeAll_sublist {cs ds : List (Query R)} (sub : cs.Sublist ds) :
    sizeAll cs + ds.length ≤ sizeAll ds + cs.length := by
  induction sub with
  | slnil => exact Nat.le_refl _
  | cons d _ ih =>
    have pos := size_pos d
    rw [sizeAll, List.length_cons]
    omega
  | cons_cons d _ ih =>
    rw [sizeAll, sizeAll, List.length_cons, List.length_cons]
    omega

lemma length_le_sizeAll (cs : List (Query R)) : cs.length ≤ sizeAll cs := by
  have sub := sizeAll_sublist (List.nil_sublist cs)
  rwa [sizeAll, Nat.zero_add, List.length_nil, Nat.add_zero] at sub

lemma size_modify (m : Modifier R) (c : Query R) : (modify m c).size = c.size + 1 := by rw [size]

lemma size_join (op : Operator R) (cs : List (Query R)) : (join op cs).size = sizeAll cs + 1 := by
  rw [size]

/-- The first query and the others are rewritten apart. -/
lemma shrinks_cons {c : Query R} {cs : List (Query R)} {r : Simplified (Query R)}
    {rs : Simplified (List (Query R))} (first : Shrinks size c r) (rest : Shrinks sizeAll cs rs) :
    Shrinks sizeAll (c :: cs) (r.map₂ List.cons rs) := by
  have grows : ∀ (c : Query R) cs, sizeAll (c :: cs) = size c + sizeAll cs + 0 := fun _ _ => rfl
  exact first.map₂ grows rest

variable [Scalar R]

/-! ## Merging equal summands -/

omit [Scalar R] in
/-- A zip leaves some of the left elements. -/
lemma map_fst_zip_sublist {α β : Type} (xs : List α) (ys : List β) :
    ((xs.zip ys).map (·.1)).Sublist xs := by
  induction xs generalizing ys with
  | nil => exact List.nil_sublist _
  | cons x xs ih =>
    cases ys with
    | nil => exact List.nil_sublist _
    | cons y ys => exact (ih ys).cons_cons x

lemma hasRepeats_eq_false {cs : List (Query R)} :
    hasRepeats cs = false ↔ cs.Pairwise fun a b => (a == b) = false := by
  induction cs with
  | nil => exact ⟨fun _ => .nil, fun _ => rfl⟩
  | cons c cs ih =>
    rw [hasRepeats, Bool.or_eq_false_iff, List.any_eq_false, ih, List.pairwise_cons]
    simp only [Bool.not_eq_true]

/-- A summand is added to an equal one, or it is put at the end. -/
lemma addSummand_cases (key value : Query R) (w : R) (merged : List (Query R × Query R × R)) :
    (addSummand key value w merged).map (·.2.1) = merged.map (·.2.1) ∨
      (∀ p ∈ merged, (p.1 == key) = false) ∧
        addSummand key value w merged = merged ++ [(key, value, w)] := by
  induction merged with
  | nil => exact .inr ⟨List.forall_mem_nil _, rfl⟩
  | cons p merged ih =>
    obtain ⟨k, v, u⟩ := p
    rw [addSummand]
    split
    · exact .inl rfl
    · next other =>
      rw [Bool.not_eq_true] at other
      rcases ih with same | ⟨new, appended⟩
      · exact .inl (congrArg (v :: ·) same)
      · exact .inr ⟨List.forall_mem_cons.mpr ⟨other, new⟩, congrArg ((k, v, u) :: ·) appended⟩

/-- Merging leaves some of the values, and all of them only if no two of the keys are equal. -/
lemma foldl_addSummand (ts : List ((Query R × Query R) × R))
    (merged : List (Query R × Query R × R)) {out : List (Query R × Query R × R)}
    (folded : ts.foldl (fun merged t => addSummand t.1.1 t.1.2 t.2 merged) merged = out) :
    (out.map (·.2.1)).Sublist (merged.map (·.2.1) ++ ts.map (·.1.2)) ∧
      (out.length = merged.length + ts.length →
        (∀ p ∈ merged, ∀ t ∈ ts, (p.1 == t.1.1) = false) ∧
          (ts.map (·.1.1)).Pairwise fun a b => (a == b) = false) := by
  induction ts generalizing merged with
  | nil =>
    cases folded
    rw [List.map_nil, List.append_nil]
    exact ⟨.refl _, fun _ => ⟨fun _ _ => List.forall_mem_nil _, .nil⟩⟩
  | cons t ts ih =>
    obtain ⟨sub, all⟩ := ih _ folded
    dsimp only at sub all
    rcases addSummand_cases t.1.1 t.1.2 t.2 merged with same | ⟨new, appended⟩
    · rw [same] at sub
      refine ⟨sub.trans ((List.sublist_cons_self _ _).append_left _), fun length => ?_⟩
      have short := sub.length_le
      rw [List.length_append, List.length_map, List.length_map, List.length_map] at short
      rw [List.length_cons] at length
      omega
    · rw [appended, List.map_append, List.append_assoc] at sub
      refine ⟨sub, fun length => ?_⟩
      rw [appended, List.length_append, List.length_singleton] at all
      rw [List.length_cons] at length
      obtain ⟨others, rest⟩ := all (by omega)
      obtain ⟨others, last⟩ := List.forall_mem_append.mp others
      refine ⟨fun p mem => List.forall_mem_cons.mpr ⟨new p mem, others p mem⟩, ?_⟩
      refine List.pairwise_cons.mpr ⟨fun k mem => ?_, rest⟩
      obtain ⟨t', mem', rfl⟩ := List.mem_map.mp mem
      exact last _ (List.mem_singleton_self _) t' mem'

/-- Where summands repeat, merging makes of them a smaller list. -/
lemma sizeAll_mergeSummands {keys values : List (Query R)} (ws : List R)
    (same : keys.length = values.length) (repeats : hasRepeats keys = true) :
    sizeAll ((mergeSummands keys values ws).map (·.2.1)) < sizeAll values := by
  obtain ⟨sub, all⟩ := foldl_addSummand ((keys.zip values).zip ws) [] rfl
  change ((mergeSummands keys values ws).map (·.2.1)).Sublist _ at sub
  change (mergeSummands keys values ws).length = _ → _ at all
  have some := map_fst_zip_sublist (keys.zip values) ws
  have values_eq : (keys.zip values).map Prod.snd = values :=
    List.map_snd_zip (Nat.le_of_eq same.symm)
  have keys_eq : (keys.zip values).map Prod.fst = keys := List.map_fst_zip (Nat.le_of_eq same)
  have within : ((mergeSummands keys values ws).map (·.2.1)).Sublist values := by
    have snd := some.map Prod.snd
    rw [values_eq, List.map_map] at snd
    exact sub.trans snd
  have short := within.length_le
  rcases Nat.lt_or_eq_of_le short with short | long
  · have smaller := sizeAll_sublist within
    omega
  · -- all summands are left only if no two of them are equal
    have most := sub.length_le
    have most' := some.length_le
    simp only [List.map_nil, List.nil_append, List.length_map, List.length_nil, Nat.zero_add,
      List.length_zip] at all long most most'
    have whole := some.eq_of_length (by simp only [List.length_map, List.length_zip]; omega)
    have firsts : ((keys.zip values).zip ws).map (·.1.1) = keys :=
      calc ((keys.zip values).zip ws).map (·.1.1)
        _ = (((keys.zip values).zip ws).map (·.1)).map Prod.fst := List.map_map.symm
        _ = keys := by rw [whole, keys_eq]
    have distinct := (all (by omega)).2
    rw [firsts, ← hasRepeats_eq_false, repeats] at distinct
    cases distinct

/-! ## The rules for weights -/

/-- A query to which a rule for weights applies becomes smaller, and the others stay as they are. -/
theorem weightPass_shrinks :
    (∀ q : Query R, Shrinks size q q.weightPass) ∧
      (∀ (cs : List (Query R)) (ws : List R),
        sizeAll ((flattened cs ws).map (·.1)) + cs.countP isWeighted ≤ sizeAll cs) ∧
      ∀ cs : List (Query R), Shrinks sizeAll cs (weightPassAll cs) := by
  refine weightPass.mutual_induct _ _ _ ?_ ?_ ?_ ?_ ?_ ?_ ?_ ?_ ?_ ?_ ?_ ?_ ?_ ?_ ?_
  -- a weight over a weight, and one over a weighted sum
  · intro w v c ih
    rw [weightPass]
    have le := ih.le
    refine .shrunk ?_
    rw [Simplified.map, weighted, size_modify, size_modify, size_modify]
    omega
  · intro w vs cs ih
    rw [weightPass]
    have le := ih.le
    refine .shrunk ?_
    rw [Simplified.map, size_join, size_modify, size_join]
    omega
  -- sums: with equal summands, with weighted or nested ones, and plain ones
  · intro ws cs repeats ih
    rw [weightPass, if_pos repeats]
    have le := ih.le
    have merged := sizeAll_mergeSummands ws (weightPassAll_length cs).symm repeats
    refine .shrunk ?_
    rw [size_join, size_join]
    omega
  · intro ws cs distinct weighted ih
    rw [weightPass, if_neg distinct, if_pos weighted]
    have some : 0 < cs.countP isWeighted := List.countP_pos_iff.mpr (List.any_eq_true.mp weighted)
    refine .shrunk ?_
    rw [size_join, size_join]
    omega
  · intro ws cs distinct plain ih
    rw [weightPass, if_neg distinct, if_neg plain]
    exact ih.map (size_join _)
  -- nodes that no rule is for
  · intro l
    rw [weightPass]
    exact .refl _ _
  · intro m c other other' ih
    rw [weightPass]
    · exact ih.map (size_modify m)
    · exact other
    · exact other'
  · intro op cs other ih
    rw [weightPass]
    · exact ih.map (size_join op)
    · exact other
  · intro c v ihc ihv
    rw [weightPass]
    exact ihc.map₂ (fun _ _ => by rw [size]) ihv
  -- summands: a nested sum, a weighted one, any other, and none
  · intro vs inner cs w ws ihInner ih
    have le := ihInner.le
    have some := map_fst_zip_sublist (weightPassAll inner).value (vs.map (w * ·))
    have short := some.length_le
    have smaller := sizeAll_sublist some
    rw [flattened, List.map_append, sizeAll_append, sizeAll, size_join, List.countP_cons_of_pos rfl]
    omega
  · intro v c cs w ws ihc ih
    have le := ihc.le
    rw [flattened, List.map_cons, sizeAll, sizeAll, size_modify, List.countP_cons_of_pos rfl]
    dsimp only
    omega
  · intro c cs w ws other other' ihc ih
    have le := ihc.le
    have plain : ¬ isWeighted c = true := by
      intro weighted
      unfold isWeighted at weighted
      split at weighted
      · exact other' _ _ rfl
      · exact other _ _ rfl
      · cases weighted
    rw [flattened, List.map_cons, sizeAll, sizeAll, List.countP_cons_of_neg plain]
    · dsimp only
      omega
    · exact other
    · exact other'
  · intro cs ws other other' other''
    rw [flattened, List.map_nil, sizeAll, Nat.zero_add]
    · exact Nat.le_trans List.countP_le_length (length_le_sizeAll cs)
    · exact other
    · exact other'
    · exact other''
  -- lists of members
  · rw [weightPassAll]
    exact .refl _ _
  · intro c cs ihc ih
    rw [weightPassAll]
    exact shrinks_cons ihc ih

/-! ## The boolean rules -/

namespace Junction

omit [Scalar R] in
lemma size_identity (j : Junction) : (j.identity : Query R).size = 1 := by
  cases j <;> exact size.eq_1 _

omit [Scalar R] in
lemma size_absorbing (j : Junction) : (j.absorbing : Query R).size = 1 := by
  cases j <;> exact size.eq_1 _

omit [Scalar R] in
/-- Splicing drops the inner nodes of the same operator. -/
lemma splice_shrinks (j : Junction) (cs : List (Query R)) : Shrinks sizeAll cs (j.splice cs) := by
  induction cs with
  | nil => exact .refl _ _
  | cons c cs ih =>
    rw [splice]
    cases e : j.members? c with
    | none => exact ih.map fun ds => by rw [sizeAll, Nat.add_comm]
    | some inner =>
      have le := ih.le
      refine .shrunk ?_
      rw [Simplified.map, sizeAll_append, members?_eq_some e, sizeAll, size_join]
      omega

/-- Of equal members all but the first are dropped. -/
lemma distinct_shrinks (kept cs : List (Query R)) :
    Shrinks sizeAll (kept ++ cs) (distinct kept cs) := by
  induction cs generalizing kept with
  | nil =>
    rw [List.append_nil]
    exact .refl _ _
  | cons c cs ih =>
    rw [distinct]
    split
    · have le := (ih kept).le
      have pos := size_pos c
      refine .shrunk ?_
      rw [sizeAll_append] at le
      rw [sizeAll_append, sizeAll]
      omega
    · have rest := ih (kept ++ [c])
      rwa [List.append_assoc] at rest

/-- The members that do not matter are dropped. -/
lemma withoutIdentity_shrinks (j : Junction) (cs : List (Query R)) :
    Shrinks size (.join j.operator cs) (j.withoutIdentity cs) := by
  rw [withoutIdentity]
  split
  · next only =>
    refine .shrunk ?_
    cases cs with
    | nil => cases only
    | cons c cs =>
      have pos := size_pos c
      rw [size_identity, size_join, sizeAll]
      omega
  · have some : (cs.filter (· != j.identity)).Sublist cs := List.filter_sublist
    refine ⟨fun same => ?_, fun changed => ?_⟩
    · rw [bne_eq_false_iff_eq] at same
      dsimp only
      rw [some.eq_of_length same]
    · have less := Nat.lt_of_le_of_ne some.length_le (bne_iff_ne.mp changed)
      have smaller := sizeAll_sublist some
      rw [size_join, size_join]
      omega

/-- The rules for one boolean node drop nodes, or they leave it as it is. -/
lemma simplify_shrinks (j : Junction) {cs : List (Query R)} {members : Simplified (List (Query R))}
    (inner : Shrinks sizeAll cs members) :
    Shrinks size (.join j.operator cs) (j.simplify members) := by
  have flat := inner.trans (j.splice_shrinks members.value)
  have once := flat.trans (distinct_shrinks [] (j.splice members.value).value)
  rw [simplify]
  dsimp only at once ⊢
  split
  · next decided =>
    refine .shrunk ?_
    obtain ⟨c, mem, _⟩ := List.contains_iff_exists_mem_beq.mp decided
    have pos := List.length_pos_of_mem mem
    have many := length_le_sizeAll (distinct [] (j.splice members.value).value).value
    have le := once.le
    dsimp only at le
    rw [size_absorbing, size_join]
    omega
  · exact (once.map (f := join j.operator) (size_join _)).trans (withoutIdentity_shrinks j _)

end Junction

mutual

/-- A query to which a boolean rule applies becomes smaller, and the others stay as they are. -/
theorem junctionPass_shrinks : (q : Query R) → Shrinks size q q.junctionPass
  | .leaf l => by
    rw [junctionPass]
    exact .refl _ _
  | .modify m c => by
    rw [junctionPass]
    exact (junctionPass_shrinks c).map (size_modify m)
  | .join op cs => by
    have inner := junctionPassAll_shrinks cs
    rcases Junction.operator_cases op with ⟨j, rfl⟩ | other
    · rw [junctionPass_junction]
      exact j.simplify_shrinks inner
    · rw [junctionPass_join other]
      exact inner.map (size_join op)
  | .require c v => by
    rw [junctionPass]
    exact (junctionPass_shrinks c).map₂ (fun _ _ => by rw [size]) (junctionPass_shrinks v)

theorem junctionPassAll_shrinks : (cs : List (Query R)) → Shrinks sizeAll cs (junctionPassAll cs)
  | [] => by
    rw [junctionPassAll]
    exact .refl _ _
  | c :: cs => by
    rw [junctionPassAll]
    exact shrinks_cons (junctionPass_shrinks c) (junctionPassAll_shrinks cs)

end

/-! ## Passes -/

/-- A pass leaves a query as it is, or it makes it smaller. -/
theorem pass_shrinks (q : Query R) : Shrinks size q q.pass :=
  (weightPass_shrinks.1 q).trans (junctionPass_shrinks q.weightPass.value)

/-- The query after so many passes. -/
def after : Nat → Query R → Query R
  | 0, q => q
  | n + 1, q => after n q.pass.value

/-- Each pass that changes a query takes at least one node. -/
lemma size_after {n : Nat} {q : Query R} (changing : ∀ i < n, (q.after i).pass.changed = true) :
    (q.after n).size + n ≤ q.size := by
  induction n generalizing q with
  | zero => exact Nat.le_refl _
  | succ n ih =>
    have less := (pass_shrinks q).less (changing 0 (Nat.succ_pos n))
    have rest := ih (q := q.pass.value) fun i less => changing (i + 1) (Nat.succ_lt_succ less)
    rw [after]
    omega

/-- A query does not settle exactly if it is changed by more passes than may be made. -/
lemma settle?_eq_none_iff {n : Nat} {q : Query R} :
    q.settle? n = none ↔ ∀ i ≤ n, (q.after i).pass.changed = true := by
  induction n generalizing q with
  | zero =>
    unfold settle?
    dsimp only
    split
    · next changed =>
      refine ⟨fun _ i le => ?_, fun _ => rfl⟩
      rw [Nat.le_zero.mp le]
      exact changed
    · next unchanged =>
      exact iff_of_false (Option.some_ne_none _) fun changing =>
        unchanged (changing 0 (Nat.le_refl 0))
  | succ n ih =>
    unfold settle?
    dsimp only
    split
    · next changed =>
      rw [ih]
      refine ⟨fun changing i le => ?_, fun changing i le => changing (i + 1) (Nat.succ_le_succ le)⟩
      cases i with
      | zero => exact changed
      | succ i => exact changing i (Nat.le_of_succ_le_succ le)
    · next unchanged =>
      exact iff_of_false (Option.some_ne_none _) fun changing => unchanged (changing 0 (Nat.zero_le _))

/-! ## Simplification -/

omit [Scalar R] in
lemma checkWeightsAll_of_forall {cs : List (Query R)} (each : ∀ c ∈ cs, c.checkWeights = .ok ()) :
    checkWeightsAll cs = .ok () := by
  induction cs with
  | nil => rfl
  | cons c cs ih =>
    obtain ⟨first, rest⟩ := List.forall_mem_cons.mp each
    rw [checkWeightsAll, first, ih rest]
    rfl

omit [Scalar R] in
/-- The weights of an even query pass their check. -/
lemma Even.checkWeights {need : Need} {q : Query R} (even : q.Even need) :
    q.checkWeights = .ok () := by
  induction even with
  | leaf => rfl
  | modify _ _ ih => rwa [Query.checkWeights]
  | @join _ op cs here _ ih =>
    have rest := checkWeightsAll_of_forall ih
    cases op with
    | combine ws => rw [Query.checkWeights, if_pos (here ws cs rfl), rest]
    | _ => exact rest
  | require _ _ _ ihc ihv =>
    rw [Query.checkWeights, ihc, ihv]
    rfl

/-- A query that is even settles, unless it is changed by more passes than may be made. -/
lemma simplify_eq {q : Query R} (even : ∀ p ∈ q.nodes, p.IsEven) (n : Nat) :
    q.simplify n = match q.settle? n with
      | some simple => .ok simple
      | none => .error (.notConverged n q.display) := by
  have even' : q.Even .docs := everywhere_of_nodes q even
  rw [simplify, Even.checkWeights even']
  rfl

/-- Simplification converges within the size of the query. A pass that says that it has changed
nothing returns the query itself. One that has changed something returns a query with fewer nodes,
again with one weight for each child of a weighted sum. So simplification succeeds if it may make as
many passes as there are nodes, less one, and fails exactly if more passes change the query than it
may make. -/
theorem simplify_converges {q : Query R} (even : ∀ p ∈ q.nodes, p.IsEven) :
    (q.pass.changed = false ↔ q.pass.value = q) ∧
      (q.pass.changed = true →
        q.pass.value.size < q.size ∧ ∀ p ∈ q.pass.value.nodes, p.IsEven) ∧
      (∀ n, q.size - 1 ≤ n → ∃ simple, q.simplify n = .ok simple) ∧
      ∀ n, ((∃ fault, q.simplify n = .error fault) ↔ ∀ i ≤ n, (q.after i).pass.changed = true) ∧
        ∀ fault, q.simplify n = .error fault →
          fault = .notConverged n q.display ∧ fault.kind = "Structure" := by
  have shrinks := pass_shrinks q
  have fails : ∀ n fault, q.simplify n = .error fault →
      q.settle? n = none ∧ fault = .notConverged n q.display := by
    intro n fault failed
    rw [simplify_eq even] at failed
    split at failed
    · cases failed
    · next unsettled =>
      cases failed
      exact ⟨unsettled, rfl⟩
  refine ⟨shrinks.changed_eq_false_iff, fun changed => ⟨shrinks.less changed, ?_⟩,
    fun n enough => ?_, fun n => ⟨⟨?_, fun changing => ?_⟩, fun fault failed => ?_⟩⟩
  · have even' : q.Even .docs := everywhere_of_nodes q even
    exact fun p => (even'.pass even_lasting).of_mem_nodes
  · cases result : q.simplify n with
    | ok simple => exact ⟨simple, rfl⟩
    | error fault =>
      -- one node would be left after the last of these passes, and then one more would be taken
      have changing := settle?_eq_none_iff.mp (fails n fault result).1
      have taken := size_after fun i less => changing i (Nat.le_of_lt_succ less)
      have pos := size_pos (q.after n.succ)
      omega
  · rintro ⟨fault, failed⟩
    exact settle?_eq_none_iff.mp (fails n fault failed).1
  · rw [simplify_eq even, settle?_eq_none_iff.mpr changing]
    exact ⟨_, rfl⟩
  · obtain ⟨_, rfl⟩ := fails n fault failed
    exact ⟨rfl, rfl⟩

/-- A weight over a weighted sum under another weight takes two passes. -/
theorem simplify_converges_nested :
    let q : Query Float := weighted 2 (weighted 3 (.join (.combine [5]) [always]))
    (∀ p ∈ q.nodes, p.IsEven) ∧ q.size = 4 ∧
      (∃ simple, q.simplify 3 = .ok simple) ∧
      ∃ fault, q.simplify 1 = .error fault ∧ fault.kind = "Structure" := by
  intro q
  have even : ∀ p ∈ q.nodes, p.IsEven := by
    simp [q, weighted, always, nodes, nodesAll, IsEven]
  obtain ⟨_, _, settles, fails⟩ := simplify_converges even
  have changing : ∀ i ≤ 1, (q.after i).pass.changed = true := by
    intro i le
    rcases Nat.le_one_iff_eq_zero_or_eq_one.mp le with rfl | rfl
    · rfl
    · rfl
  obtain ⟨fault, failed⟩ := (fails 1).1.mpr changing
  exact ⟨even, rfl, settles 3 (by decide), fault, failed, ((fails 1).2 fault failed).2⟩

end Query

end Retrieval
