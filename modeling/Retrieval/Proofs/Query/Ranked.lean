import Retrieval.Proofs.Evaluation.Scores
import Retrieval.Proofs.Query.Nodes
import Retrieval.Proofs.Query.Runnable

/-!
# Ranked queries of terms

The plainest ranked queries are made of terms under scorers, by weights, sums, maxima and products.
Of their weights and of their scorers something can be said each (`Query.Ranked`), and it stays true
in the passes of a preparation: it goes with what becomes of a scorer where the query is rebuilt
(`Query.Ranked.rebuild`), and it is kept by simplification, as far as weights may be added and
multiplied (`Query.Ranked.simplify`).
-/

namespace Retrieval

namespace Query

variable {R : Type}

/-- A query of terms under scorers, with `W` true of its weights and `S` of its scorers and their
terms. Maxima are of something. -/
inductive Ranked (W : R → Prop) (S : Model R → Option Statistics → Term → Prop) :
    Query R → Prop where
  | scorer {m stats t} :
    S m stats t →
    Ranked W S (.modify (.scorer m stats) (.leaf (.term t)))
  | weight {w c} :
    W w →
    Ranked W S c →
    Ranked W S (.modify (.weight w) c)
  | combine {ws cs} :
    (∀ w ∈ ws, W w) →
    (∀ c ∈ cs, Ranked W S c) →
    Ranked W S (.join (.combine ws) cs)
  | max {cs} :
    cs ≠ [] →
    (∀ c ∈ cs, Ranked W S c) →
    Ranked W S (.join .max cs)
  | mult {cs} :
    (∀ c ∈ cs, Ranked W S c) →
    Ranked W S (.join .mult cs)

namespace Ranked

variable {W : R → Prop} {S S' : Model R → Option Statistics → Term → Prop} {q q' : Query R}

/-- Scorers may be said to be among the nodes of a query that has the ranked one in it. -/
lemma among (h : Ranked W S q) {nodes : List (Query R)} (sub : q.nodes ⊆ nodes) :
    Ranked W (fun m stats t =>
      S m stats t ∧ .modify (.scorer m stats) (.leaf (.term t)) ∈ nodes) q := by
  have children {op : Operator R} {cs : List (Query R)} (sub : (join op cs).nodes ⊆ nodes)
      (c : Query R) (mem : c ∈ cs) : c.nodes ⊆ nodes :=
    fun _ within => sub (List.mem_cons_of_mem _ (mem_nodesAll.mpr ⟨c, mem, within⟩))
  induction h with
  | scorer holds => exact .scorer ⟨holds, sub List.mem_cons_self⟩
  | weight holds _ ih => exact .weight holds (ih fun _ mem => sub (List.mem_cons_of_mem _ mem))
  | combine weights _ ih => exact .combine weights fun c mem => ih c mem (children sub c mem)
  | max some_ _ ih => exact .max some_ fun c mem => ih c mem (children sub c mem)
  | mult _ ih => exact .mult fun c mem => ih c mem (children sub c mem)

lemma plain (h : Ranked W S q) (need : Need) : q.Plain need := by
  have leaf {need : Need} (t : Term) : (Query.leaf (.term t) : Query R).Plain need :=
    .leaf fun _ _ => nofun
  induction h generalizing need with
  | scorer => exact .modify (fun _ _ => nofun) (leaf _)
  | weight _ _ ih => exact .modify (fun _ _ => nofun) (ih _)
  | combine _ _ ih => exact .join (fun j _ => by cases j <;> exact nofun) fun c mem => ih c mem _
  | max _ _ ih => exact .join (fun j _ => by cases j <;> exact nofun) fun c mem => ih c mem _
  | mult _ ih => exact .join (fun j _ => by cases j <;> exact nofun) fun c mem => ih c mem _

/-- A ranked query has no part in the words of the index. -/
lemma noRaw (h : Ranked W S q) : q.NoRaw := by
  induction h with
  | scorer => simp [NoRaw, nodes]
  | weight _ _ ih =>
    intro text mem
    cases mem with
    | tail _ mem => exact ih text mem
  | combine _ _ ih => exact noRaw_join ih
  | max _ _ ih => exact noRaw_join ih
  | mult _ ih => exact noRaw_join ih

/-- A ranked query can be run. -/
lemma runnable (h : Ranked W S q) {defaultField : String} {need : Need} :
    q.Runnable defaultField need := by
  induction h generalizing need with
  | @scorer m stats t =>
    refine .modify ?_ (.leaf trivial)
    cases stats with
    | none => trivial
    | some => exact ⟨t.field.getD defaultField, List.forall_mem_singleton.mpr rfl⟩
  | weight _ _ ih => exact .modify trivial ih
  | combine _ _ ih => exact .join trivial fun c mem => ih c mem
  | max _ _ ih => exact .join trivial fun c mem => ih c mem
  | mult _ ih => exact .join trivial fun c mem => ih c mem

/-! ## Rebuilding -/

/-- What is true of scorers goes with what becomes of them and of their terms. -/
theorem rebuild {ε : Type} {onLeaf : Leaf R → Except ε (Leaf R)}
    {onModifier : Modifier R → Query R → Except ε (Modifier R)}
    (scorers : ∀ {m stats t l n}, S m stats t → onLeaf (.term t) = .ok l →
      onModifier (.scorer m stats) (.leaf l) = .ok n →
        ∃ m' stats' t', l = .term t' ∧ n = .scorer m' stats' ∧ S' m' stats' t')
    (weights : ∀ {w c n}, onModifier (.weight w) c = .ok n → n = .weight w) (h : Ranked W S q)
    (built : q.rebuild onLeaf onModifier = .ok q') : Ranked W S' q' := by
  have children {cs cs' : List (Query R)} (built : List.Forall₂ (fun c c' =>
      c.rebuild onLeaf onModifier = .ok c') cs cs') (ih : ∀ c ∈ cs, ∀ {c'},
      c.rebuild onLeaf onModifier = .ok c' → Ranked W S' c') (c' : Query R) (mem : c' ∈ cs') :
      Ranked W S' c' := by
    obtain ⟨c, within, built⟩ := (exists_mem_of_forall₂ built).2 c' mem
    exact ih c within built
  induction h generalizing q' with
  | scorer holds =>
    obtain ⟨c', inner, built⟩ := bind_eq_ok built
    obtain ⟨n, changed, built⟩ := bind_eq_ok built
    obtain ⟨l, filled, inner⟩ := bind_eq_ok inner
    cases inner
    cases built
    obtain ⟨m', stats', t', rfl, rfl, holds'⟩ := scorers holds filled changed
    exact .scorer holds'
  | weight holds _ ih =>
    obtain ⟨c', inner, built⟩ := bind_eq_ok built
    obtain ⟨n, changed, built⟩ := bind_eq_ok built
    cases built
    cases weights changed
    exact .weight holds (ih inner)
  | combine holds _ ih =>
    obtain ⟨cs', rfl, each⟩ := rebuild_join_eq_ok built
    exact .combine holds (children each ih)
  | max some_ _ ih =>
    obtain ⟨cs', rfl, each⟩ := rebuild_join_eq_ok built
    refine .max ?_ (children each ih)
    rintro rfl
    cases each
    exact some_ rfl
  | mult _ ih =>
    obtain ⟨cs', rfl, each⟩ := rebuild_join_eq_ok built
    exact .mult (children each ih)

/-- Where marks do not matter to what is true of scorers, queries that differ in marks are ranked
alike. -/
lemma of_unmarked (free : ∀ {m stats t t'}, ({ t' with needed := .docs } : Term) =
      { t with needed := .docs } → S m stats t → S m stats t') (h : Ranked W S q)
    (same : q'.unmarked = q.unmarked) : Ranked W S q' := by
  have children {cs cs' : List (Query R)} (same : cs'.map unmarked = cs.map unmarked)
      (ih : ∀ c ∈ cs, ∀ {c' : Query R}, c'.unmarked = c.unmarked → Ranked W S c') (c' : Query R)
      (mem : c' ∈ cs') : Ranked W S c' := by
    have among : c'.unmarked ∈ cs.map unmarked := same ▸ List.mem_map_of_mem mem
    obtain ⟨c, within, same⟩ := List.mem_map.mp among
    exact ih c within same.symm
  induction h generalizing q' with
  | scorer holds =>
    obtain ⟨c', rfl, below⟩ := eq_modify_of_unmarked same
    obtain ⟨l, rfl⟩ := eq_leaf_of_unmarked below
    cases l with
    | term t' => exact .scorer (free (by simpa [unmarked, mapTerms] using below) holds)
    | _ => cases below
  | weight holds _ ih =>
    obtain ⟨c', rfl, below⟩ := eq_modify_of_unmarked same
    exact .weight holds (ih below)
  | combine holds _ ih =>
    rw [unmarked_join] at same
    obtain ⟨cs', rfl, below⟩ := eq_join_of_unmarked same
    exact .combine holds (children below ih)
  | max some_ _ ih =>
    rw [unmarked_join] at same
    obtain ⟨cs', rfl, below⟩ := eq_join_of_unmarked same
    refine .max ?_ (children below ih)
    rintro rfl
    exact some_ (List.map_eq_nil_iff.mp below.symm)
  | mult _ ih =>
    rw [unmarked_join] at same
    obtain ⟨cs', rfl, below⟩ := eq_join_of_unmarked same
    exact .mult (children below ih)

end Ranked

/-! ## Simplification -/

section Simplification

variable [Scalar R] {W : R → Prop} {S : Model R → Option Statistics → Term → Prop} {q q' : Query R}

/-- What is true of weights and kept by sums is true of the weights of merged summands. -/
lemma weights_mergeSummands (add : ∀ {u w}, W u → W w → W (u + w)) {keys values : List (Query R)}
    {ws : List R} (each : ∀ w ∈ ws, W w) : ∀ p ∈ mergeSummands keys values ws, W p.2.2 := by
  have step {key value : Query R} {w : R} (new : W w) {merged : List (Query R × Query R × R)}
      (old : ∀ p ∈ merged, W p.2.2) : ∀ p ∈ addSummand key value w merged, W p.2.2 := by
    induction merged with
    | nil => exact List.forall_mem_singleton.mpr new
    | cons p merged ih =>
      obtain ⟨first, rest⟩ := List.forall_mem_cons.mp old
      rw [addSummand]
      split
      · exact List.forall_mem_cons.mpr ⟨add first new, rest⟩
      · exact List.forall_mem_cons.mpr ⟨first, ih rest⟩
  rw [mergeSummands]
  refine List.foldlRecOn (motive := fun merged : List (Query R × Query R × R) =>
    ∀ p ∈ merged, W p.2.2) _ _ (List.forall_mem_nil _) fun merged old p mem => ?_
  exact step (each p.2 (List.of_mem_zip mem).2) old

/-- The rules for weights keep ranked queries, if sums and products of weights may be weights. -/
lemma Ranked.weightPass (add : ∀ {u w}, W u → W w → W (u + w))
    (mul : ∀ {u w}, W u → W w → W (u * w)) :
    (∀ q : Query R, Ranked W S q → Ranked W S q.weightPass.value) ∧
      (∀ (cs : List (Query R)) (ws : List R), (∀ c ∈ cs, Ranked W S c) → (∀ w ∈ ws, W w) →
        ∀ p ∈ flattened cs ws, Ranked W S p.1 ∧ W p.2) ∧
      ∀ cs : List (Query R), (∀ c ∈ cs, Ranked W S c) →
        ∀ c ∈ (weightPassAll cs).value, Ranked W S c := by
  refine weightPass.mutual_induct _ _ _ ?_ ?_ ?_ ?_ ?_ ?_ ?_ ?_ ?_ ?_ ?_ ?_ ?_ ?_ ?_
  -- a weight over a weight
  · intro w v c ih h
    cases h with
    | weight outer inner =>
      cases inner with
      | weight inner below =>
        rw [Query.weightPass]
        exact .weight (mul outer inner) (ih below)
  -- a weight over a weighted sum
  · intro w vs cs ih h
    cases h with
    | weight outer inner =>
      cases inner with
      | combine weights each =>
        rw [Query.weightPass]
        exact .combine (List.forall_mem_map.mpr fun v mem => mul (weights v mem) outer) (ih each)
  -- sums: with equal summands, with weighted or nested ones, and plain ones
  · intro ws cs repeats ih h
    cases h with
    | combine weights each =>
      rw [Query.weightPass, if_pos repeats]
      refine .combine (List.forall_mem_map.mpr (weights_mergeSummands add weights)) fun c mem => ?_
      obtain ⟨p, within, rfl⟩ := List.mem_map.mp mem
      exact ih each _ (mem_values_of_mem_mergeSummands within)
  · intro ws cs distinct weighted ih h
    cases h with
    | combine weights each =>
      rw [Query.weightPass, if_neg distinct, if_pos weighted]
      have flat := ih each weights
      exact .combine (List.forall_mem_map.mpr fun p mem => (flat p mem).2)
        (List.forall_mem_map.mpr fun p mem => (flat p mem).1)
  · intro ws cs distinct plain ih h
    cases h with
    | combine weights each =>
      rw [Query.weightPass, if_neg distinct, if_neg plain]
      exact .combine weights (ih each)
  -- nodes that no rule is for
  · intro l h
    rw [Query.weightPass]
    exact h
  · intro m c other other' ih h
    rw [Query.weightPass]
    · cases h with
      | scorer holds =>
        rw [Query.weightPass]
        exact .scorer holds
      | weight holds inner => exact .weight holds (ih inner)
    · exact other
    · exact other'
  · intro op cs other ih h
    rw [Query.weightPass]
    · cases h with
      | combine weights each => exact .combine weights (ih each)
      | max some_ each =>
        refine .max (fun none => some_ ?_) (ih each)
        rw [← List.length_eq_zero_iff, ← weightPassAll_length, none, List.length_nil]
      | mult each => exact .mult (ih each)
    · exact other
  · intro c v _ _ h
    cases h
  -- summands: a nested sum, a weighted one, any other, and none
  · intro vs inner cs w ws ihInner ih each weights
    obtain ⟨first, rest⟩ := List.forall_mem_cons.mp each
    obtain ⟨here, weights⟩ := List.forall_mem_cons.mp weights
    rw [flattened]
    refine List.forall_mem_append.mpr ⟨fun p mem => ?_, ih rest weights⟩
    obtain ⟨child, scaled⟩ := List.of_mem_zip mem
    obtain ⟨v, within, same⟩ := List.mem_map.mp scaled
    cases first with
    | combine nested below => exact ⟨ihInner below p.1 child, same ▸ mul here (nested v within)⟩
  · intro v c cs w ws ihc ih each weights
    obtain ⟨first, rest⟩ := List.forall_mem_cons.mp each
    obtain ⟨here, weights⟩ := List.forall_mem_cons.mp weights
    rw [flattened]
    cases first with
    | weight holds inner =>
      exact List.forall_mem_cons.mpr ⟨⟨ihc inner, mul here holds⟩, ih rest weights⟩
  · intro c cs w ws other other' ihc ih each weights
    obtain ⟨first, rest⟩ := List.forall_mem_cons.mp each
    obtain ⟨here, weights⟩ := List.forall_mem_cons.mp weights
    rw [flattened]
    · exact List.forall_mem_cons.mpr ⟨⟨ihc first, here⟩, ih rest weights⟩
    · exact other
    · exact other'
  · intro cs ws other other' other'' _ _
    rw [flattened]
    · exact List.forall_mem_nil _
    · exact other
    · exact other'
    · exact other''
  -- lists of members
  · intro _
    rw [weightPassAll]
    exact List.forall_mem_nil _
  · intro c cs ihc ih each
    obtain ⟨first, rest⟩ := List.forall_mem_cons.mp each
    rw [weightPassAll]
    exact List.forall_mem_cons.mpr ⟨ihc first, ih rest⟩

/-- A simplified ranked query is ranked, if sums and products of weights may be weights. -/
theorem Ranked.simplify (add : ∀ {u w}, W u → W w → W (u + w))
    (mul : ∀ {u w}, W u → W w → W (u * w)) {passes : Nat} (h : Ranked W S q)
    (simple : q.simplify passes = .ok q') : Ranked W S q' := by
  refine settle?_induction (fun q h => ?_) h (settled_of_simplify simple)
  have weighted := (Ranked.weightPass add mul).1 q h
  have settled : q.weightPass.value.Settled := (weighted.plain .scores).settled
  rw [pass, settled.junctionPass_eq]
  exact weighted

end Simplification

end Query

end Retrieval
