import Retrieval.Proofs.Evaluation.Adequacy
import Retrieval.Proofs.Evaluation.Soundness
import Retrieval.Proofs.Query.Inference
import Retrieval.Proofs.Query.Leaves
import Retrieval.Proofs.Query.Sums

/-!
# Simplification keeps facts

What is true of a query in a document is true of it when it is simplified (`Query.facts_simplify`):
equal queries match alike, weights do not matter, and the members that a boolean node loses decide
nothing. So a simplified query, compiled for a need that the query was accepted for, has the answers
of the compiled query, apart from scores (`Query.simplify_same`).
-/

namespace Retrieval

namespace Query

variable {R : Type}

/-- Whatever the segment and the document, the same is true of both queries. -/
def SameFacts (q q' : Query R) : Prop := ∀ spot : Spot, q.facts spot = q'.facts spot

/-! ## Equal queries -/

lemma facts_leaf_beq [BEq R] {l k : Leaf R} (equal : (l == k) = true) (spot : Spot) :
    l.facts spot = k.facts spot := by
  change Leaf.beq l k = true at equal
  cases l <;> cases k <;> simp_all [Leaf.beq, Leaf.facts]

lemma facts_modifier_beq [BEq R] {m n : Modifier R} (equal : (m == n) = true) (c : Facts) :
    m.facts c = n.facts c := by
  change Modifier.beq m n = true at equal
  cases m <;> cases n <;> simp_all [Modifier.beq, Modifier.facts]

lemma facts_operator_beq [BEq R] {o p : Operator R} (equal : (o == p) = true) (cs : List Facts) :
    o.facts cs = p.facts cs := by
  change Operator.beq o p = true at equal
  cases o <;> cases p <;> simp_all [Operator.beq, Operator.facts]

lemma factsAll_congr {cs ds : List (Query R)} (same : List.Forall₂ SameFacts cs ds) (spot : Spot) :
    factsAll spot cs = factsAll spot ds := by
  induction same with
  | nil => rfl
  | cons first _ ih => rw [factsAll, factsAll, first spot, ih]

/-- The facts of a node depend only on those of its children. -/
lemma sameFacts_congruence [BEq R] : Congruence (SameFacts (R := R)) where
  refl _ _ := rfl
  symm same spot := (same spot).symm
  trans same same' spot := (same spot).trans (same' spot)
  leaf := facts_leaf_beq
  modify {m n c d} alike same spot := by
    rw [facts, facts, same spot]
    rcases alike with rfl | equal
    · rfl
    · exact facts_modifier_beq equal _
  join {o p cs ds} alike same spot := by
    rw [facts, facts, factsAll_congr same spot]
    rcases alike with rfl | equal
    · rfl
    · exact facts_operator_beq equal _
  require same same' spot := by rw [facts, facts, same spot, same' spot]

variable [Scalar R]

omit [Scalar R] in
lemma facts_sumOf (spot : Spot) (ps : List (Query R × R)) :
    (sumOf ps).facts spot = .scoring (ps.any fun p => (p.1.facts spot).matched) := by
  rw [sumOf, facts, factsAll_eq_map, Operator.facts, List.any_map, List.any_map]
  rfl

/-- Weights do not matter to what matches. -/
lemma sameFacts_sumLaws : SumLaws (SameFacts (R := R)) where
  toCongruence := sameFacts_congruence
  single w c spot := by
    rw [facts_sumOf, weighted, facts]
    simp [Modifier.facts]
  nest ps qs rs w spot := by
    simp [facts_sumOf, Function.comp_def, Facts.scoring]
  swap rs w spot := by
    simp [facts_sumOf, Function.comp_def]
  merge ps qs rs c u w spot := by
    rw [facts_sumOf, facts_sumOf]
    simp only [List.any_append, List.any_cons]
    cases (c.facts spot).matched <;> simp

/-! ## Boolean nodes -/

namespace Junction

omit [Scalar R] in
/-- Whether a member that decides a node matches. -/
def decisive : Junction → Bool
  | and => false
  | or => true

variable {j : Junction} {spot : Spot}

/-- A boolean node only matches or not. -/
def Simple (spot : Spot) (q : Query R) : Prop := q.facts spot = .boolean (q.facts spot).matched

/-- A list of members has one that is decisive. -/
def Decided (j : Junction) (spot : Spot) (cs : List (Query R)) : Prop :=
  ∃ c ∈ cs, (c.facts spot).matched = j.decisive

omit [Scalar R] in
lemma simple_operator (j : Junction) (cs : List (Query R)) : Simple spot (join j.operator cs) := by
  cases j <;> rfl

omit [Scalar R] in
/-- A boolean node is decided by any member that is decisive. -/
lemma matched_operator (j : Junction) (cs : List (Query R)) :
    ((join j.operator cs).facts spot).matched = j.decisive ↔ j.Decided spot cs := by
  cases j with
  | and =>
    change (List.all (factsAll spot cs) Facts.matched) = false ↔ _
    rw [factsAll_eq_map, List.all_eq_false]
    simp [Decided, decisive]
  | or =>
    change (List.any (factsAll spot cs) Facts.matched) = true ↔ _
    rw [factsAll_eq_map, List.any_eq_true]
    simp [Decided, decisive]

omit [Scalar R] in
/-- Boolean nodes that are decided alike are alike. -/
lemma facts_eq {q q' : Query R} (j : Junction) (simple : Simple spot q) (simple' : Simple spot q')
    (same : (q.facts spot).matched = j.decisive ↔ (q'.facts spot).matched = j.decisive) :
    q.facts spot = q'.facts spot := by
  rw [simple, simple']
  congr 1
  revert same
  cases (q.facts spot).matched <;> cases (q'.facts spot).matched <;> cases j <;> decide

omit [Scalar R] in
lemma facts_absorbing (j : Junction) :
    (j.absorbing : Query R).facts spot = .boolean j.decisive := by
  cases j <;> rfl

omit [Scalar R] in
lemma facts_identity (j : Junction) :
    (j.identity : Query R).facts spot = .boolean (!j.decisive) := by
  cases j <;> rfl

omit [Scalar R] in
/-- It does not matter whether members of the same operator are put in its place. -/
lemma decided_splice (cs : List (Query R)) :
    j.Decided spot (j.splice cs).value ↔ j.Decided spot cs := by
  rw [splice_value, Decided]
  simp only [List.mem_flatMap]
  have each (c : Query R) : (∃ d ∈ (j.members? c).getD [c], (d.facts spot).matched = j.decisive) ↔
      (c.facts spot).matched = j.decisive := by
    cases e : j.members? c with
    | none => simp
    | some inner =>
      rw [members?_eq_some e, matched_operator, Option.getD_some]
      exact Iff.rfl
  constructor
  · rintro ⟨d, ⟨c, mem, inner⟩, decides⟩
    exact ⟨c, mem, (each c).mp ⟨d, inner, decides⟩⟩
  · rintro ⟨c, mem, decides⟩
    obtain ⟨d, inner, decides⟩ := (each c).mpr decides
    exact ⟨d, ⟨c, mem, inner⟩, decides⟩

/-- Equal members decide alike. -/
lemma matched_of_beq {c d : Query R} (equal : (c == d) = true) :
    (c.facts spot).matched = (d.facts spot).matched :=
  congrArg Facts.matched (sameFacts_congruence.of_beq c d equal spot)

/-- Members that equal others decide nothing. -/
lemma decided_distinct (cs : List (Query R)) :
    j.Decided spot (distinct [] cs).value ↔ j.Decided spot cs := by
  constructor
  · rintro ⟨c, mem, decides⟩
    exact ⟨c, mem_of_mem_distinct mem, decides⟩
  · rintro ⟨c, mem, decides⟩
    obtain ⟨k, kept, same⟩ := (distinct_spec [] cs).2.2 c mem
    refine ⟨k, kept, ?_⟩
    rcases same with rfl | equal
    · exact decides
    · rw [← matched_of_beq equal, decides]

/-- The leaf that decides a node is a decisive member. -/
lemma decided_of_contains {cs : List (Query R)} (absorbs : cs.contains j.absorbing = true) :
    j.Decided spot cs := by
  obtain ⟨k, mem, equal⟩ := List.contains_iff_exists_mem_beq.mp absorbs
  refine ⟨k, mem, ?_⟩
  rw [← matched_of_beq equal, facts_absorbing]
  rfl

/-- A leaf that does not matter is not decisive. -/
lemma matched_ne_of_identity {c : Query R} (equal : (c == j.identity) = true) :
    (c.facts spot).matched ≠ j.decisive := by
  rw [matched_of_beq equal, facts_identity]
  cases j <;> decide

/-- Members that do not matter decide nothing. -/
lemma decided_filter (cs : List (Query R)) :
    j.Decided spot (cs.filter (· != j.identity)) ↔ j.Decided spot cs := by
  constructor
  · rintro ⟨c, mem, decides⟩
    exact ⟨c, (List.mem_filter.mp mem).1, decides⟩
  · rintro ⟨c, mem, decides⟩
    refine ⟨c, List.mem_filter.mpr ⟨mem, ?_⟩, decides⟩
    rw [bne, Bool.not_eq_true']
    by_contra equal
    rw [Bool.not_eq_false] at equal
    exact matched_ne_of_identity equal decides

/-- Members that do not matter may be dropped, and with them the node if there are no others. -/
lemma facts_withoutIdentity (cs : List (Query R)) :
    (j.withoutIdentity cs).value.facts spot = (join j.operator cs).facts spot := by
  rw [withoutIdentity]
  split
  · next none =>
    obtain ⟨_, all⟩ := (Bool.and_eq_true _ _).mp none
    have undecided : ¬j.Decided spot cs := by
      rintro ⟨c, mem, decides⟩
      exact matched_ne_of_identity (List.all_eq_true.mp all c mem) decides
    have simple : Simple spot (j.identity : Query R) := by cases j <;> rfl
    apply facts_eq j simple (simple_operator j cs)
    rw [matched_operator, iff_false_right undecided, facts_identity]
    cases j <;> decide
  · apply facts_eq j (simple_operator j _) (simple_operator j cs)
    rw [matched_operator, matched_operator, decided_filter]

/-- The rules for one boolean node keep what is true of it. -/
theorem facts_simplify (j : Junction) (members : Simplified (List (Query R))) :
    (j.simplify members).value.facts spot = (join j.operator members.value).facts spot := by
  have once : j.Decided spot (distinct [] (j.splice members.value).value).value ↔
      j.Decided spot members.value := (decided_distinct _).trans (decided_splice _)
  rw [simplify]
  dsimp only
  split
  · next absorbs =>
    have simple : Simple spot (j.absorbing : Query R) := by cases j <;> rfl
    apply facts_eq j simple (simple_operator j _)
    rw [matched_operator, facts_absorbing]
    exact iff_of_true rfl (once.mp (decided_of_contains absorbs))
  · rw [facts_withoutIdentity]
    apply facts_eq j (simple_operator j _) (simple_operator j _)
    rw [matched_operator, matched_operator, once]

end Junction

/-! ## Passes -/

mutual

/-- The boolean rules keep what is true of a query. -/
theorem facts_junctionPass (spot : Spot) :
    (q : Query R) → q.junctionPass.value.facts spot = q.facts spot
  | .leaf l => by rw [junctionPass]
  | .modify m c => by
    rw [junctionPass]
    exact congrArg m.facts (facts_junctionPass spot c)
  | .join op cs => by
    have inner := facts_junctionPassAll spot cs
    rcases Junction.operator_cases op with ⟨j, rfl⟩ | other
    · rw [junctionPass_junction, Junction.facts_simplify, facts, inner, facts]
    · rw [junctionPass_join other]
      exact congrArg op.facts inner
  | .require c v => by
    rw [junctionPass]
    exact congrArg₂ Facts.require (facts_junctionPass spot c) (facts_junctionPass spot v)

theorem facts_junctionPassAll (spot : Spot) :
    (cs : List (Query R)) → factsAll spot (junctionPassAll cs).value = factsAll spot cs
  | [] => by rw [junctionPassAll]
  | c :: cs => by
    rw [junctionPassAll]
    exact congrArg₂ List.cons (facts_junctionPass spot c) (facts_junctionPassAll spot cs)

end

/-- What is true of a query in a document is true of it when it is simplified. -/
theorem facts_simplify {passes : Nat} {q simple : Query R}
    (simplified : q.simplify passes = .ok simple) : SameFacts q simple := by
  obtain ⟨_, checked, _⟩ := bind_eq_ok simplified
  have step : ∀ q', q'.Even .docs ∧ SameFacts q q' →
      q'.pass.value.Even .docs ∧ SameFacts q q'.pass.value := by
    rintro q' ⟨even, same⟩
    refine ⟨Everywhere.pass even_lasting even, fun spot => ?_⟩
    rw [pass, same spot, sameFacts_sumLaws.weightPass even spot]
    exact (facts_junctionPass spot _).symm
  exact (settle?_induction step ⟨even_of_checkWeights q checked, sameFacts_congruence.refl q⟩
    (settled_of_simplify simplified)).2

/-! ## Compiled queries -/

omit [Scalar R]

mutual

/-- Facts do not depend on what is needed of the terms. -/
theorem facts_unmarked (spot : Spot) : (q : Query R) → q.unmarked.facts spot = q.facts spot
  | .leaf l => by cases l <;> rfl
  | .modify m c => by
    rw [unmarked_modify]
    exact congrArg m.facts (facts_unmarked spot c)
  | .join op cs => by
    rw [unmarked_join]
    exact congrArg op.facts (factsAll_unmarked spot cs)
  | .require c v => by
    rw [unmarked_require]
    exact congrArg₂ Facts.require (facts_unmarked spot c) (facts_unmarked spot v)

theorem factsAll_unmarked (spot : Spot) :
    (cs : List (Query R)) → factsAll spot (cs.map unmarked) = factsAll spot cs
  | [] => rfl
  | c :: cs => congrArg₂ List.cons (facts_unmarked spot c) (factsAll_unmarked spot cs)

end

/-- Queries that differ in what is needed of terms have the same facts. -/
lemma facts_congr {q q' : Query R} (same : q.unmarked = q'.unmarked) : SameFacts q q' :=
  fun spot => by rw [← facts_unmarked spot q, same, facts_unmarked]

variable [Scalar R]

end Query

namespace Tree

variable {R : Type} [Scalar R]

/-- Both trees have the answers that go with a need, and these are the same; scores are left out. -/
structure Same (need : Need) (t t' : Tree R) : Prop where
  matched : ∃ answer, t.matched.1 = .ok answer ∧ t'.matched.1 = .ok answer
  count : need = .counts ∨ need = .positions →
    ∃ answer, t.count.1 = .ok answer ∧ t'.count.1 = .ok answer
  positions : need = .positions →
    ∃ answer, t.positions.1 = .ok answer ∧ t'.positions.1 = .ok answer

/-- Trees that tell the same and have the answers that go with a need have the same answers. -/
lemma Tells.same {need : Need} {t t' : Tree R} {f : Facts} {s s' : R} (tells : t.Tells f s)
    (tells' : t'.Tells f s') (gives : t.Gives False need) (gives' : t'.Gives False need) :
    t.Same need t' where
  matched := by
    obtain ⟨answer, told⟩ := gives.matched.exists_ok id
    obtain ⟨answer', told'⟩ := gives'.matched.exists_ok id
    exact ⟨answer, told, tells.matched answer told ▸ tells'.matched answer' told' ▸ told'⟩
  count asked := by
    obtain ⟨answer, told⟩ := (gives.count asked).exists_ok id
    obtain ⟨answer', told'⟩ := (gives'.count asked).exists_ok id
    exact ⟨answer, told, tells.count answer told ▸ tells'.count answer' told' ▸ told'⟩
  positions asked := by
    obtain ⟨answer, told⟩ := (gives.positions asked).exists_ok id
    obtain ⟨answer', told'⟩ := (gives'.positions asked).exists_ok id
    exact ⟨answer, told, tells.positions answer told ▸ tells'.positions answer' told' ▸ told'⟩

end Tree

namespace Query

variable {R : Type} [Scalar R]

/-- A tree compiled for a need has the answers that go with it, whatever was asked before. -/
lemma gives_of_infer {need : Need} {q q' : Query R} {segment : Segment} {defaultField : String}
    {share : Bool} {t : Tree R} (noRaw : NoRaw q) (inferred : q.infer need = .ok q')
    (compiled : Session.tree segment defaultField share q' = .ok t) {calls : List Tree.Call}
    {doc : Nat} (here : Tree.placeAfter none calls = some doc) (inside : doc < segment.size) :
    (t.after calls).Gives False need := by
  obtain ⟨_, o, t', _, tree_eq, compiled', stands⟩ | ⟨e, _, failed⟩ :=
    Session.tree_compiled segment defaultField share q'
  · cases compiled.symm.trans tree_eq
    have typed := infer_typed noRaw inferred
    have gives : Tree.Gives False need { t.after calls with root := t.root } :=
      compiled'.gives stands typed here inside nofun .root
    rw [← t.after_root calls] at gives
    exact gives
  · cases compiled.symm.trans failed

end Query

end Retrieval
