import Retrieval.Proofs.Evaluation.Simplification
import Retrieval.Proofs.Query.Fields
import Retrieval.Proofs.Query.Settled
import Retrieval.Proofs.Scalar.Exact

/-!
# Simplification keeps exact scores

Where scalars are added and multiplied exactly (`Scalar.Exact`), a simplified query has the scores
of the query in every document, however retrieval models score (`Query.simplify_exact`). No
conjunction and no disjunction may stand below a scorer: these can lose members, and a scorer is
normalised by the field that its terms are counted in.
-/

namespace Retrieval

namespace Query

variable {R : Type} [Scalar R]

/-! ## Totals -/

/-- The sum of scores with their weights. -/
def total (ps : List (R × R)) : R := ps.foldl (fun sum p => sum + p.2 * p.1) Scalar.zero

section Total

variable [Scalar.Exact R]

lemma foldl_total (ps : List (R × R)) (init : R) :
    ps.foldl (fun sum p => sum + p.2 * p.1) init = init + total ps := by
  induction ps generalizing init with
  | nil => rw [total, List.foldl_nil, List.foldl_nil, Scalar.Exact.add_comm, Scalar.Exact.zero_add]
  | cons p ps ih =>
    rw [total, List.foldl_cons, List.foldl_cons, ih, ih, Scalar.Exact.zero_add,
      Scalar.Exact.add_assoc]

lemma total_cons (p : R × R) (ps : List (R × R)) : total (p :: ps) = p.2 * p.1 + total ps := by
  rw [total, List.foldl_cons, foldl_total, Scalar.Exact.zero_add]

lemma total_append (ps qs : List (R × R)) : total (ps ++ qs) = total ps + total qs := by
  rw [total, List.foldl_append, foldl_total]
  rfl

/-- A weight may be multiplied with a total or with the weights in it. -/
lemma total_scaled (w : R) (ps : List (R × R)) :
    total (ps.map fun p => (p.1, w * p.2)) = w * total ps := by
  induction ps with
  | nil => exact (Scalar.Exact.mul_zero w).symm
  | cons p ps ih =>
    rw [List.map_cons, total_cons, total_cons, ih, Scalar.Exact.mul_add, Scalar.Exact.mul_assoc]

end Total

/-! ## Queries with the same scores -/

/-- Both queries have the same facts and the same scores, and so have scorers over them. -/
structure SameScores (q q' : Query R) : Prop where
  facts : SameFacts q q'
  fields : SameFields q q'
  score : ∀ (rate : Rating R) (spot : Spot), q.score rate spot = q'.score rate spot

namespace SameScores

lemma refl (q : Query R) : SameScores q q := ⟨fun _ => rfl, .refl q, fun _ _ => rfl⟩

lemma forall₂ {cs ds : List (Query R)} (same : List.Forall₂ SameScores cs ds) :
    List.Forall₂ SameFacts cs ds ∧ List.Forall₂ SameFields cs ds ∧
      ∀ (rate : Rating R) (spot : Spot), scoreAll rate spot cs = scoreAll rate spot ds := by
  refine ⟨same.imp fun _ _ => facts, same.imp fun _ _ => fields, fun rate spot => ?_⟩
  induction same with
  | nil => rfl
  | cons first _ ih => rw [scoreAll, scoreAll, first.score rate spot, ih]

/-- A modifier makes the same of the scores of queries that scorers do not tell apart. -/
lemma modifier {m : Modifier R} {c d : Query R} (same : SameScores c d) (rate : Rating R)
    (spot : Spot) (inner : R) : m.score rate spot c inner = m.score rate spot d inner := by
  cases m <;> simp only [Modifier.score, same.facts spot, same.fields.scorerField]

lemma modify {c d : Query R} (same : SameScores c d) (m : Modifier R) :
    SameScores (.modify m c) (.modify m d) := by
  refine ⟨sameFacts_congruence.modify (.inl rfl) same.facts, same.fields.modify,
    fun rate spot => ?_⟩
  rw [Query.score, Query.score, same.score rate spot, same.modifier]

lemma join {cs ds : List (Query R)} (same : List.Forall₂ SameScores cs ds) (op : Operator R) :
    SameScores (.join op cs) (.join op ds) := by
  obtain ⟨facts, fields, scores⟩ := SameScores.forall₂ same
  refine ⟨sameFacts_congruence.join (.inl rfl) facts, .join fields, fun rate spot => ?_⟩
  rw [Query.score, Query.score, factsAll_congr facts spot, scores]

lemma require {c v d w : Query R} (same : SameScores c d) (same' : SameScores v w) :
    SameScores (.require c v) (.require d w) := by
  refine ⟨sameFacts_congruence.require same.facts same'.facts, same.fields.require same'.fields,
    fun rate spot => ?_⟩
  rw [Query.score, Query.score, same.facts spot, same'.score rate spot]

end SameScores

/-- Scores depend only on those of the children where equal scalars are the same. -/
lemma sameScores_congruence [LawfulBEq R] : Congruence (SameScores (R := R)) where
  refl := SameScores.refl
  symm same := ⟨sameFacts_congruence.symm same.facts, same.fields.symm,
    fun rate spot => (same.score rate spot).symm⟩
  trans same same' := ⟨sameFacts_congruence.trans same.facts same'.facts,
    same.fields.trans same'.fields,
    fun rate spot => (same.score rate spot).trans (same'.score rate spot)⟩
  leaf equal := leaf_eq_of_beq equal ▸ .refl _
  modify {m _ _ _} alike same := alike.elim id modifier_eq_of_beq ▸ same.modify m
  join {o _ _ _} alike same := alike.elim id operator_eq_of_beq ▸ SameScores.join same o
  require same same' := same.require same'

/-! ## The laws of weighted sums -/

lemma score_sumOf (rate : Rating R) (spot : Spot) (ps : List (Query R × R)) :
    (sumOf ps).score rate spot = total (ps.map fun p => (p.1.score rate spot, p.2)) := by
  rw [sumOf, score, Operator.score, scoreAll_eq_map, total, List.map_map, List.zip_map']
  rfl

lemma sameScores_sumLaws [Scalar.Exact R] : SumLaws (SameScores (R := R)) where
  toCongruence := sameScores_congruence
  single w c := by
    refine ⟨sameFacts_sumLaws.single w c, sameFields_sumLaws.single w c, fun rate spot => ?_⟩
    rw [score_sumOf]
    exact (Scalar.Exact.zero_add _).symm
  nest ps qs rs w := by
    refine ⟨sameFacts_sumLaws.nest ps qs rs w, sameFields_sumLaws.nest ps qs rs w,
      fun rate spot => ?_⟩
    simp only [score_sumOf, List.map_append, List.map_cons, List.map_map, total_append, total_cons]
    rw [← total_scaled, List.map_map]
    rfl
  swap rs w := by
    refine ⟨sameFacts_sumLaws.swap rs w, sameFields_sumLaws.swap rs w, fun rate spot => ?_⟩
    simp only [Scalar.Exact.mul_comm w]
  merge ps qs rs c u w := by
    refine ⟨sameFacts_sumLaws.merge ps qs rs c u w, sameFields_sumLaws.merge ps qs rs c u w,
      fun rate spot => ?_⟩
    simp only [score_sumOf, List.map_append, List.map_cons, total_append, total_cons]
    rw [Scalar.Exact.add_mul, Scalar.Exact.add_assoc (u * _),
      Scalar.Exact.add_left_comm (w * _)]

/-! ## Boolean rules -/

/-- No node is a conjunction or a disjunction, whatever is needed of the query. -/
def Plain (need : Need) : Query R → Prop :=
  Everywhere (fun _ q => ∀ (j : Junction) cs, q ≠ .join j.operator cs) need

/-- No conjunction and no disjunction is below a scorer, whatever is needed of the query. -/
def ScorersPlain (need : Need) : Query R → Prop :=
  Everywhere (fun _ q => ∀ model stats c, q = .modify (.scorer model stats) c → c.Plain .docs) need

omit [Scalar R] in
lemma plain_of_nodes {need : Need} {q : Query R}
    (plain : ∀ (j : Junction) cs, .join j.operator cs ∉ q.nodes) : q.Plain need :=
  everywhere_of_nodes q fun _ mem j cs e => plain j cs (e ▸ mem)

omit [Scalar R] in
lemma scorersPlain_of_nodes {need : Need} {q : Query R}
    (plain : ∀ model stats c, .modify (.scorer model stats) c ∈ q.nodes →
      ∀ (j : Junction) cs, .join j.operator cs ∉ c.nodes) : q.ScorersPlain need :=
  everywhere_of_nodes q fun _ mem model stats c e => plain_of_nodes (plain model stats c (e ▸ mem))

/-- The rules for weights make no conjunctions and no disjunctions. -/
lemma plain_lasting :
    Lasting fun (_ : Need) (q : Query R) => ∀ (j : Junction) cs, q ≠ .join j.operator cs where
  weight := fun _ _ _ => nofun
  spread := fun _ _ _ j _ => by cases j <;> exact nofun
  combine := fun _ _ j _ => by cases j <;> exact nofun
  decided := fun plain => absurd rfl (plain _ _)
  junction := fun plain _ => absurd rfl (plain _ _)
  modify := fun _ => ⟨fun _ _ => nofun, fun _ _ => nofun⟩
  join := fun {_ op cs _} plain _ j ds e => by
    obtain ⟨rfl, rfl⟩ := join.inj e
    exact plain j cs rfl
  require := fun _ _ _ => nofun

/-- Rewriting rules put no conjunction and no disjunction below a scorer. -/
lemma scorersPlain_lasting :
    Lasting fun (_ : Need) (q : Query R) =>
      ∀ model stats c, q = .modify (.scorer model stats) c → c.Plain .docs where
  weight := fun _ _ _ _ => nofun
  spread := fun _ _ _ _ _ _ => nofun
  combine := fun _ _ _ _ _ => nofun
  decided := fun _ => ⟨fun _ _ _ => nofun, fun _ _ _ => nofun⟩
  junction := fun _ _ _ _ _ => nofun
  modify := fun {_ m c} plain => by
    constructor
    · rintro model stats _ ⟨rfl, rfl⟩
      exact (Everywhere.weightPass plain_lasting).1 c (plain model stats c rfl)
    · rintro model stats _ ⟨rfl, rfl⟩
      exact Everywhere.junctionPass plain_lasting c (plain model stats c rfl)
  join := fun _ _ _ _ _ => nofun
  require := fun _ _ _ _ => nofun

/-- No boolean rule fires where there is nothing boolean. -/
lemma Plain.settled {need : Need} {q : Query R} (plain : q.Plain need) : q.Settled := by
  induction plain with
  | leaf => exact .leaf
  | modify _ _ ih => exact .modify ih
  | @join _ op cs here _ ih =>
    refine .join (fun j same => absurd ?_ (here j cs)) ih
    rw [same]
  | require _ _ _ ihc ihv => exact .require ihc ihv

/-- A boolean node scores one where it matches and zero elsewhere. -/
lemma Junction.score_simplify (rate : Rating R) (spot : Spot) (j : Junction)
    (members : Simplified (List (Query R))) :
    (j.simplify members).value.score rate spot =
      Scalar.ofBool ((j.simplify members).value.facts spot).matched := by
  rw [simplify]
  dsimp only
  split
  · cases j <;> rfl
  · rw [withoutIdentity]
    split <;> cases j <;> rfl

mutual

/-- The boolean rules keep the scores of a query with nothing boolean below scorers. -/
theorem score_junctionPass (rate : Rating R) (spot : Spot) {need : Need} :
    (q : Query R) → q.ScorersPlain need → q.junctionPass.value.score rate spot = q.score rate spot
  | .leaf l, _ => by rw [junctionPass]
  | .modify m c, .modify plain inner => by
    rw [junctionPass]
    have same := score_junctionPass rate spot c inner
    have facts := facts_junctionPass spot c
    change m.score rate spot c.junctionPass.value (c.junctionPass.value.score rate spot) = _
    rw [score, same]
    cases m with
    | scorer model stats => rw [(plain model stats c rfl).settled.junctionPass_eq]
    | _ => simp only [Modifier.score, facts]
  | .join op cs, .join _ inner => by
    have same := score_junctionPassAll rate spot cs inner
    have facts := facts_junctionPassAll spot cs
    rcases Junction.operator_cases op with ⟨j, rfl⟩ | other
    · rw [junctionPass_junction, Junction.score_simplify, Junction.facts_simplify, Query.facts, facts]
      cases j <;> rfl
    · rw [junctionPass_join other]
      change op.score (factsAll spot (junctionPassAll cs).value)
        (scoreAll rate spot (junctionPassAll cs).value) = _
      rw [facts, same, score]
  | .require c v, .require _ cond value => by
    rw [junctionPass]
    change (if (c.junctionPass.value.facts spot).matched then v.junctionPass.value.score rate spot
      else Scalar.miss) = _
    rw [facts_junctionPass, score_junctionPass rate spot v value, score]

theorem score_junctionPassAll (rate : Rating R) (spot : Spot) {need : Need} :
    (cs : List (Query R)) → (∀ c ∈ cs, c.ScorersPlain need) →
      scoreAll rate spot (junctionPassAll cs).value = scoreAll rate spot cs
  | [], _ => by rw [junctionPassAll]
  | c :: cs, each => by
    obtain ⟨first, rest⟩ := List.forall_mem_cons.mp each
    rw [junctionPassAll]
    exact congrArg₂ List.cons (score_junctionPass rate spot c first)
      (score_junctionPassAll rate spot cs rest)

end

/-! ## Simplified queries -/

/-- A simplified query has the scores of the query, however models score, if nothing boolean is
below a scorer. -/
theorem score_simplify [Scalar.Exact R] {passes : Nat} {q simple : Query R}
    (plain : q.ScorersPlain .docs) (simplified : q.simplify passes = .ok simple) (rate : Rating R)
    (spot : Spot) : simple.score rate spot = q.score rate spot := by
  have step : ∀ q' : Query R,
      q'.Even .docs ∧ q'.ScorersPlain .docs ∧ q'.score rate spot = q.score rate spot →
      q'.pass.value.Even .docs ∧ q'.pass.value.ScorersPlain .docs ∧
        q'.pass.value.score rate spot = q.score rate spot := by
    rintro q' ⟨even, plain, same⟩
    refine ⟨Everywhere.pass even_lasting even, Everywhere.pass scorersPlain_lasting plain, ?_⟩
    rw [pass, ← same, (sameScores_sumLaws.weightPass even).score rate spot]
    exact score_junctionPass rate spot _ ((Everywhere.weightPass scorersPlain_lasting).1 q' plain)
  obtain ⟨_, checked, _⟩ := bind_eq_ok simplified
  exact (settle?_induction step ⟨even_of_checkWeights q checked, plain, rfl⟩
    (settled_of_simplify simplified)).2.2

/-! ## Compiled queries -/

mutual

/-- What is needed of terms does not matter to scores. -/
theorem sameScores_unmarked : (q : Query R) → SameScores q.unmarked q
  | .leaf l => by
    refine ⟨fun spot => facts_unmarked spot _, sameFields_unmarked _, fun rate spot => ?_⟩
    cases l <;> rfl
  | .modify m c => by
    rw [unmarked_modify]
    exact (sameScores_unmarked c).modify m
  | .join op cs => by
    rw [unmarked_join]
    exact .join (sameScores_unmarkedAll cs) op
  | .require c v => by
    rw [unmarked_require]
    exact (sameScores_unmarked c).require (sameScores_unmarked v)

theorem sameScores_unmarkedAll :
    (cs : List (Query R)) → List.Forall₂ SameScores (cs.map unmarked) cs
  | [] => .nil
  | c :: cs => .cons (sameScores_unmarked c) (sameScores_unmarkedAll cs)

end

/-- Queries that differ in what is needed of terms have the same scores. -/
lemma score_congr {q q' : Query R} (same : q.unmarked = q'.unmarked) (rate : Rating R)
    (spot : Spot) : q.score rate spot = q'.score rate spot := by
  rw [← (sameScores_unmarked q).score, same, (sameScores_unmarked q').score]

/-- Scores stay the same when needs are inferred. -/
lemma score_infer {need : Need} {q q' : Query R} (inferred : q.infer need = .ok q')
    (rate : Rating R) (spot : Spot) : q'.score rate spot = q.score rate spot :=
  score_congr (infer_unmarked inferred) rate spot

/-- In exact arithmetic a simplified query has the scores of the query in every document, however
models score, if nothing boolean is below a scorer. A query that is accepted for scores is accepted
when it is simplified. Its compiled trees give the scores that those of the query give, whatever
either was asked before; and there are scores, unless a leaf is in the words of the index. -/
theorem simplify_exact [Scalar.Exact R] {passes : Nat} {q simple q' : Query R}
    (plain : ∀ model stats c, .modify (.scorer model stats) c ∈ q.nodes →
      ∀ (j : Junction) cs, .join j.operator cs ∉ c.nodes)
    (simplified : q.simplify passes = .ok simple) (inferred : q.infer .scores = .ok q') :
    (∀ rate spot, simple.score rate spot = q.score rate spot) ∧
      ∃ simple', simple.infer .scores = .ok simple' ∧
        ∀ {segment : Segment} {defaultField : String} {share share' : Bool} {t t' : Tree R}
          {calls calls' : List Tree.Call} {doc : Nat},
          Session.tree segment defaultField share q' = .ok t →
          Session.tree segment defaultField share' simple' = .ok t' →
          Tree.placeAfter none calls = some doc → Tree.placeAfter none calls' = some doc →
          (∀ s s', (t.after calls).score.1 = .ok s → (t'.after calls').score.1 = .ok s' → s' = s) ∧
            (NoRaw q → doc < segment.size →
              ∃ s, (t.after calls).score.1 = .ok s ∧ (t'.after calls').score.1 = .ok s) := by
  have same := score_simplify (scorersPlain_of_nodes plain) simplified
  obtain ⟨simple', inferred'⟩ := exists_infer_of_simplify simplified inferred
  refine ⟨same, simple', inferred', fun compiled compiled' here here' => ?_⟩
  have tells := (Session.tree_tells compiled here).score
  have tells' := (Session.tree_tells compiled' here').score
  simp only [score_infer inferred', same, score_infer inferred] at tells tells'
  refine ⟨fun s s' told told' => (tells' s' told').trans (tells s told).symm, fun noRaw inside => ?_⟩
  have noRaw' : NoRaw simple := noRaw.simplify simplified
  have gives := gives_of_infer noRaw inferred compiled here inside
  have gives' := gives_of_infer noRaw' inferred' compiled' here' inside
  obtain ⟨s, told⟩ := (gives.score rfl).exists_ok id
  obtain ⟨s', told'⟩ := (gives'.score rfl).exists_ok id
  rw [(tells' s' told').trans (tells s told).symm] at told'
  exact ⟨s, told, told'⟩

/-- A scorer that occurs twice in nested sums and below several weights. -/
theorem simplify_exact_nested :
    let docs : List Document := [⟨"d0", [("body", "a b")]⟩, ⟨"d1", [("body", "a a")]⟩]
    let segment := Segment.ofDocuments 0 docs
    let scorer (needed : Need) : Query ℚ := .modify
      (.scorer (.dirichlet (some 10)) (some ⟨"body:a", 3, 2, 4, 2⟩))
      (.leaf (.term { text := "a", field := some "body", needed }))
    let q (needed : Need) : Query ℚ :=
      weighted 2 (.join (.combine [1, 3]) [scorer needed, weighted 5 (scorer needed)])
    let simple (needed : Need) : Query ℚ := .join (.combine [32]) [scorer needed]
    (q .docs).simplify 3 = .ok (simple .docs) ∧ (q .docs).infer .scores = .ok (q .counts) ∧
      (∀ rate spot, (simple .docs).score rate spot = (q .docs).score rate spot) ∧
      ∃ t t', Session.tree segment "body" true (q .counts) = .ok t ∧
        Session.tree segment "body" true (simple .counts) = .ok t' ∧
        ∃ s, (t.after [.moveTo 1]).score.1 = .ok s ∧ (t'.after [.moveTo 1]).score.1 = .ok s := by
  intro docs segment scorer q simple
  have noRaw : NoRaw (q .docs) := by simp [NoRaw, q, scorer, weighted, nodes, nodesAll]
  have plain : ∀ model stats c, .modify (.scorer model stats) c ∈ (q .docs).nodes →
      ∀ (j : Junction) cs, .join j.operator cs ∉ c.nodes := by
    intro model stats c mem j cs
    have child : c = .leaf (.term { text := "a", field := some "body", needed := .docs }) := by
      simp [q, scorer, weighted, nodes, nodesAll] at mem
      exact mem.2
    rw [child, nodes, List.mem_singleton]
    intro e
    cases e
  have simplified : (q .docs).simplify 3 = .ok (simple .docs) := by
    have equal : ((q .docs).simplify 3).toOption.any (· == simple .docs) = true := by
      decide +kernel
    cases h : (q .docs).simplify 3 with
    | error e =>
      rw [h] at equal
      cases equal
    | ok simple' =>
      rw [h] at equal
      rw [query_eq_of_beq equal]
  have inferred : (q .docs).infer .scores = .ok (q .counts) := by rfl
  have inferred' : (simple .docs).infer .scores = .ok (simple .counts) := by rfl
  have compiles : (Session.tree segment "body" true (q .counts)).isOk = true := by decide +kernel
  have compiles' : (Session.tree segment "body" true (simple .counts)).isOk = true := by
    decide +kernel
  obtain ⟨same, simple', inferred'', trees⟩ := simplify_exact plain simplified inferred
  cases inferred'.symm.trans inferred''
  refine ⟨simplified, inferred, same, ?_⟩
  obtain ⟨t, compiled⟩ := exists_of_isOk compiles
  obtain ⟨t', compiled'⟩ := exists_of_isOk compiles'
  exact ⟨t, t', compiled, compiled', (trees compiled compiled' rfl rfl).2 noRaw (by decide)⟩

end Query

end Retrieval
