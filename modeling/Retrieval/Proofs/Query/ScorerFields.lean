import Retrieval.Proofs.Query.Fields
import Retrieval.Proofs.Query.Origins

/-!
# Simplification and the fields of scorers

A scorer of a simplified query has been a scorer of the query, and its child is what the child has
been simplified to (`Query.simplify_scorerField`). The child is normalised by the same field as
before. There is one exception. A leaf that decides a conjunction or a disjunction takes the place of
the whole node; if it takes away the last term below the scorer, the default field is left
(`Query.simplify_decided`). Equal members and those that do not matter are dropped without such loss.
-/

namespace Retrieval

namespace Query

variable {R : Type} [Scalar R]

/-! ## Boolean nodes that nothing decides -/

/-- Below no conjunction and no disjunction is there a leaf that decides it. -/
def Undecided (q : Query R) : Prop :=
  ∀ (j : Junction) cs, .join j.operator cs ∈ q.nodes → j.absorbing ∉ nodesAll cs

omit [Scalar R] in
lemma Undecided.of_subset {q n : Query R} (undecided : q.Undecided) (sub : n.nodes ⊆ q.nodes) :
    n.Undecided :=
  fun j cs mem => undecided j cs (sub mem)

omit [Scalar R] in
/-- The leaf that decides an operator is a leaf. -/
lemma Junction.exists_absorbing (j : Junction) : ∃ l, (j.absorbing : Query R) = .leaf l := by
  cases j <;> exact ⟨_, rfl⟩

/-- The rules for weights make a boolean node only of one. -/
lemma junction_of_weightPass {q : Query R} {j : Junction} {ds : List (Query R)}
    (made : q.weightPass.value = .join j.operator ds) :
    ∃ cs, q = .join j.operator cs ∧ ds = (weightPassAll cs).value := by
  revert made
  cases j <;> fun_cases weightPass q <;> intro made <;> cases made <;> exact ⟨_, rfl, rfl⟩

/-- The boolean rules make a boolean node only of one, and put nothing below it. -/
lemma junction_of_junctionPass {q : Query R} {j : Junction} {ds : List (Query R)}
    (made : q.junctionPass.value = .join j.operator ds) :
    ∃ cs, q = .join j.operator cs ∧ nodesAll ds ⊆ nodesAll (junctionPassAll cs).value := by
  cases q with
  | leaf l =>
    rw [junctionPass] at made
    cases made
  | modify m c =>
    rw [junctionPass] at made
    cases made
  | join op cs =>
    rcases junctionPass_join_cases op cs with ⟨l, _, _, same⟩ | ⟨ds', same, less⟩
    · rw [same] at made
      cases made
    · rw [same] at made
      cases made
      exact ⟨cs, rfl, less⟩
  | require c v =>
    rw [junctionPass] at made
    cases made

lemma Undecided.weightPass {q : Query R} (undecided : q.Undecided) :
    q.weightPass.value.Undecided := by
  intro j ds mem decided
  obtain ⟨n, within, made⟩ := weightPass_stems.1 q _ mem
  obtain ⟨cs, rfl, rfl⟩ := junction_of_weightPass made
  obtain ⟨n', within', made'⟩ := weightPass_stems.2.2 cs _ decided
  obtain ⟨l, absorbing⟩ := j.exists_absorbing (R := R)
  rw [absorbing] at made'
  have same := leaf_of_weightPass made'
  exact undecided j cs within (absorbing ▸ same ▸ within')

lemma Undecided.junctionPass {q : Query R} (undecided : q.Undecided) :
    q.junctionPass.value.Undecided := by
  intro j ds mem decided
  obtain ⟨n, within, made⟩ := junctionPass_stems q _ mem
  obtain ⟨cs, rfl, less⟩ := junction_of_junctionPass made
  replace decided := less decided
  obtain ⟨l, absorbing⟩ := j.exists_absorbing (R := R)
  rw [absorbing] at decided
  exact undecided j cs within (absorbing ▸ leaf_mem_of_junctionPassAll cs decided)

/-! ## Fields below a boolean node -/

namespace Junction

variable {j : Junction}

omit [Scalar R] in
/-- Splicing keeps the fields. -/
lemma sameFields_splice (cs : List (Query R)) :
    SameFields (.join j.operator cs) (.join j.operator (j.splice cs).value) := by
  refine .of_members fun f => ?_
  rw [splice_value]
  have inner (c : Query R) : (∃ t ∈ c.terms, t.field = f) ↔
      ∃ d ∈ (j.members? c).getD [c], ∃ t ∈ d.terms, t.field = f := by
    cases e : j.members? c with
    | none => simp
    | some inner =>
      rw [members?_eq_some e]
      exact exists_termsAll
  constructor
  · rintro ⟨c, within, named⟩
    obtain ⟨d, mem, named⟩ := (inner c).mp named
    exact ⟨d, List.mem_flatMap.mpr ⟨c, within, mem⟩, named⟩
  · rintro ⟨d, mem, named⟩
    obtain ⟨c, within, mem⟩ := List.mem_flatMap.mp mem
    exact ⟨c, within, (inner c).mpr ⟨d, mem, named⟩⟩

/-- Dropping equal members keeps the fields. -/
lemma sameFields_distinct (cs : List (Query R)) :
    SameFields (.join j.operator cs) (.join j.operator (distinct [] cs).value) := by
  refine .of_members fun f => ⟨?_, ?_⟩
  · rintro ⟨c, mem, named⟩
    obtain ⟨k, kept, rfl | same⟩ := (distinct_spec [] cs).2.2 c mem
    · exact ⟨k, kept, named⟩
    · exact ⟨k, kept, ((sameFields_congruence.of_beq c k same).terms f).mp named⟩
  · rintro ⟨c, mem, named⟩
    exact ⟨c, mem_of_mem_distinct mem, named⟩

/-- Dropping the members that do not matter keeps the fields, for these have no terms. -/
lemma sameFields_withoutIdentity (cs : List (Query R)) :
    SameFields (.join j.operator cs) (j.withoutIdentity cs).value := by
  have free {c : Query R} (neutral : (c == j.identity) = true) (f : Option String) :
      ¬∃ t ∈ c.terms, t.field = f := by
    rw [eq_identity_of_beq neutral]
    rintro ⟨t, mem, _⟩
    cases j <;> cases mem
  rw [withoutIdentity]
  split
  · next only =>
    have all := List.all_eq_true.mp ((Bool.and_eq_true _ _).mp only).2
    refine ⟨fun f => iff_of_false ?_ (free (by cases j <;> rfl) f), fun l => iff_of_false ?_ ?_⟩
    · rw [terms, exists_termsAll]
      rintro ⟨c, mem, named⟩
      exact free (all c mem) f named
    · intro same
      cases same
    · intro same
      cases j <;> cases same
  · refine .of_members fun f => ⟨?_, ?_⟩
    · rintro ⟨c, mem, named⟩
      refine ⟨c, List.mem_filter.mpr ⟨mem, ?_⟩, named⟩
      rw [bne, Bool.not_eq_true', ← Bool.not_eq_true]
      exact fun neutral => free neutral f named
    · rintro ⟨c, mem, named⟩
      exact ⟨c, (List.mem_filter.mp mem).1, named⟩

/-- A boolean node that nothing decides keeps its fields. -/
lemma sameFields_simplify {members : Simplified (List (Query R))}
    (undecided : j.absorbing ∉ nodesAll members.value) :
    SameFields (.join j.operator members.value) (j.simplify members).value := by
  have once := (sameFields_splice (j := j) members.value).trans
    (sameFields_distinct (j.splice members.value).value)
  rw [simplify]
  dsimp only
  split
  · next decided =>
    obtain ⟨c, within, same⟩ := List.contains_iff_exists_mem_beq.mp decided
    refine absurd (j.nodesAll_once _ (mem_nodesAll.mpr ⟨c, within, ?_⟩)) undecided
    rw [eq_absorbing_of_beq same]
    cases j <;> exact List.mem_cons_self
  · exact once.trans (sameFields_withoutIdentity _)

end Junction

mutual

/-- The boolean rules keep the fields of a query in which nothing is decided. -/
theorem sameFields_junctionPass :
    (q : Query R) → q.Undecided → SameFields q q.junctionPass.value
  | .leaf l, _ => by
    rw [junctionPass]
    exact .refl _
  | .modify m c, undecided => by
    rw [junctionPass]
    exact .modify (sameFields_junctionPass c (undecided.of_subset (List.subset_cons_self _ _)))
  | .join op cs, undecided => by
    have inner := sameFields_junctionPassAll cs fun j ds mem =>
      undecided j ds (List.mem_cons_of_mem _ mem)
    rcases Junction.operator_cases op with ⟨j, rfl⟩ | other
    · rw [junctionPass_junction]
      refine (SameFields.join inner).trans (Junction.sameFields_simplify fun decided => ?_)
      obtain ⟨l, absorbing⟩ := j.exists_absorbing (R := R)
      rw [absorbing] at decided
      have mem := leaf_mem_of_junctionPassAll cs decided
      exact undecided j cs List.mem_cons_self (absorbing ▸ mem)
    · rw [junctionPass_join other]
      exact .join inner
  | .require c v, undecided => by
    rw [junctionPass]
    refine .require (sameFields_junctionPass c (undecided.of_subset ?_))
      (sameFields_junctionPass v (undecided.of_subset ?_))
    · exact List.subset_cons_of_subset _ (List.subset_append_left _ _)
    · exact List.subset_cons_of_subset _ (List.subset_append_right _ _)

theorem sameFields_junctionPassAll :
    (cs : List (Query R)) →
      (∀ (j : Junction) ds, .join j.operator ds ∈ nodesAll cs → j.absorbing ∉ nodesAll ds) →
        List.Forall₂ SameFields cs (junctionPassAll cs).value
  | [], _ => by
    rw [junctionPassAll]
    exact .nil
  | c :: cs, undecided => by
    rw [junctionPassAll]
    exact .cons
      (sameFields_junctionPass c fun j ds mem => undecided j ds (List.mem_append_left _ mem))
      (sameFields_junctionPassAll cs fun j ds mem => undecided j ds (List.mem_append_right _ mem))

end

/-- A query in which nothing is decided settles to one with the same fields. -/
lemma sameFields_settle? {passes : Nat} {q q' : Query R} (even : q.Even .docs)
    (undecided : q.Undecided) (settled : q.settle? passes = some q') : SameFields q q' := by
  have step : ∀ p : Query R, p.Even .docs ∧ p.Undecided ∧ SameFields q p →
      p.pass.value.Even .docs ∧ p.pass.value.Undecided ∧ SameFields q p.pass.value := by
    rintro p ⟨even, undecided, same⟩
    refine ⟨Everywhere.pass even_lasting even, undecided.weightPass.junctionPass, same.trans ?_⟩
    exact (sameFields_sumLaws.weightPass even).trans
      (sameFields_junctionPass _ undecided.weightPass)
  exact (settle?_induction step ⟨even, undecided, .refl q⟩ settled).2.2

/-! ## Children of scorers -/

/-- A pass makes a scorer only of one, and of its child what it makes of that alone. -/
lemma scorer_of_pass {n c' : Query R} {model : Model R} {stats : Option Statistics}
    (made : n.pass.value = .modify (.scorer model stats) c') :
    ∃ c, n = .modify (.scorer model stats) c ∧ c.pass.value = c' := by
  have boolean {q : Query R} (made : q.junctionPass.value = .modify (.scorer model stats) c') :
      ∃ c, q = .modify (.scorer model stats) c ∧ c.junctionPass.value = c' := by
    cases q with
    | leaf l =>
      rw [junctionPass] at made
      cases made
    | modify m c =>
      rw [junctionPass] at made
      cases made
      exact ⟨c, rfl, rfl⟩
    | join op cs =>
      rcases junctionPass_join_cases op cs with ⟨l, _, _, same⟩ | ⟨ds, same, _⟩
      · rw [same] at made
        cases made
      · rw [same] at made
        cases made
    | require c v =>
      rw [junctionPass] at made
      cases made
  have weights {q c : Query R} (made : q.weightPass.value = .modify (.scorer model stats) c) :
      ∃ d, q = .modify (.scorer model stats) d ∧ d.weightPass.value = c := by
    revert made
    fun_cases weightPass q <;> intro made <;> cases made
    exact ⟨_, rfl, rfl⟩
  obtain ⟨c, weighted, rfl⟩ := boolean made
  obtain ⟨d, rfl, rfl⟩ := weights weighted
  exact ⟨d, rfl, rfl⟩

/-- Only a scorer settles to a scorer, and its child settles on its own in as many passes. -/
lemma scorer_of_settle? {passes : Nat} {n c' : Query R} {model : Model R} {stats : Option Statistics}
    (settled : n.settle? passes = some (.modify (.scorer model stats) c')) :
    ∃ c, n = .modify (.scorer model stats) c ∧ c.settle? passes = some c' := by
  have unchanged {passes : Nat} {n : Query R} (same : n.pass.changed = false)
      (made : .modify (.scorer model stats) c' = n.pass.value) :
      ∃ c, n = .modify (.scorer model stats) c ∧ c.settle? passes = some c' := by
    rw [(pass_shrinks n).kept same] at made
    subst made
    have mem : c' ∈ (modify (.scorer model stats) c').nodes :=
      List.mem_cons_of_mem _ (by cases c' <;> exact List.mem_cons_self)
    exact ⟨c', rfl, settle?_of_unchanged (pass_of_mem_nodes same mem) passes⟩
  induction passes generalizing n with
  | zero =>
    obtain ⟨same, made⟩ | ⟨_, _, ⟨⟩, _⟩ := settle?_cases settled
    exact unchanged same made
  | succ passes ih =>
    obtain ⟨same, made⟩ | ⟨_, _, ⟨⟩, settled⟩ := settle?_cases settled
    · exact unchanged same made
    · obtain ⟨c₁, made, settled⟩ := ih settled
      obtain ⟨c, rfl, rfl⟩ := scorer_of_pass made
      exact ⟨c, rfl, settle?_succ settled⟩

/-- A query is lengths after a pass exactly if it has been before. -/
lemma lengths_of_pass {q : Query R} {l : Lengths} :
    q.pass.value = .leaf (.lengths l) ↔ q = .leaf (.lengths l) := by
  have boolean {q : Query R} (made : q.junctionPass.value = .leaf (.lengths l)) :
      q = .leaf (.lengths l) := by
    cases q with
    | leaf k => rwa [junctionPass] at made
    | modify m c =>
      rw [junctionPass] at made
      cases made
    | join op cs =>
      rcases junctionPass_join_cases op cs with ⟨k, constant, _, same⟩ | ⟨ds, same, _⟩
      · rw [same] at made
        cases made
        rcases constant with constant | constant <;> cases constant
      · rw [same] at made
        cases made
    | require c v =>
      rw [junctionPass] at made
      cases made
  constructor
  · exact fun made => leaf_of_weightPass (boolean made)
  · rintro rfl
    rw [pass, weightPass, junctionPass]

/-- What is kept of the field that normalises a scorer over `c`, if the child becomes `c'`: the field,
unless all terms got lost and the default field is left; and where nothing is decided, all. -/
structure KeepsField (c c' : Query R) : Prop where
  kept : ∀ fallback field field', Session.scorerField fallback c = .ok field →
    Session.scorerField fallback c' = .ok field' →
      field' = field ∨ c.terms ≠ [] ∧ c'.terms = [] ∧ field' = fallback
  undecided : c.Undecided → ∀ fallback,
    (Session.scorerField fallback c').toOption = (Session.scorerField fallback c).toOption

lemma keepsField_of_settle? {passes : Nat} {c c' : Query R} (even : c.Even .docs)
    (settled : c.settle? passes = some c') : KeepsField c c' := by
  let alike (p : Query R) : Prop := ∀ l, p = .leaf (.lengths l) ↔ c = .leaf (.lengths l)
  have lengths : alike c' :=
    settle?_induction (fun _ same l => lengths_of_pass.trans (same l)) (fun _ => Iff.rfl) settled
  have terms : c'.terms ⊆ c.terms := fun t mem =>
    (mem_terms c).mpr (leaf_mem_of_settle? settled ((mem_terms c').mp mem))
  refine ⟨fun fallback field field' named named' => ?_, fun undecided fallback => ?_⟩
  · rcases scorerField_eq_ok.mp named' with ⟨stats, isLengths⟩ | ⟨other', each', none'⟩
    · cases (lengths _).mp isLengths
      cases named
      exact .inl rfl
    · rcases scorerField_eq_ok.mp named with ⟨stats, isLengths⟩ | ⟨_, each, none⟩
      · exact absurd ((lengths _).mpr isLengths) (other' field stats)
      · by_cases lost : c'.terms = []
        · by_cases empty : c.terms = []
          · exact .inl ((none' lost).trans (none empty).symm)
          · exact .inr ⟨empty, lost, none' lost⟩
        · obtain ⟨t, mem⟩ := List.exists_mem_of_ne_nil _ lost
          exact .inl (Option.some.inj ((each' t mem).symm.trans (each t (terms mem))))
  · exact ((sameFields_settle? even undecided settled).scorerField fallback).symm

/-- A scorer of a simplified query has been a scorer of the query with the same model and statistics,
whose child has been simplified to that of the other. Whatever is simplified to the child, both are
normalised by the same field if by any, unless all terms got lost below the scorer and the default
field is left; and they do not get lost where no conjunction and no disjunction is decided by a leaf
below it. -/
theorem simplify_scorerField {passes : Nat} {q simple : Query R}
    (simplified : q.simplify passes = .ok simple) {model : Model R} {stats : Option Statistics}
    {c' : Query R} (mem : .modify (.scorer model stats) c' ∈ simple.nodes) :
    (∃ c, .modify (.scorer model stats) c ∈ q.nodes ∧ c.simplify passes = .ok c') ∧
      ∀ c, c.simplify passes = .ok c' → KeepsField c c' := by
  constructor
  · obtain ⟨_, checked, _⟩ := bind_eq_ok simplified
    have even : q.Even .docs := even_of_checkWeights q checked
    obtain ⟨n, within, settled⟩ := exists_node_of_settle? (settled_of_simplify simplified) mem
    obtain ⟨c, rfl, settles⟩ := scorer_of_settle? settled
    have below : c.nodes ⊆ q.nodes := fun p inner =>
      nodes_subset_of_mem q within (List.mem_cons_of_mem _ inner)
    refine ⟨c, within, ?_⟩
    rw [simplify_eq fun p inner => even.of_mem_nodes (below inner), settles]
  · intro c simplified
    obtain ⟨_, checked, _⟩ := bind_eq_ok simplified
    exact keepsField_of_settle? (even_of_checkWeights c checked) (settled_of_simplify simplified)

/-- A scored disjunction in titles that is nested, with a repeated member and one that never matches.
-/
theorem simplify_scorerField_nested :
    let a : Query Float := term "a" "title"
    let b : Query Float := term "b" "title"
    let scored (c : Query Float) : Query Float := .modify (.scorer (.dirichlet none) none) c
    let q : Query Float := .join .max [scored (.or [a, .or [never, b, a]]), term "c" "body"]
    let simple : Query Float := .join .max [scored (.or [a, b]), term "c" "body"]
    q.simplify 1 = .ok simple ∧ scored (.or [a, b]) ∈ simple.nodes ∧
      (∃ c, scored c ∈ q.nodes ∧ c.simplify 1 = .ok (.or [a, b])) ∧
        ∀ c, c.simplify 1 = .ok (.or [a, b]) → KeepsField c (.or [a, b]) := by
  intro a b scored q simple
  have simplified : q.simplify 1 = .ok simple := by
    simp only [q, simple, scored, a, b]
    rfl
  have mem : scored (.or [a, b]) ∈ simple.nodes :=
    List.mem_cons_of_mem _ (List.mem_append_left _ List.mem_cons_self)
  exact ⟨simplified, mem, simplify_scorerField simplified mem⟩

/-- A disjunction with a leaf that always matches is that leaf, so that a term in titles below a
scorer gets lost. The scorer was normalised by titles; now it is by the default field. -/
theorem simplify_decided :
    let a : Query Float := term "a" "title"
    let scored (c : Query Float) : Query Float := .modify (.scorer (.dirichlet (some 1)) none) c
    (scored (.or [a, always])).bind .usual (.ofDocuments none []) = .ok (scored (.or [a, always])) ∧
      (scored (.or [a, always])).simplify 1 = .ok (scored always) ∧
      Session.scorerField "body" (.or [a, always]) = .ok "title" ∧
      Session.scorerField "body" (always : Query Float) = .ok "body" := by
  intro a scored
  refine ⟨rfl, ?_, by decide +kernel, by decide +kernel⟩
  simp only [scored, a]
  rfl

end Query

end Retrieval
