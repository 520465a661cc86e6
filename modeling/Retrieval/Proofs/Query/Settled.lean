import Retrieval.Proofs.Query.Everywhere

/-!
# Settled queries

A query is settled if no boolean rule fires on it. The boolean rules settle a query in one go
(`Query.junctionPass_settled`), and change nothing in a query that is settled
(`Query.Settled.junctionPass_eq`). The rules for weights do not concern queries that are made of
boolean operators and requirements only, so that these are simple after a single pass
(`Query.simplify_eq_pass`).
-/

namespace Retrieval

namespace Query

variable {R : Type} [Scalar R]

/-! ## One boolean node -/

namespace Junction

/-- No rule fires on a boolean node with these members. -/
structure Settles (j : Junction) (cs : List (Query R)) : Prop where
  flat : ∀ c ∈ cs, j.members? c = none
  once : cs.Pairwise fun a b => (b == a) = false
  undecided : ∀ c ∈ cs, (j.absorbing == c) = false
  matters : ∀ c ∈ cs, (c == j.identity) = false

variable {j : Junction} {cs kept : List (Query R)}

omit [Scalar R] in
/-- Members of no inner node of the same operator stay where they are. -/
lemma splice_eq (flat : ∀ c ∈ cs, j.members? c = none) : j.splice cs = ⟨cs, false⟩ := by
  induction cs with
  | nil => rfl
  | cons c cs ih =>
    obtain ⟨first, rest⟩ := List.forall_mem_cons.mp flat
    rw [splice, first, ih rest]
    rfl

/-- A query is among the members if it equals one of them. -/
lemma contains_eq_false {c : Query R} :
    kept.contains c = false ↔ ∀ k ∈ kept, (c == k) = false := by
  rw [List.contains_eq_any_beq, List.any_eq_false]
  simp only [Bool.not_eq_true]

/-- Members that are all different are all kept. -/
lemma distinct_eq (once : (kept ++ cs).Pairwise fun a b => (b == a) = false) :
    distinct kept cs = ⟨kept ++ cs, false⟩ := by
  induction cs generalizing kept with
  | nil => rw [distinct, List.append_nil]
  | cons c cs ih =>
    have other : kept.contains c = false :=
      contains_eq_false.mpr fun k mem => (List.pairwise_append.mp once).2.2 k mem c List.mem_cons_self
    rw [List.append_cons] at once
    rw [distinct, other, ih once, List.append_assoc]
    rfl

/-- No two of the members that are kept are equal. -/
lemma distinct_once (once : kept.Pairwise fun a b => (b == a) = false) :
    (distinct kept cs).value.Pairwise fun a b => (b == a) = false := by
  induction cs generalizing kept with
  | nil => exact once
  | cons c cs ih =>
    rw [distinct]
    split
    · exact ih once
    · next other =>
      rw [Bool.not_eq_true] at other
      refine ih (List.pairwise_append.mpr ⟨once, List.pairwise_singleton _ c, fun k mem d mem' => ?_⟩)
      cases List.mem_singleton.mp mem'
      exact contains_eq_false.mp other k mem

/-- Members that all matter are all kept. -/
lemma withoutIdentity_eq (matters : ∀ c ∈ cs, (c == j.identity) = false) :
    j.withoutIdentity cs = ⟨.join j.operator cs, false⟩ := by
  have all : cs.filter (· != j.identity) = cs := by
    rw [List.filter_eq_self]
    intro c mem
    rw [bne, matters c mem]
    rfl
  rw [withoutIdentity, all]
  split
  · next only =>
    -- only a node with members can consist of nothing else
    cases cs with
    | nil => cases only
    | cons c cs => simp [matters c List.mem_cons_self] at only
  · simp

/-- The rules for one boolean node change nothing if none of them fires. -/
lemma Settles.simplify_eq (settles : j.Settles cs) :
    j.simplify ⟨cs, false⟩ = ⟨.join j.operator cs, false⟩ := by
  have once : distinct [] cs = ⟨cs, false⟩ := distinct_eq settles.once
  have undecided : cs.contains j.absorbing = false := contains_eq_false.mpr settles.undecided
  rw [simplify, splice_eq settles.flat, once]
  dsimp only
  rw [undecided, withoutIdentity_eq settles.matters]
  rfl

end Junction

/-! ## Whole queries -/

/-- No boolean rule fires on the query. -/
inductive Settled : Query R → Prop where
  | leaf {l} :
    Settled (.leaf l)
  | modify {m c} :
    Settled c →
    Settled (.modify m c)
  | join {op cs} :
    (∀ j : Junction, op = j.operator → j.Settles cs) →
    (∀ c ∈ cs, Settled c) →
    Settled (.join op cs)
  | require {c v} :
    Settled c →
    Settled v →
    Settled (.require c v)

/-- The boolean rules change nothing in a list of queries if they change none of them. -/
lemma junctionPassAll_eq {cs : List (Query R)} (each : ∀ c ∈ cs, c.junctionPass = ⟨c, false⟩) :
    junctionPassAll cs = ⟨cs, false⟩ := by
  induction cs with
  | nil => rw [junctionPassAll]
  | cons c cs ih =>
    obtain ⟨first, rest⟩ := List.forall_mem_cons.mp each
    rw [junctionPassAll, first, ih rest]
    rfl

/-- The boolean rules change nothing in a settled query. -/
theorem Settled.junctionPass_eq {q : Query R} (settled : q.Settled) :
    q.junctionPass = ⟨q, false⟩ := by
  induction settled with
  | leaf => rw [junctionPass]
  | modify _ ih =>
    rw [junctionPass, ih]
    rfl
  | @join op cs settles _ ih =>
    have same := junctionPassAll_eq ih
    rcases Junction.operator_cases op with ⟨j, rfl⟩ | other
    · rw [junctionPass_junction, same, (settles j rfl).simplify_eq]
    · rw [junctionPass_join other, same]
      rfl
  | require _ _ ihc ihv =>
    rw [junctionPass, ihc, ihv]
    rfl

/-- The members of a settled boolean node are settled, and none of them is of the same operator. -/
lemma Settled.members {j : Junction} {cs : List (Query R)} (settled : Settled (.join j.operator cs)) :
    ∀ c ∈ cs, c.Settled ∧ j.members? c = none := by
  cases settled with
  | join settles each => exact fun c mem => ⟨each c mem, (settles j rfl).flat c mem⟩

/-- The rules for one boolean node settle it, once its members are settled. -/
lemma Junction.simplify_settled {j : Junction} {members : Simplified (List (Query R))}
    (settled : ∀ c ∈ members.value, c.Settled) : (j.simplify members).value.Settled := by
  have flat : ∀ c ∈ (j.splice members.value).value, c.Settled ∧ j.members? c = none := by
    intro c mem
    rw [splice_value] at mem
    obtain ⟨c', within, mem⟩ := List.mem_flatMap.mp mem
    cases e : j.members? c' with
    | none =>
      rw [e] at mem
      cases List.mem_singleton.mp mem
      exact ⟨settled c within, e⟩
    | some inner =>
      rw [e] at mem
      exact (members?_eq_some e ▸ settled c' within).members c mem
  have once : (distinct [] (j.splice members.value).value).value.Pairwise
      fun a b => (b == a) = false := distinct_once .nil
  have kept : ∀ c ∈ (distinct [] (j.splice members.value).value).value,
      c.Settled ∧ j.members? c = none :=
    fun c mem => flat c (mem_of_mem_distinct mem)
  rw [simplify]
  dsimp only
  split
  · cases j <;> exact .leaf
  · next undecided =>
    rw [Bool.not_eq_true, contains_eq_false] at undecided
    rw [withoutIdentity]
    split
    · cases j <;> exact .leaf
    · refine .join (fun i same => ?_) fun c mem => (kept c (List.mem_filter.mp mem).1).1
      cases operator_injective same
      refine ⟨fun c mem => (kept c (List.mem_filter.mp mem).1).2, once.filter _,
        fun c mem => undecided c (List.mem_filter.mp mem).1, fun c mem => ?_⟩
      exact Bool.not_eq_true' _ ▸ (List.mem_filter.mp mem).2

mutual

/-- The boolean rules settle a query. -/
theorem junctionPass_settled : (q : Query R) → q.junctionPass.value.Settled
  | .leaf l => by
    rw [junctionPass]
    exact .leaf
  | .modify m c => by
    rw [junctionPass]
    exact .modify (junctionPass_settled c)
  | .join op cs => by
    have inner := junctionPassAll_settled cs
    rcases Junction.operator_cases op with ⟨j, rfl⟩ | other
    · rw [junctionPass_junction]
      exact Junction.simplify_settled inner
    · rw [junctionPass_join other]
      exact .join (fun j same => absurd same (other j)) inner
  | .require c v => by
    rw [junctionPass]
    exact .require (junctionPass_settled c) (junctionPass_settled v)

theorem junctionPassAll_settled : (cs : List (Query R)) → ∀ c ∈ (junctionPassAll cs).value, c.Settled
  | [] => by
    rw [junctionPassAll]
    exact List.forall_mem_nil _
  | c :: cs => by
    rw [junctionPassAll]
    exact List.forall_mem_cons.mpr ⟨junctionPass_settled c, junctionPassAll_settled cs⟩

end

/-! ## Boolean queries -/

section Boolean

variable {leaves : Leaf R → Prop} {need : Need} {q : Query R}

/-- A leaf of one of these kinds, a boolean operator or a requirement. -/
def BooleanOver (leaves : Leaf R → Prop) : Query R → Prop
  | .leaf l => leaves l
  | .modify _ _ => False
  | .join op _ => ∃ j : Junction, op = j.operator
  | .require _ _ => True

/-- Rewriting rules put only constants in the place of boolean operators. -/
lemma booleanOver_lasting (always : leaves .always) (never : leaves .never) :
    Lasting fun _ : Need => (BooleanOver leaves : Query R → Prop) where
  weight := False.elim
  spread := False.elim
  combine := fun ⟨j, same⟩ => by cases j <;> cases same
  decided := fun _ => ⟨always, never⟩
  junction := fun boolean _ => boolean
  modify := False.elim
  join := fun boolean _ => boolean
  require := fun _ => trivial

/-- The rules for weights change nothing in a list of queries if they change none of them. -/
lemma weightPassAll_eq {cs : List (Query R)} (each : ∀ c ∈ cs, c.weightPass = ⟨c, false⟩) :
    weightPassAll cs = ⟨cs, false⟩ := by
  induction cs with
  | nil => rw [weightPassAll]
  | cons c cs ih =>
    obtain ⟨first, rest⟩ := List.forall_mem_cons.mp each
    rw [weightPassAll, first, ih rest]
    rfl

/-- The rules for weights change no boolean query. -/
theorem weightPass_eq (boolean : Everywhere (fun _ => BooleanOver leaves) need q) :
    q.weightPass = ⟨q, false⟩ := by
  induction boolean with
  | leaf => rw [weightPass]
  | modify not => exact not.elim
  | join operator _ ih =>
    obtain ⟨j, rfl⟩ := operator
    rw [weightPass, weightPassAll_eq ih]
    · rfl
    · intro ws same
      cases j <;> cases same
  | require _ _ _ ihc ihv =>
    rw [weightPass, ihc, ihv]
    rfl

omit [Scalar R] in
lemma checkWeightsAll_eq_ok {cs : List (Query R)} (each : ∀ c ∈ cs, c.checkWeights = .ok ()) :
    checkWeightsAll cs = .ok () := by
  induction cs with
  | nil => rfl
  | cons c cs ih =>
    obtain ⟨first, rest⟩ := List.forall_mem_cons.mp each
    rw [checkWeightsAll, first]
    exact ih rest

omit [Scalar R] in
/-- There are no weighted sums in a boolean query. -/
theorem checkWeights_eq_ok (boolean : Everywhere (fun _ => BooleanOver leaves) need q) :
    q.checkWeights = .ok () := by
  induction boolean with
  | leaf => rfl
  | modify not => exact not.elim
  | join operator _ ih =>
    obtain ⟨j, rfl⟩ := operator
    have each := checkWeightsAll_eq_ok ih
    cases j <;> exact each
  | require _ _ _ ihc ihv =>
    rw [checkWeights, ihc]
    exact ihv

/-- A pass over a boolean query leaves nothing for the next one. -/
lemma pass_pass (boolean : Everywhere (fun _ => BooleanOver leaves) need q) :
    q.pass.value.pass = ⟨q.pass.value, false⟩ := by
  have any : Everywhere (fun _ => BooleanOver fun _ => True) need q :=
    boolean.mono fun _ c holds => by
      cases c with
      | leaf => trivial
      | _ => exact holds
  have next := weightPass_eq (any.pass (booleanOver_lasting trivial trivial))
  have settled : q.pass.value.Settled := junctionPass_settled q.weightPass.value
  rw [pass, next]
  dsimp only
  rw [settled.junctionPass_eq]
  rfl

/-- A boolean query is simple after a single pass. -/
theorem simplify_eq_pass (boolean : Everywhere (fun _ => BooleanOver leaves) need q) {passes : Nat}
    (some_ : 1 ≤ passes) : q.simplify passes = .ok q.pass.value := by
  obtain ⟨passes, rfl⟩ := Nat.exists_eq_add_of_le' some_
  have next : q.pass.value.settle? passes = some q.pass.value :=
    settle?_of_pass (pass_pass boolean) passes
  have settled : q.settle? (passes + 1) = some q.pass.value := by
    unfold settle?
    dsimp only
    rw [next, ite_self]
  rw [simplify, checkWeights_eq_ok boolean, settled]
  rfl

end Boolean

end Query

end Retrieval
