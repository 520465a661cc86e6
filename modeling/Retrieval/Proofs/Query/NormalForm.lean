import Retrieval.Proofs.Query.Convergence
import Retrieval.Proofs.Query.Settled
import Mathlib

/-!
# Normal forms

Simplification returns a query in normal form: at no node is there anything that one of its rules is
for (`Query.IsNormal`), and simplifying it again returns it (`Query.simplify_normal`). Both follow
from the last pass, which has changed nothing.
-/

namespace Retrieval

open Float.Model in
/-- It does not matter in which order floats are compared, and those that equal the same float are
equal. A NaN equals no float, not even itself. -/
instance instPartialEquivBEqFloat : PartialEquivBEq Float where
  symm := by
    intro x y equal
    change UnpackedFloat.beq _ _ = true at equal ⊢
    rw [UnpackedFloat.beq_iff_ne_notANumber_and_eq] at equal ⊢
    tauto
  trans := by
    intro x y z equal equal'
    change UnpackedFloat.beq _ _ = true at equal equal' ⊢
    rw [UnpackedFloat.beq_iff_ne_notANumber_and_eq] at equal equal' ⊢
    grind

namespace Query

variable {R : Type}

/-- The query is neither a weight nor a weighted sum. -/
def IsUnweighted (q : Query R) : Prop :=
  (∀ w c, q ≠ weighted w c) ∧ ∀ ws cs, q ≠ .join (.combine ws) cs

/-- No two of the queries are equal, in whichever order they are compared. -/
def AllDifferent [BEq R] (cs : List (Query R)) : Prop :=
  cs.Pairwise fun a b => (a == b) = false ∧ (b == a) = false

/-- There is nothing at the root of the query that a rule is for. -/
structure IsNormal [BEq R] (q : Query R) : Prop where
  weight : ∀ w c, q = weighted w c → c.IsUnweighted
  combine : ∀ ws cs, q = .join (.combine ws) cs →
    (∀ c ∈ cs, c.IsUnweighted) ∧ AllDifferent cs ∧ cs.length = ws.length
  junction : ∀ (j : Junction) cs, q = .join j.operator cs →
    (∀ c ∈ cs, (∀ ds, c ≠ .join j.operator ds) ∧ c ≠ always ∧ c ≠ never) ∧ AllDifferent cs

variable [Scalar R]

/-! ## What no rule for weights changes -/

omit [Scalar R] in
lemma isUnweighted_of_isWeighted {q : Query R} (plain : isWeighted q = false) :
    q.IsUnweighted := by
  constructor
  · rintro w c rfl
    cases plain
  · rintro ws cs rfl
    cases plain

/-- What the rules for weights require of a node. -/
def IsPlain (q : Query R) : Prop :=
  (∀ w c, q = weighted w c → c.IsUnweighted) ∧
    ∀ ws cs, q = .join (.combine ws) cs →
      (∀ c ∈ cs, c.IsUnweighted) ∧ cs.Pairwise fun a b => (a == b) = false

/-- The rules for weights require nothing of other nodes. -/
lemma isPlain_of_other {q : Query R} (weight : ∀ w c, q ≠ weighted w c)
    (combine : ∀ ws cs, q ≠ .join (.combine ws) cs) : q.IsPlain :=
  ⟨fun w c e => absurd e (weight w c), fun ws cs e => absurd e (combine ws cs)⟩

/-- A query in which the rules for weights change nothing has nothing for them at any node. -/
lemma plain_of_unchanged {need : Need} :
    (∀ q : Query R, q.weightPass.changed = false → Everywhere (fun _ => IsPlain) need q) ∧
      (∀ (_ : List (Query R)) (_ : List R), True) ∧
      ∀ cs : List (Query R), (weightPassAll cs).changed = false →
        ∀ c ∈ cs, Everywhere (fun _ => IsPlain) need c := by
  refine weightPass.mutual_induct _ _ _ ?_ ?_ ?_ ?_ ?_ ?_ ?_ ?_ ?_ ?_ ?_ ?_ ?_ ?_ ?_
  -- the rules
  · intro w v c _ same
    rw [weightPass] at same
    cases same
  · intro w vs cs _ same
    rw [weightPass] at same
    cases same
  · intro ws cs repeats _ same
    rw [weightPass, if_pos repeats] at same
    cases same
  · intro ws cs distinct weighted _ same
    rw [weightPass, if_neg distinct, if_pos weighted] at same
    cases same
  -- nodes that no rule is for
  · intro ws cs distinct plain ih same
    rw [weightPass, if_neg distinct, if_neg plain] at same
    rw [Bool.not_eq_true] at distinct plain
    refine .join ⟨?_, ?_⟩ fun c mem => (ih same c mem).for_need
    · rintro _ _ ⟨⟩
    · rintro _ _ ⟨rfl, rfl⟩
      refine ⟨fun c mem => isUnweighted_of_isWeighted ?_, hasRepeats_eq_false.mp distinct⟩
      exact Bool.not_eq_true _ ▸ List.any_eq_false.mp plain c mem
  · intro l _
    exact .leaf (isPlain_of_other (by rintro _ _ ⟨⟩) (by rintro _ _ ⟨⟩))
  · intro m c other other' ih same
    rw [weightPass] at same
    · refine .modify ⟨?_, ?_⟩ (ih same).for_need
      · rintro w _ ⟨rfl, rfl⟩
        exact ⟨fun v d e => other w v d rfl e, fun vs ds e => other' w vs ds rfl e⟩
      · rintro _ _ ⟨⟩
    · exact other
    · exact other'
  · intro op cs other ih same
    rw [weightPass] at same
    · refine .join (isPlain_of_other (by rintro _ _ ⟨⟩) ?_) fun c mem => (ih same c mem).for_need
      rintro ws _ ⟨rfl, rfl⟩
      exact other ws rfl
    · exact other
  · intro c v ihc ihv same
    rw [weightPass] at same
    obtain ⟨cond, value⟩ := Bool.or_eq_false_iff.mp same
    exact .require (isPlain_of_other (by rintro _ _ ⟨⟩) (by rintro _ _ ⟨⟩)) (ihc cond).for_need
      (ihv value)
  -- summands
  · exact fun _ _ _ _ _ _ _ => trivial
  · exact fun _ _ _ _ _ _ _ => trivial
  · exact fun _ _ _ _ _ _ _ _ => trivial
  · exact fun _ _ _ _ _ => trivial
  -- lists of members
  · exact fun _ => List.forall_mem_nil _
  · intro c cs ihc ih same
    rw [weightPassAll] at same
    obtain ⟨first, rest⟩ := Bool.or_eq_false_iff.mp same
    exact List.forall_mem_cons.mpr ⟨ihc first, ih rest⟩

/-! ## What no boolean rule changes -/

/-- Every node of a settled query is settled. -/
lemma Settled.of_mem_nodes {q : Query R} (settled : q.Settled) : ∀ p ∈ q.nodes, p.Settled := by
  induction settled with
  | leaf =>
    intro p mem
    cases List.mem_singleton.mp mem
    exact .leaf
  | modify inner ih => exact List.forall_mem_cons.mpr ⟨.modify inner, ih⟩
  | join settles each ih =>
    refine List.forall_mem_cons.mpr ⟨.join settles each, fun p mem => ?_⟩
    obtain ⟨c, within, mem⟩ := mem_nodesAll.mp mem
    exact ih c within p mem
  | require cond value ihc ihv =>
    exact List.forall_mem_cons.mpr ⟨.require cond value, List.forall_mem_append.mpr ⟨ihc, ihv⟩⟩

namespace Junction

variable {j : Junction} {cs : List (Query R)}

/-- None of the members of a settled node joins queries by the same operator. -/
lemma Settles.ne_join (settles : j.Settles cs) {c : Query R} (mem : c ∈ cs)
    (ds : List (Query R)) : c ≠ .join j.operator ds := by
  rintro rfl
  have none := settles.flat _ mem
  cases j <;> cases none

/-- None of the members of a settled node is a leaf that every document matches, or none does. -/
lemma Settles.ne_constants (settles : j.Settles cs) {c : Query R} (mem : c ∈ cs) :
    c ≠ always ∧ c ≠ never := by
  have undecided := settles.undecided c mem
  have matters := settles.matters c mem
  cases j with
  | and =>
    constructor
    · rintro rfl
      cases matters
    · rintro rfl
      cases undecided
  | or =>
    constructor
    · rintro rfl
      cases undecided
    · rintro rfl
      cases matters

end Junction

/-! ## Simplification -/

lemma pass_of_unchanged {q : Query R} (same : q.pass.changed = false) :
    q.pass.value.pass = ⟨q.pass.value, false⟩ := by
  have value := (pass_shrinks q).kept same
  rw [value]
  exact congrArg₂ Simplified.mk value same

/-- What a query settles to no pass changes. -/
lemma pass_of_settle? {passes : Nat} {q q' : Query R} (settled : q.settle? passes = some q') :
    q'.pass = ⟨q', false⟩ := by
  induction passes generalizing q with
  | zero =>
    obtain ⟨same, rfl⟩ | ⟨_, _, ⟨⟩, _⟩ := settle?_cases settled
    exact pass_of_unchanged same
  | succ passes ih =>
    obtain ⟨same, rfl⟩ | ⟨_, _, ⟨⟩, settled⟩ := settle?_cases settled
    · exact pass_of_unchanged same
    · exact ih settled

/-- There is nothing for any rule in a query that a pass does not change. -/
lemma normal_of_pass [PartialEquivBEq R] {q : Query R} (same : q.pass = ⟨q, false⟩)
    (even : ∀ p ∈ q.nodes, p.IsEven) : ∀ p ∈ q.nodes, p.IsNormal := by
  have value : q.pass.value = q := congrArg Simplified.value same
  obtain ⟨sums, _⟩ := Bool.or_eq_false_iff.mp (congrArg Simplified.changed same)
  have plain : Everywhere (fun _ => IsPlain) .docs q := plain_of_unchanged.1 q sums
  have settled : q.Settled := value ▸ junctionPass_settled q.weightPass.value
  intro p mem
  obtain ⟨weights, combines⟩ := plain.of_mem_nodes mem
  have here := settled.of_mem_nodes p mem
  refine ⟨weights, fun ws cs e => ?_, fun j cs e => ?_⟩
  · obtain ⟨members, once⟩ := combines ws cs e
    exact ⟨members, once.imp fun other => ⟨other, beq_eq_false_symm other⟩, even p mem ws cs e⟩
  · cases e
    cases here with
    | join settles _ =>
      have settles := settles j rfl
      exact ⟨fun c within => ⟨settles.ne_join within, settles.ne_constants within⟩,
        settles.once.imp fun other => ⟨beq_eq_false_symm other, other⟩⟩

/-- Simplification returns a normal form. At no node of it is there anything that a rule is for: a
weight over a weight or a weighted sum; a weight, a weighted sum or two equal children under a
weighted sum; or a query of the same kind, a leaf that every document matches or none does, or two
equal children under a conjunction or a disjunction. Its weighted sums have one weight for each
child, no pass changes it, and simplifying it again returns it, however few passes are allowed. -/
theorem simplify_normal [PartialEquivBEq R] {passes : Nat} {q q' : Query R}
    (simple : q.simplify passes = .ok q') :
    (∀ p ∈ q'.nodes, p.IsNormal) ∧ q'.pass = ⟨q', false⟩ ∧ ∀ m, q'.simplify m = .ok q' := by
  have same := pass_of_settle? (settled_of_simplify simple)
  obtain ⟨_, checked, _⟩ := bind_eq_ok simple
  have even : q'.Even .docs := (even_of_checkWeights q checked).simplify even_lasting simple
  have each : ∀ p ∈ q'.nodes, p.IsEven := fun p => even.of_mem_nodes
  refine ⟨normal_of_pass same each, same, fun m => ?_⟩
  have settled : q'.settle? m = some q' := by
    unfold settle?
    rw [same]
    rfl
  rw [simplify_eq each, settled]

/-- A weight over a weight beside a conjunction in a conjunction. -/
theorem simplify_normal_nested :
    let a : Query Float := term "a"
    let b : Query Float := term "b"
    let q : Query Float :=
      .join .max [weighted 2 (weighted 3 a), .and [always, a, .and [a, b]]]
    let simple : Query Float := .join .max [weighted (2 * 3) a, .and [a, b]]
    q.simplify 1 = .ok simple ∧ (∀ p ∈ simple.nodes, p.IsNormal) ∧ simple.simplify 0 = .ok simple := by
  intro a b q simple
  have simplified : q.simplify 1 = .ok simple := by
    simp only [q, simple, a, b]
    rfl
  obtain ⟨normal, _, again⟩ := simplify_normal simplified
  exact ⟨simplified, normal, again 0⟩

end Query

end Retrieval
