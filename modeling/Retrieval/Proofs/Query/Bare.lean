import Retrieval.Environment
import Retrieval.Proofs.Query.Inference
import Retrieval.Proofs.Query.NormalForm

/-!
# Bare queries

A simplified query is later marked with needs, and its scorers are given statistics. `Query.bare`
takes both away again: the bare query is the one that has been simplified. Queries that are equal
are equal when they are bare, so marks and statistics make no two children equal that were not, and
there is nothing to simplify in a query if there is nothing in the bare one
(`Query.simplify_of_bare`).
-/

namespace Retrieval

variable {R : Type}

/-- The leaf with nothing needed of it but documents. -/
def Leaf.bare : Leaf R → Leaf R
  | .term t => .term { t with needed := .docs }
  | l => l

/-- The modifier with no statistics but those of the term that is its child. -/
def Modifier.bare (m : Modifier R) (child : Query R) : Modifier R :=
  match m with
  | .scorer model _ => .scorer model child.termStatistics?
  | m => m

namespace Query

mutual

/-- The query as it was before marks and measured statistics. -/
def bare : Query R → Query R
  | .leaf l => .leaf l.bare
  | .modify m c => .modify (m.bare c) (bare c)
  | .join op cs => .join op (bareAll cs)
  | .require c v => .require (bare c) (bare v)

def bareAll : List (Query R) → List (Query R)
  | [] => []
  | c :: cs => bare c :: bareAll cs

end

lemma bare_join (op : Operator R) (cs : List (Query R)) :
    bare (.join op cs) = .join op (cs.map bare) := by
  have all : bareAll cs = cs.map bare := by
    induction cs with
    | nil => rfl
    | cons c cs ih => rw [bareAll, ih, List.map_cons]
  rw [bare, all]

lemma termStatistics?_bare (q : Query R) : q.bare.termStatistics? = q.termStatistics? := by
  cases q with
  | leaf l => cases l <;> rfl
  | _ => rfl

/-- A modifier takes from its child only the statistics of a term. -/
lemma bare_congr (m : Modifier R) {c d : Query R} (same : c.termStatistics? = d.termStatistics?) :
    m.bare c = m.bare d := by
  cases m with
  | scorer model _ => exact congrArg (Modifier.scorer model) same
  | _ => rfl

lemma childNeed_bare (m : Modifier R) (c : Query R) (need : Need) :
    (m.bare c).childNeed need = m.childNeed need := by
  cases m <;> rfl

/-! ## What holds of the bare query -/

section Everywhere

variable {P : Need → Query R → Prop}

mutual

/-- What holds of a node if it holds of the bare one holds everywhere if it does in the bare query.
-/
theorem everywhere_of_bare (free : ∀ n c, P n (bare c) → P n c) {need : Need} :
    (q : Query R) → Everywhere P need q.bare → Everywhere P need q
  | .leaf l, h => .leaf (free _ _ h.here)
  | .modify m c, h => by
    have here := free _ (.modify m c) h.here
    cases h with
    | modify _ inner =>
      rw [childNeed_bare] at inner
      exact .modify here (everywhere_of_bare free c inner)
  | .join op cs, h => by
    have here := free _ (.join op cs) h.here
    rw [bare_join] at h
    cases h with
    | join _ each => exact .join here (everywhere_of_bareAll free cs each)
  | .require c v, h => by
    have here := free _ (.require c v) h.here
    cases h with
    | require _ cond value =>
      exact .require here (everywhere_of_bare free c cond) (everywhere_of_bare free v value)

theorem everywhere_of_bareAll (free : ∀ n c, P n (bare c) → P n c) {need : Need} :
    (cs : List (Query R)) → (∀ c ∈ cs.map bare, Everywhere P need c) → ∀ c ∈ cs, Everywhere P need c
  | [], _ => List.forall_mem_nil _
  | c :: cs, each => by
    obtain ⟨first, rest⟩ := List.forall_mem_cons.mp each
    exact List.forall_mem_cons.mpr
      ⟨everywhere_of_bare free c first, everywhere_of_bareAll free cs rest⟩

end

end Everywhere

/-! ## Equal queries -/

section Equality

variable [BEq R]

/-- Queries that are equal have the statistics of the same term. -/
lemma termStatistics?_eq_of_beq {c d : Query R} (equal : (c == d) = true) :
    c.termStatistics? = d.termStatistics? := by
  cases c with
  | leaf l =>
    cases d with
    | leaf k =>
      change Leaf.beq l k = true at equal
      cases l <;> cases k <;> simp_all [Leaf.beq, termStatistics?]
    | _ => cases equal
  | _ => cases d <;> first | rfl | cases equal

lemma leaf_beq_bare {l k : Leaf R} (equal : (l == k) = true) : (l.bare == k.bare) = true := by
  change Leaf.beq l k = true at equal
  change Leaf.beq l.bare k.bare = true
  cases l <;> cases k <;> simp_all [Leaf.beq, Leaf.bare]

lemma modifier_beq_bare {m n : Modifier R} {c d : Query R} (equal : (m == n) = true)
    (inner : (c == d) = true) : (m.bare c == n.bare d) = true := by
  have same := termStatistics?_eq_of_beq inner
  change Modifier.beq m n = true at equal
  change Modifier.beq (m.bare c) (n.bare d) = true
  cases m <;> cases n <;> simp_all [Modifier.beq, Modifier.bare]

mutual

/-- Queries that are equal are equal when they are bare. -/
theorem beq_bare : (q q' : Query R) → (q == q') = true → (q.bare == q'.bare) = true
  | .leaf _, .leaf _, equal => leaf_beq_bare equal
  | .modify _ c, .modify _ d, equal => by
    obtain ⟨same, inner⟩ := (Bool.and_eq_true _ _).mp equal
    exact (Bool.and_eq_true _ _).mpr ⟨modifier_beq_bare same inner, beq_bare c d inner⟩
  | .join _ cs, .join _ ds, equal => by
    obtain ⟨same, inner⟩ := (Bool.and_eq_true _ _).mp equal
    exact (Bool.and_eq_true _ _).mpr ⟨same, beqAll_bareAll cs ds inner⟩
  | .require c v, .require d w, equal => by
    obtain ⟨cond, value⟩ := (Bool.and_eq_true _ _).mp equal
    exact (Bool.and_eq_true _ _).mpr ⟨beq_bare c d cond, beq_bare v w value⟩

theorem beqAll_bareAll : (cs ds : List (Query R)) → beqAll cs ds = true →
    beqAll (bareAll cs) (bareAll ds) = true
  | [], [], _ => rfl
  | c :: cs, d :: ds, equal => by
    obtain ⟨first, rest⟩ := (Bool.and_eq_true _ _).mp equal
    exact (Bool.and_eq_true _ _).mpr ⟨beq_bare c d first, beqAll_bareAll cs ds rest⟩

end

/-- Queries that differ when they are bare differ. -/
lemma beq_eq_false_of_bare {q q' : Query R} (other : (q.bare == q'.bare) = false) :
    (q == q') = false := by
  rw [← Bool.not_eq_true] at other ⊢
  exact fun equal => other (beq_bare q q' equal)

end Equality

/-! ## Bare nodes -/

/-- The node has no marks, and statistics only of a term that is its child. -/
def IsBare : Query R → Prop
  | .leaf (.term t) => t.needed = .docs
  | .modify (.scorer _ stats) c => stats = c.termStatistics?
  | _ => True

mutual

/-- A query of bare nodes is bare. -/
theorem bare_eq_self : (q : Query R) → (∀ p ∈ q.nodes, p.IsBare) → q.bare = q
  | .leaf l, each => by
    have here := each _ List.mem_cons_self
    cases l with
    | term t =>
      obtain ⟨text, field, statsField, stats, needed⟩ := t
      cases here
      rfl
    | _ => rfl
  | .modify m c, each => by
    obtain ⟨here, inner⟩ := List.forall_mem_cons.mp each
    have same : m.bare c = m := by
      cases m with
      | scorer model stats => exact congrArg (Modifier.scorer model) here.symm
      | _ => rfl
    rw [bare, same, bare_eq_self c inner]
  | .join op cs, each => by
    rw [bare, bareAll_eq_self cs fun p mem => each p (List.mem_cons_of_mem _ mem)]
  | .require c v, each => by
    obtain ⟨_, inner⟩ := List.forall_mem_cons.mp each
    obtain ⟨cond, value⟩ := List.forall_mem_append.mp inner
    rw [bare, bare_eq_self c cond, bare_eq_self v value]

theorem bareAll_eq_self : (cs : List (Query R)) → (∀ p ∈ nodesAll cs, p.IsBare) → bareAll cs = cs
  | [], _ => rfl
  | c :: cs, each => by
    obtain ⟨first, rest⟩ := List.forall_mem_append.mp each
    rw [bareAll, bare_eq_self c first, bareAll_eq_self cs rest]

end

mutual

/-- Marks make no difference to the bare query. -/
theorem bare_unmarked : (q : Query R) → q.unmarked.bare = q.bare
  | .leaf l => by cases l <;> rfl
  | .modify m c => by
    have same : m.bare c.unmarked = m.bare c := by
      cases m with
      | scorer model stats =>
        cases c with
        | leaf l => cases l <;> rfl
        | _ => rfl
      | _ => rfl
    rw [unmarked_modify, bare, bare, same, bare_unmarked c]
  | .join op cs => by rw [unmarked_join, bare_join, bare_join, map_bare_unmarked cs]
  | .require c v => by rw [unmarked_require, bare, bare, bare_unmarked c, bare_unmarked v]

theorem map_bare_unmarked : (cs : List (Query R)) → (cs.map unmarked).map bare = cs.map bare
  | [] => rfl
  | c :: cs => by
    rw [List.map_cons, List.map_cons, List.map_cons, bare_unmarked c, map_bare_unmarked cs]

end

variable [Scalar R]

/-- A boolean node does not become a term. -/
lemma Junction.termStatistics?_simplify (j : Junction) (members : Simplified (List (Query R))) :
    (j.simplify members).value.termStatistics? = none := by
  rw [simplify]
  dsimp only
  split
  · cases j <;> rfl
  · rw [withoutIdentity]
    split
    · cases j <;> rfl
    · rfl

/-- The rules for weights keep the statistics of a query that is a single term. -/
lemma termStatistics?_weightPass (q : Query R) :
    q.weightPass.value.termStatistics? = q.termStatistics? := by
  fun_cases weightPass q <;> rfl

/-- The boolean rules keep the statistics of a query that is a single term. -/
lemma termStatistics?_junctionPass (q : Query R) :
    q.junctionPass.value.termStatistics? = q.termStatistics? := by
  cases q with
  | join op cs =>
    rcases Junction.operator_cases op with ⟨j, rfl⟩ | other
    · rw [junctionPass_junction]
      exact Junction.termStatistics?_simplify j _
    · rw [junctionPass_join other]
      rfl
  | leaf l => rw [junctionPass]
  | modify m c =>
    rw [junctionPass]
    rfl
  | require c v =>
    rw [junctionPass]
    rfl

/-- Rewriting rules leave nodes bare. -/
lemma isBare_lasting : Lasting fun _ : Need => (IsBare : Query R → Prop) where
  weight := fun _ => trivial
  spread := fun _ _ _ => trivial
  combine := fun _ _ => trivial
  decided := fun _ => ⟨trivial, trivial⟩
  junction := fun {_ _ _ j} _ _ => by cases j <;> trivial
  modify := fun {_ m c} bare => by
    cases m with
    | scorer model stats =>
      exact ⟨bare.trans (termStatistics?_weightPass c).symm,
        bare.trans (termStatistics?_junctionPass c).symm⟩
    | _ => exact ⟨trivial, trivial⟩
  join := fun _ _ => trivial
  require := fun _ => trivial

/-! ## Rules on a query and on the bare one -/

omit [Scalar R] in
lemma isUnweighted_of_bare {q : Query R} (plain : q.bare.IsUnweighted) : q.IsUnweighted := by
  obtain ⟨weight, combine⟩ := plain
  constructor
  · rintro w c rfl
    exact weight w c.bare rfl
  · rintro ws cs rfl
    exact combine ws (bareAll cs) rfl

/-- There is something for a rule for weights at a node only if there is in the bare query. -/
lemma isPlain_of_bare {q : Query R} (plain : q.bare.IsPlain) : q.IsPlain := by
  obtain ⟨weight, combine⟩ := plain
  constructor
  · rintro w c rfl
    exact isUnweighted_of_bare (weight w c.bare rfl)
  · rintro ws cs rfl
    obtain ⟨members, once⟩ := combine ws (cs.map bare) (bare_join _ cs)
    constructor
    · intro c mem
      exact isUnweighted_of_bare (members c.bare (List.mem_map_of_mem mem))
    · exact (List.pairwise_map.mp once).imp beq_eq_false_of_bare

omit [Scalar R] in
lemma isEven_of_bare {q : Query R} (even : q.bare.IsEven) : q.IsEven := by
  rintro ws cs rfl
  have length := even ws (cs.map bare) (bare_join _ cs)
  rwa [List.length_map] at length

omit [Scalar R] in
lemma Junction.members?_of_bare {j : Junction} {q : Query R} (flat : j.members? q.bare = none) :
    j.members? q = none := by
  cases e : j.members? q with
  | none => rfl
  | some inner =>
    rw [members?_eq_some e, bare_join] at flat
    cases j <;> cases flat

/-- A boolean rule fires on a node only if one does in the bare query. -/
lemma Junction.settles_of_bare {j : Junction} {cs : List (Query R)}
    (settles : j.Settles (cs.map bare)) : j.Settles cs := by
  obtain ⟨flat, once, undecided, matters⟩ := settles
  have absorbing : (j.absorbing : Query R).bare = j.absorbing := by cases j <;> rfl
  have identity : (j.identity : Query R).bare = j.identity := by cases j <;> rfl
  constructor
  · exact fun c mem => members?_of_bare (flat c.bare (List.mem_map_of_mem mem))
  · exact (List.pairwise_map.mp once).imp beq_eq_false_of_bare
  · intro c mem
    apply beq_eq_false_of_bare
    rw [absorbing]
    exact undecided c.bare (List.mem_map_of_mem mem)
  · intro c mem
    apply beq_eq_false_of_bare
    rw [identity]
    exact matters c.bare (List.mem_map_of_mem mem)

/-- A query is settled if the bare one is. -/
lemma settled_of_bare {q : Query R} (settled : q.bare.Settled) : q.Settled := by
  generalize e : q.bare = b at settled
  induction settled generalizing q with
  | leaf =>
    cases q <;> cases e
    exact .leaf
  | modify _ ih =>
    cases q <;> cases e
    exact .modify (ih rfl)
  | join settles _ ih =>
    cases q with
    | join op cs =>
      rw [bare_join] at e
      cases e
      refine .join (fun j same => Junction.settles_of_bare (settles j same)) fun c mem => ?_
      exact ih c.bare (List.mem_map_of_mem mem) rfl
    | _ => cases e
  | require _ _ ihc ihv =>
    cases q <;> cases e
    exact .require (ihc rfl) (ihv rfl)

/-- The rules for weights change nothing where there is nothing for them. -/
lemma weightPass_of_plain :
    (∀ (q : Query R) {need}, Everywhere (fun _ => IsPlain) need q → q.weightPass = ⟨q, false⟩) ∧
      (∀ (_ : List (Query R)) (_ : List R), True) ∧
      ∀ (cs : List (Query R)) {need}, (∀ c ∈ cs, Everywhere (fun _ => IsPlain) need c) →
        weightPassAll cs = ⟨cs, false⟩ := by
  refine weightPass.mutual_induct _ _ _ ?_ ?_ ?_ ?_ ?_ ?_ ?_ ?_ ?_ ?_ ?_ ?_ ?_ ?_ ?_
  -- the rules
  · intro w v c _ need h
    exact absurd rfl ((h.here.1 w _ rfl).1 v c)
  · intro w vs cs _ need h
    exact absurd rfl ((h.here.1 w _ rfl).2 vs cs)
  · intro ws cs repeats _ need h
    rw [hasRepeats_eq_false.mpr (h.here.2 ws cs rfl).2] at repeats
    cases repeats
  · intro ws cs _ weighted _ need h
    obtain ⟨c, mem, weighted⟩ := List.any_eq_true.mp weighted
    obtain ⟨weight, combine⟩ := (h.here.2 ws cs rfl).1 c mem
    unfold isWeighted at weighted
    split at weighted
    · exact absurd rfl (weight _ _)
    · exact absurd rfl (combine _ _)
    · cases weighted
  -- nodes that no rule is for
  · intro ws cs distinct plain ih need h
    cases h with
    | join _ each =>
      rw [weightPass, if_neg distinct, if_neg plain, ih each]
      rfl
  · intro l need _
    rw [weightPass]
  · intro m c other other' ih need h
    cases h with
    | modify _ inner =>
      rw [weightPass, ih inner]
      · rfl
      · exact other
      · exact other'
  · intro op cs other ih need h
    cases h with
    | join _ each =>
      rw [weightPass, ih each]
      · rfl
      · exact other
  · intro c v ihc ihv need h
    cases h with
    | require _ cond value =>
      rw [weightPass, ihc cond, ihv value]
      rfl
  -- summands
  · exact fun _ _ _ _ _ _ _ => trivial
  · exact fun _ _ _ _ _ _ _ => trivial
  · exact fun _ _ _ _ _ _ _ _ => trivial
  · exact fun _ _ _ _ _ => trivial
  -- lists of members
  · intro need _
    rw [weightPassAll]
  · intro c cs ihc ih need each
    obtain ⟨first, rest⟩ := List.forall_mem_cons.mp each
    rw [weightPassAll, ihc first, ih rest]
    rfl

/-- There is nothing to simplify in a query if there is nothing in the bare one. -/
theorem simplify_of_bare {q : Query R} (same : q.bare.pass = ⟨q.bare, false⟩)
    (even : ∀ p ∈ q.bare.nodes, p.IsEven) (passes : Nat) : q.simplify passes = .ok q := by
  have value : q.bare.pass.value = q.bare := congrArg Simplified.value same
  obtain ⟨sums, _⟩ := Bool.or_eq_false_iff.mp (congrArg Simplified.changed same)
  have plain : Everywhere (fun _ => IsPlain) .docs q :=
    everywhere_of_bare (fun _ _ => isPlain_of_bare) q (plain_of_unchanged.1 q.bare sums)
  have settled : q.Settled := settled_of_bare (value ▸ junctionPass_settled q.bare.weightPass.value)
  have even' : Everywhere (fun _ => IsEven) .docs q :=
    everywhere_of_bare (fun _ _ => isEven_of_bare) q (everywhere_of_nodes _ even)
  have pass : q.pass = ⟨q, false⟩ := by
    rw [Query.pass, weightPass_of_plain.1 q plain]
    dsimp only
    rw [settled.junctionPass_eq]
    rfl
  rw [simplify_eq fun p => even'.of_mem_nodes, settle?_of_pass pass]

end Query

end Retrieval
