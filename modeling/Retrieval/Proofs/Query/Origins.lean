import Retrieval.Proofs.Query.Bare
import Retrieval.Proofs.Query.Multi
import Retrieval.Proofs.Query.Nodes

/-!
# Where the nodes of a simplified query come from

Rewriting rules multiply nodes away and move them up, but make no new ones: each node of a rewritten
query is what the same rules make of some node of the query. So each node of a simplified query is
what some node of the query settles to on its own (`Query.exists_node_of_settle?`), however many
passes it took. Leaves do not change on the way (`Query.leaf_mem_of_settle?`).
-/

namespace Retrieval

namespace Query

variable {R : Type}

/-- Each node afterwards is what the rewriting makes of some node before. -/
def Stems (rewrite : Query R → Query R) (before after : List (Query R)) : Prop :=
  ∀ n' ∈ after, ∃ n ∈ before, rewrite n = n'

namespace Stems

variable {rewrite : Query R → Query R} {before before' after after' : List (Query R)}

lemma mono (stems : Stems rewrite before after) (more : before ⊆ before') (less : after' ⊆ after) :
    Stems rewrite before' after' := by
  intro n' mem
  obtain ⟨n, mem, same⟩ := stems n' (less mem)
  exact ⟨n, more mem, same⟩

lemma append (stems : Stems rewrite before after) (stems' : Stems rewrite before' after') :
    Stems rewrite (before ++ before') (after ++ after') := by
  intro n' mem
  rcases List.mem_append.mp mem with mem | mem
  · obtain ⟨n, mem, same⟩ := stems n' mem
    exact ⟨n, List.mem_append_left _ mem, same⟩
  · obtain ⟨n, mem, same⟩ := stems' n' mem
    exact ⟨n, List.mem_append_right _ mem, same⟩

/-- A node is rewritten to one whose inner nodes stem from its own. -/
lemma cons {q q' : Query R} (root : rewrite q = q') (stems : Stems rewrite before after) :
    Stems rewrite (q :: before) (q' :: after) := by
  refine List.forall_mem_cons.mpr ⟨⟨q, List.mem_cons_self, root⟩, fun n' mem => ?_⟩
  obtain ⟨n, mem, same⟩ := stems n' mem
  exact ⟨n, List.mem_cons_of_mem q mem, same⟩

end Stems

/-- The nodes of fewer queries are fewer. -/
lemma nodesAll_subset {cs ds : List (Query R)} (sub : cs ⊆ ds) : nodesAll cs ⊆ nodesAll ds := by
  intro n mem
  obtain ⟨c, within, mem⟩ := mem_nodesAll.mp mem
  exact mem_nodesAll.mpr ⟨c, sub within, mem⟩

lemma nodesAll_append (cs ds : List (Query R)) :
    nodesAll (cs ++ ds) = nodesAll cs ++ nodesAll ds := by
  induction cs with
  | nil => rfl
  | cons c cs ih => rw [List.cons_append, nodesAll, nodesAll, ih, List.append_assoc]

variable [Scalar R]

/-! ## Weights -/

/-- The rules for weights make no new nodes. -/
lemma weightPass_stems :
    (∀ q : Query R, Stems (·.weightPass.value) q.nodes q.weightPass.value.nodes) ∧
      (∀ (cs : List (Query R)) (ws : List R),
        Stems (·.weightPass.value) (nodesAll cs) (nodesAll ((flattened cs ws).map Prod.fst))) ∧
      ∀ cs : List (Query R),
        Stems (·.weightPass.value) (nodesAll cs) (nodesAll (weightPassAll cs).value) := by
  refine weightPass.mutual_induct _ _ _ ?_ ?_ ?_ ?_ ?_ ?_ ?_ ?_ ?_ ?_ ?_ ?_ ?_ ?_ ?_
  -- a weight over a weight, and over a weighted sum
  · intro w v c ih
    have root : (modify (.weight w) (modify (.weight v) c)).weightPass.value =
      weighted (w * v) c.weightPass.value := by rw [weightPass]; rfl
    rw [root]
    exact .cons root (ih.mono (List.subset_cons_self _ _) (List.Subset.refl _))
  · intro w vs cs ih
    have root : (modify (.weight w) (.join (.combine vs) cs)).weightPass.value =
      .join (.combine (vs.map (· * w))) (weightPassAll cs).value := by rw [weightPass]; rfl
    rw [root]
    exact .cons root (ih.mono (List.subset_cons_self _ _) (List.Subset.refl _))
  -- sums: with equal summands, with weighted or nested ones, and plain ones
  · intro ws cs repeats ih
    have root : (join (.combine ws) cs).weightPass.value =
      let merged := mergeSummands cs (weightPassAll cs).value ws
      .join (.combine (merged.map (·.2.2))) (merged.map (·.2.1)) := by
        rw [weightPass, if_pos repeats]
    rw [root]
    refine .cons root (ih.mono (List.Subset.refl _) (nodesAll_subset fun c mem => ?_))
    obtain ⟨p, within, rfl⟩ := List.mem_map.mp mem
    exact mem_values_of_mem_mergeSummands within
  · intro ws cs distinct weighted ih
    have root : (join (.combine ws) cs).weightPass.value =
      .join (.combine ((flattened cs ws).map Prod.snd)) ((flattened cs ws).map Prod.fst) := by
        rw [weightPass, if_neg distinct, if_pos weighted]
    rw [root]
    exact .cons root ih
  · intro ws cs distinct plain ih
    have root : (join (.combine ws) cs).weightPass.value =
      .join (.combine ws) (weightPassAll cs).value := by
        rw [weightPass, if_neg distinct, if_neg plain]
        rfl
    rw [root]
    exact .cons root ih
  -- nodes that no rule is for
  · intro l
    have root : (leaf l : Query R).weightPass.value = leaf l := by rw [weightPass]
    rw [root]
    exact .cons root (List.forall_mem_nil _)
  · intro m c other other' ih
    have root : (modify m c).weightPass.value = modify m c.weightPass.value := by
      rw [weightPass]
      · rfl
      · exact other
      · exact other'
    rw [root]
    exact .cons root ih
  · intro op cs other ih
    have root : (join op cs).weightPass.value = join op (weightPassAll cs).value := by
      rw [weightPass]
      · rfl
      · exact other
    rw [root]
    exact .cons root ih
  · intro c v ihc ihv
    have root : (require c v).weightPass.value = require c.weightPass.value v.weightPass.value := by
      rw [weightPass]
      rfl
    rw [root]
    exact .cons root (ihc.append ihv)
  -- summands: a nested sum, a weighted one, any other, and none
  · intro vs inner cs w ws ihInner ih
    rw [flattened, List.map_append, nodesAll_append]
    refine .append (ihInner.mono (List.subset_cons_self _ _) (nodesAll_subset fun c mem => ?_)) ih
    obtain ⟨p, within, rfl⟩ := List.mem_map.mp mem
    exact (List.of_mem_zip within).1
  · intro v c cs w ws ihc ih
    rw [flattened]
    exact (ihc.mono (List.subset_cons_self _ _) (List.Subset.refl _)).append ih
  · intro c cs w ws other other' ihc ih
    rw [flattened]
    · exact ihc.append ih
    · exact other
    · exact other'
  · intro cs ws other other' other''
    rw [flattened]
    · exact List.forall_mem_nil _
    · exact other
    · exact other'
    · exact other''
  -- lists of members
  · rw [weightPassAll]
    exact List.forall_mem_nil _
  · intro c cs ihc ih
    rw [weightPassAll]
    exact ihc.append ih

/-! ## Conjunctions and disjunctions -/

namespace Junction

/-- Nothing is below the different members of a boolean node that has not been below it before. -/
lemma nodesAll_once (j : Junction) (cs : List (Query R)) :
    nodesAll (distinct [] (j.splice cs).value).value ⊆ nodesAll cs := by
  intro n mem
  obtain ⟨c, within, mem⟩ := mem_nodesAll.mp mem
  replace within := mem_of_mem_distinct within
  rw [splice_value] at within
  obtain ⟨c', within', within⟩ := List.mem_flatMap.mp within
  refine mem_nodesAll.mpr ⟨c', within', ?_⟩
  cases e : j.members? c' with
  | none =>
    rw [e] at within
    cases List.mem_singleton.mp within
    exact mem
  | some inner =>
    rw [e] at within
    rw [members?_eq_some e]
    exact List.mem_cons_of_mem _ (mem_nodesAll.mpr ⟨c, within, mem⟩)

/-- A boolean node becomes one of the constant leaves below it, or stays a boolean node with nothing
new below it. -/
lemma simplify_cases (j : Junction) (members : Simplified (List (Query R))) :
    (∃ l, (l = .always ∨ l = .never) ∧ .leaf l ∈ nodesAll members.value ∧
        (j.simplify members).value = .leaf l) ∨
      ∃ ds, (j.simplify members).value = .join j.operator ds ∧
        nodesAll ds ⊆ nodesAll members.value := by
  have once := j.nodesAll_once members.value
  have below {l : Leaf R} (within : .leaf l ∈ (distinct [] (j.splice members.value).value).value) :
      .leaf l ∈ nodesAll members.value :=
    once (mem_nodesAll.mpr ⟨.leaf l, within, List.mem_cons_self⟩)
  rw [simplify]
  dsimp only
  split
  · next decided =>
    obtain ⟨c, within, same⟩ := List.contains_iff_exists_mem_beq.mp decided
    rw [eq_absorbing_of_beq same] at within
    cases j with
    | and => exact .inl ⟨_, .inr rfl, below within, rfl⟩
    | or => exact .inl ⟨_, .inl rfl, below within, rfl⟩
  · rw [withoutIdentity]
    split
    · next only =>
      obtain ⟨some_, all⟩ := (Bool.and_eq_true _ _).mp only
      rw [Bool.not_eq_true', List.isEmpty_eq_false_iff] at some_
      obtain ⟨c, within⟩ := List.exists_mem_of_ne_nil _ some_
      rw [eq_identity_of_beq (List.all_eq_true.mp all c within)] at within
      cases j with
      | and => exact .inl ⟨_, .inl rfl, below within, rfl⟩
      | or => exact .inl ⟨_, .inr rfl, below within, rfl⟩
    · refine .inr ⟨_, rfl, List.Subset.trans (nodesAll_subset fun c mem => ?_) once⟩
      exact (List.mem_filter.mp mem).1

end Junction

/-- The boolean rules make of a node that joins queries a constant leaf below it, or leave one with
the same operator and nothing new below it. -/
lemma junctionPass_join_cases (op : Operator R) (cs : List (Query R)) :
    (∃ l, (l = .always ∨ l = .never) ∧ .leaf l ∈ nodesAll (junctionPassAll cs).value ∧
        (join op cs).junctionPass.value = .leaf l) ∨
      ∃ ds, (join op cs).junctionPass.value = .join op ds ∧
        nodesAll ds ⊆ nodesAll (junctionPassAll cs).value := by
  rcases Junction.operator_cases op with ⟨j, rfl⟩ | other
  · rw [junctionPass_junction]
    exact j.simplify_cases _
  · rw [junctionPass_join other]
    exact .inr ⟨_, rfl, List.Subset.refl _⟩

mutual

/-- The boolean rules make no new nodes. -/
theorem junctionPass_stems :
    (q : Query R) → Stems (·.junctionPass.value) q.nodes q.junctionPass.value.nodes
  | .leaf l => by
    have root : (leaf l : Query R).junctionPass.value = leaf l := by rw [junctionPass]
    rw [root]
    exact .cons root (List.forall_mem_nil _)
  | .modify m c => by
    have root : (modify m c).junctionPass.value = modify m c.junctionPass.value := by
      rw [junctionPass]
      rfl
    rw [root]
    exact .cons root (junctionPass_stems c)
  | .join op cs => by
    have inner := junctionPassAll_stems cs
    rcases junctionPass_join_cases op cs with ⟨l, _, _, root⟩ | ⟨ds, root, less⟩
    · rw [root]
      exact .cons root (List.forall_mem_nil _)
    · rw [root]
      exact .cons root (inner.mono (List.Subset.refl _) less)
  | .require c v => by
    have root : (require c v).junctionPass.value =
        require c.junctionPass.value v.junctionPass.value := by
      rw [junctionPass]
      rfl
    rw [root]
    exact .cons root ((junctionPass_stems c).append (junctionPass_stems v))

theorem junctionPassAll_stems :
    (cs : List (Query R)) →
      Stems (·.junctionPass.value) (nodesAll cs) (nodesAll (junctionPassAll cs).value)
  | [] => by
    rw [junctionPassAll]
    exact List.forall_mem_nil _
  | c :: cs => by
    rw [junctionPassAll]
    exact (junctionPass_stems c).append (junctionPassAll_stems cs)

end

/-! ## Leaves -/

/-- The rules for weights make no leaf of anything else. -/
lemma leaf_of_weightPass {q : Query R} {l : Leaf R} (made : q.weightPass.value = .leaf l) :
    q = .leaf l := by
  revert made
  fun_cases weightPass q <;> intro made <;> cases made
  rfl

/-- The leaves that the rules for weights leave have been there before. -/
lemma leaf_mem_of_weightPass {q : Query R} {l : Leaf R} (mem : .leaf l ∈ q.weightPass.value.nodes) :
    .leaf l ∈ q.nodes := by
  obtain ⟨n, mem, made⟩ := weightPass_stems.1 q _ mem
  exact leaf_of_weightPass made ▸ mem

mutual

/-- The leaves that the boolean rules leave have been there before. -/
theorem leaf_mem_of_junctionPass {l : Leaf R} :
    (q : Query R) → .leaf l ∈ q.junctionPass.value.nodes → .leaf l ∈ q.nodes
  | .leaf k, mem => by rwa [junctionPass] at mem
  | .modify m c, mem => by
    rw [junctionPass] at mem
    cases mem with
    | tail _ mem => exact List.mem_cons_of_mem _ (leaf_mem_of_junctionPass c mem)
  | .join op cs, mem => by
    refine List.mem_cons_of_mem _ (leaf_mem_of_junctionPassAll cs ?_)
    rcases junctionPass_join_cases op cs with ⟨k, _, below, made⟩ | ⟨ds, made, less⟩
    · rw [made] at mem
      cases List.mem_singleton.mp mem
      exact below
    · rw [made] at mem
      cases mem with
      | tail _ mem => exact less mem
  | .require c v, mem => by
    rw [junctionPass] at mem
    cases mem with
    | tail _ mem =>
      refine List.mem_cons_of_mem _ (List.mem_append.mpr ?_)
      exact (List.mem_append.mp mem).imp (leaf_mem_of_junctionPass c) (leaf_mem_of_junctionPass v)

theorem leaf_mem_of_junctionPassAll {l : Leaf R} :
    (cs : List (Query R)) → .leaf l ∈ nodesAll (junctionPassAll cs).value → .leaf l ∈ nodesAll cs
  | [], mem => by rwa [junctionPassAll] at mem
  | c :: cs, mem => by
    rw [junctionPassAll] at mem
    refine List.mem_append.mpr ?_
    exact (List.mem_append.mp mem).imp (leaf_mem_of_junctionPass c) (leaf_mem_of_junctionPassAll cs)

end

/-- The leaves of a simplified query have been leaves of the query. -/
theorem leaf_mem_of_settle? {passes : Nat} {q q' : Query R} {l : Leaf R}
    (settled : q.settle? passes = some q') (mem : .leaf l ∈ q'.nodes) : .leaf l ∈ q.nodes := by
  let known (p : Query R) : Prop := .leaf l ∈ p.nodes → .leaf l ∈ q.nodes
  have step : ∀ p, known p → known p.pass.value :=
    fun p before mem => before (leaf_mem_of_weightPass (leaf_mem_of_junctionPass _ mem))
  exact settle?_induction step id settled mem

/-! ## Passes -/

/-- A pass makes no new nodes. -/
lemma pass_stems (q : Query R) : Stems (·.pass.value) q.nodes q.pass.value.nodes := by
  intro n' mem
  obtain ⟨n₁, within₁, rfl⟩ := junctionPass_stems _ n' mem
  obtain ⟨n, within, rfl⟩ := weightPass_stems.1 q n₁ within₁
  exact ⟨n, within, rfl⟩

/-- A pass that changes nothing would change nothing in any of the nodes. -/
lemma pass_of_mem_nodes {q n : Query R} (same : q.pass.changed = false) (mem : n ∈ q.nodes) :
    n.pass.changed = false := by
  have value : q.pass.value = q := (pass_shrinks q).kept same
  have plain : Everywhere (fun _ => IsPlain) .docs q :=
    plain_of_unchanged.1 q (Bool.or_eq_false_iff.mp same).1
  have settled : q.Settled := value ▸ junctionPass_settled q.weightPass.value
  have plain_ : Everywhere (fun _ => IsPlain) .docs n :=
    everywhere_of_nodes n fun _ inner => plain.of_mem_nodes (nodes_subset_of_mem q mem inner)
  have settled_ := settled.of_mem_nodes n mem
  rw [pass, weightPass_of_plain.1 n plain_]
  dsimp only
  rw [settled_.junctionPass_eq]
  rfl

/-- Each node of what a query settles to is what one of its nodes settles to, in as many passes. -/
theorem exists_node_of_settle? {passes : Nat} {q q' n' : Query R}
    (settled : q.settle? passes = some q') (mem : n' ∈ q'.nodes) :
    ∃ n ∈ q.nodes, n.settle? passes = some n' := by
  have unchanged {passes : Nat} {q : Query R} (same : q.pass.changed = false)
      (mem : n' ∈ q.pass.value.nodes) : ∃ n ∈ q.nodes, n.settle? passes = some n' := by
    rw [(pass_shrinks q).kept same] at mem
    exact ⟨n', mem, settle?_of_unchanged (pass_of_mem_nodes same mem) passes⟩
  -- the induction is on the passes that may still change something
  induction passes generalizing q with
  | zero =>
    obtain ⟨same, rfl⟩ | ⟨_, _, ⟨⟩, _⟩ := settle?_cases settled
    exact unchanged same mem
  | succ passes ih =>
    obtain ⟨same, rfl⟩ | ⟨_, _, ⟨⟩, settled⟩ := settle?_cases settled
    · exact unchanged same mem
    · obtain ⟨n₁, within₁, settled⟩ := ih settled
      obtain ⟨n, within, rfl⟩ := pass_stems q n₁ within₁
      exact ⟨n, within, settle?_succ settled⟩

end Query

end Retrieval
