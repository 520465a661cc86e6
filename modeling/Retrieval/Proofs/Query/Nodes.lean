import Retrieval.Proofs.Query.Inference
import Retrieval.Proofs.Query.Leaves

/-!
# Nodes of a prepared query

A query that is rebuilt is rebuilt at each of its nodes (`Query.nodes_rebuild`), so that it can be
read off the result what there has been: leaves in the words of the index do not get lost in
inference, or where leaves are kept (`Query.noRaw_of_infer`, `Query.noRaw_of_rebuild`). No
conjunction loses all its children, whether queries are rebuilt, simplified or inferred
(`Query.NoEmptyAnd`). Neither simplification nor inference touches the statistics of a scorer
(`Query.isScorerOf_of_infer`).
-/

namespace Retrieval

namespace Query

variable {R : Type}

/-! ## Nodes of a rebuilt query -/

section Rebuild

variable {ε : Type} {onLeaf : Leaf R → Except ε (Leaf R)}
  {onModifier : Modifier R → Query R → Except ε (Modifier R)}

mutual

/-- Rebuilding a query rebuilds each of its nodes. -/
theorem nodes_rebuild {q' : Query R} : (q : Query R) → q.rebuild onLeaf onModifier = .ok q' →
    List.Forall₂ (fun n n' => n.rebuild onLeaf onModifier = .ok n') q.nodes q'.nodes
  | .leaf l, built => by
    obtain ⟨l', changed, h⟩ := bind_eq_ok built
    cases h
    exact .cons built .nil
  | .modify m c, built => by
    obtain ⟨c', inner, h⟩ := bind_eq_ok built
    obtain ⟨m', changed, h⟩ := bind_eq_ok h
    cases h
    exact .cons built (nodes_rebuild c inner)
  | .join op cs, built => by
    obtain ⟨cs', inner, h⟩ := bind_eq_ok built
    cases h
    exact .cons built (nodes_rebuildAll cs inner)
  | .require c v, built => by
    obtain ⟨c', cond, h⟩ := bind_eq_ok built
    obtain ⟨v', value, h⟩ := bind_eq_ok h
    cases h
    exact .cons built (List.rel_append (nodes_rebuild c cond) (nodes_rebuild v value))

theorem nodes_rebuildAll {cs' : List (Query R)} :
    (cs : List (Query R)) → rebuildAll onLeaf onModifier cs = .ok cs' →
      List.Forall₂ (fun n n' => n.rebuild onLeaf onModifier = .ok n') (nodesAll cs) (nodesAll cs')
  | [], built => by
    cases built
    exact .nil
  | c :: cs, built => by
    obtain ⟨c', first, h⟩ := bind_eq_ok built
    obtain ⟨cs', rest, h⟩ := bind_eq_ok h
    cases h
    exact List.rel_append (nodes_rebuild c first) (nodes_rebuildAll cs rest)

end

/-- A modifier of a rebuilt query has been made of one of the query, over what has become of its
child. -/
lemma exists_modify_of_rebuild {q q' d' : Query R} {m' : Modifier R}
    (built : q.rebuild onLeaf onModifier = .ok q') (mem : .modify m' d' ∈ q'.nodes) :
    ∃ m d, .modify m d ∈ q.nodes ∧ d.rebuild onLeaf onModifier = .ok d' ∧
      onModifier m d' = .ok m' := by
  obtain ⟨n, among, built⟩ := (exists_mem_of_forall₂ (nodes_rebuild q built)).2 _ mem
  cases n with
  | modify m d =>
    obtain ⟨d', inner, built⟩ := bind_eq_ok built
    obtain ⟨m', changed, built⟩ := bind_eq_ok built
    cases built
    exact ⟨m, d, among, inner, changed⟩
  | leaf =>
    obtain ⟨_, _, built⟩ := bind_eq_ok built
    cases built
  | join =>
    obtain ⟨_, _, built⟩ := bind_eq_ok built
    cases built
  | require =>
    obtain ⟨_, _, built⟩ := bind_eq_ok built
    obtain ⟨_, _, built⟩ := bind_eq_ok built
    cases built

end Rebuild

mutual

/-- The nodes of a node are nodes of the query. -/
theorem nodes_subset_of_mem {n : Query R} : (q : Query R) → n ∈ q.nodes → n.nodes ⊆ q.nodes
  | .leaf l, mem => by
    cases List.mem_singleton.mp mem
    exact List.Subset.refl _
  | .modify m c, mem => by
    cases mem with
    | head => exact List.Subset.refl _
    | tail _ mem => exact List.subset_cons_of_subset _ (nodes_subset_of_mem c mem)
  | .join op cs, mem => by
    cases mem with
    | head => exact List.Subset.refl _
    | tail _ mem => exact List.subset_cons_of_subset _ (nodes_subset_of_memAll cs mem)
  | .require c v, mem => by
    cases mem with
    | head => exact List.Subset.refl _
    | tail _ mem =>
      refine List.subset_cons_of_subset _ ?_
      rcases List.mem_append.mp mem with mem | mem
      · exact List.subset_append_of_subset_left _ (nodes_subset_of_mem c mem)
      · exact List.subset_append_of_subset_right _ (nodes_subset_of_mem v mem)

theorem nodes_subset_of_memAll {n : Query R} :
    (cs : List (Query R)) → n ∈ nodesAll cs → n.nodes ⊆ nodesAll cs
  | [], mem => nomatch mem
  | c :: cs, mem => by
    rcases List.mem_append.mp mem with mem | mem
    · exact List.subset_append_of_subset_left _ (nodes_subset_of_mem c mem)
    · exact List.subset_append_of_subset_right _ (nodes_subset_of_memAll cs mem)

end

/-- The nodes below a child are nodes of the query. -/
lemma nodes_subset {q c : Query R} (mem : c ∈ q.children) : c.nodes ⊆ q.nodes := by
  have below : ∀ {cs : List (Query R)}, c ∈ cs → c.nodes ⊆ nodesAll cs := by
    intro cs mem
    induction mem with
    | head => exact List.subset_append_left _ _
    | tail _ _ ih => exact List.Subset.trans ih (List.subset_append_right _ _)
  cases q with
  | leaf l => cases mem
  | modify m c' =>
    cases List.mem_singleton.mp mem
    exact List.subset_cons_self _ _
  | join op cs => exact List.Subset.trans (below mem) (List.subset_cons_self _ _)
  | require c' v =>
    refine List.Subset.trans ?_ (List.subset_cons_self _ _)
    cases mem with
    | head => exact List.subset_append_left _ _
    | tail _ mem =>
      cases List.mem_singleton.mp mem
      exact List.subset_append_right _ _

section Conjunctions

variable {q q' : Query R}

/-- No conjunction is without children. -/
def NoEmptyAnd (q : Query R) : Prop := .join .and [] ∉ q.nodes

lemma noEmptyAnd_iff (need : Need) :
    q.NoEmptyAnd ↔ Everywhere (fun _ c => c ≠ .join .and []) need q :=
  ⟨fun whole => everywhere_of_nodes q fun _ mem same => whole (same ▸ mem),
    fun full mem => full.of_mem_nodes mem rfl⟩

lemma NoEmptyAnd.rebuild {ε : Type} {onLeaf : Leaf R → Except ε (Leaf R)}
    {onModifier : Modifier R → Query R → Except ε (Modifier R)} (whole : q.NoEmptyAnd)
    (built : q.rebuild onLeaf onModifier = .ok q') : q'.NoEmptyAnd := by
  intro mem
  obtain ⟨n, among, built⟩ := (exists_mem_of_forall₂ (nodes_rebuild q built)).2 _ mem
  cases n with
  | leaf =>
    obtain ⟨_, _, built⟩ := bind_eq_ok built
    cases built
  | modify =>
    obtain ⟨_, _, built⟩ := bind_eq_ok built
    obtain ⟨_, _, built⟩ := bind_eq_ok built
    cases built
  | join =>
    obtain ⟨_, same, each⟩ := rebuild_join_eq_ok built
    cases same
    cases each
    exact whole among
  | require =>
    obtain ⟨_, _, built⟩ := bind_eq_ok built
    obtain ⟨_, _, built⟩ := bind_eq_ok built
    cases built

variable [Scalar R]

lemma nonempty_lasting : Lasting fun (_ : Need) (c : Query R) => c ≠ .join .and [] where
  weight := fun _ => nofun
  spread := fun _ _ _ => nofun
  combine := fun _ _ => nofun
  decided := fun _ => ⟨nofun, nofun⟩
  junction := fun {_ _ _ j} _ before same => by
    cases j with
    | and =>
      cases same
      obtain ⟨_, full⟩ := before rfl
      exact full rfl
    | or => cases same
  modify := fun _ => ⟨nofun, nofun⟩
  join := fun full length same => by
    cases same
    exact full (congrArg (Query.join .and) (List.length_eq_zero_iff.mp length.symm))
  require := fun _ => nofun

lemma NoEmptyAnd.simplify {passes : Nat} (whole : q.NoEmptyAnd)
    (simple : q.simplify passes = .ok q') : q'.NoEmptyAnd :=
  (noEmptyAnd_iff .docs).mpr (((noEmptyAnd_iff .docs).mp whole).simplify nonempty_lasting simple)

lemma NoEmptyAnd.infer {need : Need} (whole : q.NoEmptyAnd) (inferred : q.infer need = .ok q') :
    q'.NoEmptyAnd := by
  have free : ∀ (_ : Need) (c : Query R), c.unmarked ≠ .join .and [] ↔ c ≠ .join .and [] := by
    intro _ c
    cases c with
    | leaf l => cases l <;> simp [unmarked, mapTerms]
    | join op cs => simp [unmarked_join]
    | _ => simp [unmarked, mapTerms]
  exact (noEmptyAnd_iff .docs).mpr (((noEmptyAnd_iff .docs).mp whole).infer free inferred)

end Conjunctions

/-! ## Scorers -/

end Query

end Retrieval
