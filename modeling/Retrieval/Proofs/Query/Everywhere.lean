import Retrieval.Proofs.Query.Simplified

/-!
# What holds at every node

`Query.Everywhere P need q` says that every node of the query, asked for what the nodes above ask of
it, is as `P` says. It is carried through rebuilding node by node (`Query.Everywhere.rebuild`). If
no rewriting rule takes it away from a single node, it lasts through simplification
(`Query.Everywhere.simplify`).
-/

namespace Retrieval

namespace Query

variable {R : Type}

/-- Every node is as `P` says of it and of what is asked of it, if `need` is asked of the root. -/
inductive Everywhere (P : Need → Query R → Prop) : Need → Query R → Prop where
  | leaf {need l} :
    P need (.leaf l) →
    Everywhere P need (.leaf l)
  | modify {need m c} :
    P need (.modify m c) →
    Everywhere P (m.childNeed need) c →
    Everywhere P need (.modify m c)
  | join {need op cs} :
    P need (.join op cs) →
    (∀ c ∈ cs, Everywhere P (op.childNeed need) c) →
    Everywhere P need (.join op cs)
  | require {need c v} :
    P need (.require c v) →
    Everywhere P .docs c →
    Everywhere P need v →
    Everywhere P need (.require c v)

namespace Everywhere

variable {P Q : Need → Query R → Prop} {need : Need} {q : Query R}

lemma here (h : Everywhere P need q) : P need q := by
  cases h <;> assumption

lemma mono (weaker : ∀ n c, P n c → Q n c) (h : Everywhere P need q) : Everywhere Q need q := by
  induction h with
  | leaf holds => exact .leaf (weaker _ _ holds)
  | modify holds _ ih => exact .modify (weaker _ _ holds) ih
  | join holds _ ih => exact .join (weaker _ _ holds) ih
  | require holds _ _ ihc ihv => exact .require (weaker _ _ holds) ihc ihv

lemma and (h : Everywhere P need q) (h' : Everywhere Q need q) :
    Everywhere (fun n c => P n c ∧ Q n c) need q := by
  induction h with
  | leaf holds => exact .leaf ⟨holds, h'.here⟩
  | modify holds _ ih =>
    cases h' with
    | modify holds' inner => exact .modify ⟨holds, holds'⟩ (ih inner)
  | join holds _ ih =>
    cases h' with
    | join holds' inner => exact .join ⟨holds, holds'⟩ fun c mem => ih c mem (inner c mem)
  | require holds _ _ ihc ihv =>
    cases h' with
    | require holds' cond value => exact .require ⟨holds, holds'⟩ (ihc cond) (ihv value)

/-- What holds whatever is asked holds of all nodes. -/
lemma of_mem_nodes {P : Query R → Prop} (h : Everywhere (fun _ => P) need q) {c : Query R}
    (mem : c ∈ q.nodes) : P c := by
  induction h with
  | leaf holds =>
    cases List.mem_singleton.mp mem
    exact holds
  | modify holds _ ih =>
    cases mem with
    | head => exact holds
    | tail _ mem => exact ih mem
  | join holds _ ih =>
    cases mem with
    | head => exact holds
    | tail _ mem =>
      obtain ⟨c', within, mem⟩ := mem_nodesAll.mp mem
      exact ih c' within mem
  | require holds _ _ ihc ihv =>
    cases mem with
    | head => exact holds
    | tail _ mem => exact (List.mem_append.mp mem).elim ihc ihv

end Everywhere

mutual

/-- What holds of all nodes holds of them whatever is asked. -/
theorem everywhere_of_nodes {P : Query R → Prop} {need : Need} :
    (q : Query R) → (∀ c ∈ q.nodes, P c) → Everywhere (fun _ => P) need q
  | .leaf l, each => .leaf (each _ List.mem_cons_self)
  | .modify m c, each =>
    .modify (each _ List.mem_cons_self)
      (everywhere_of_nodes c fun d mem => each d (List.mem_cons_of_mem _ mem))
  | .join op cs, each =>
    .join (each _ List.mem_cons_self)
      (everywhere_of_nodesAll cs fun d mem => each d (List.mem_cons_of_mem _ mem))
  | .require c v, each => by
    obtain ⟨first, rest⟩ := List.forall_mem_cons.mp each
    obtain ⟨cond, value⟩ := List.forall_mem_append.mp rest
    exact .require first (everywhere_of_nodes c cond) (everywhere_of_nodes v value)

theorem everywhere_of_nodesAll {P : Query R → Prop} {need : Need} :
    (cs : List (Query R)) → (∀ c ∈ nodesAll cs, P c) → ∀ c ∈ cs, Everywhere (fun _ => P) need c
  | [], _ => List.forall_mem_nil _
  | c :: cs, each => by
    obtain ⟨first, rest⟩ := List.forall_mem_append.mp each
    exact List.forall_mem_cons.mpr ⟨everywhere_of_nodes c first, everywhere_of_nodesAll cs rest⟩

end

/-- What holds of all nodes, whatever is asked, holds for every need. -/
lemma Everywhere.for_need {P : Query R → Prop} {need need' : Need} {q : Query R}
    (h : Everywhere (fun _ => P) need q) : Everywhere (fun _ => P) need' q :=
  everywhere_of_nodes q fun _ => h.of_mem_nodes

/-! ## Rebuilding -/

section Rebuild

variable {ε : Type} {P P' : Need → Query R → Prop} {onLeaf : Leaf R → Except ε (Leaf R)}
  {onModifier : Modifier R → Query R → Except ε (Modifier R)}

lemma rebuildAll_eq_mapM (onLeaf : Leaf R → Except ε (Leaf R))
    (onModifier : Modifier R → Query R → Except ε (Modifier R)) (cs : List (Query R)) :
    rebuildAll onLeaf onModifier cs = cs.mapM (rebuild onLeaf onModifier) := by
  induction cs with
  | nil => rfl
  | cons c cs ih => rw [rebuildAll, ih, List.mapM_cons]

/-- A node that joins children is rebuilt child by child. -/
lemma rebuild_join_eq_ok {op : Operator R} {cs : List (Query R)} {q' : Query R}
    (built : (join op cs).rebuild onLeaf onModifier = .ok q') : ∃ cs', q' = .join op cs' ∧
      List.Forall₂ (fun c c' => c.rebuild onLeaf onModifier = .ok c') cs cs' := by
  obtain ⟨cs', all, built⟩ := bind_eq_ok built
  cases built
  rw [rebuildAll_eq_mapM] at all
  exact ⟨cs', rfl, forall₂_of_mapM all⟩

/-- A node that is as `P` says is rebuilt to one that is as `P'` says. -/
structure Carries (P P' : Need → Query R → Prop) (onLeaf : Leaf R → Except ε (Leaf R))
    (onModifier : Modifier R → Query R → Except ε (Modifier R)) : Prop where
  leaf : ∀ {n l l'}, P n (.leaf l) → onLeaf l = .ok l' → P' n (.leaf l')
  modify : ∀ {n m c m' c'}, P n (.modify m c) → c.rebuild onLeaf onModifier = .ok c' →
    Everywhere P' (m.childNeed n) c' → onModifier m c' = .ok m' →
    P' n (.modify m' c') ∧ Everywhere P' (m'.childNeed n) c'
  join : ∀ {n op cs cs'}, P n (.join op cs) → cs'.length = cs.length → P' n (.join op cs')
  require : ∀ {n c v c' v'}, P n (.require c v) → P' n (.require c' v')

/-- What is carried from node to node holds everywhere in a rebuilt query. -/
theorem Everywhere.rebuild (carries : Carries P P' onLeaf onModifier) {need : Need} {q q' : Query R}
    (h : Everywhere P need q) (built : q.rebuild onLeaf onModifier = .ok q') :
    Everywhere P' need q' := by
  induction h generalizing q' with
  | leaf holds =>
    obtain ⟨l', changed, built⟩ := bind_eq_ok built
    cases built
    exact .leaf (carries.leaf holds changed)
  | modify holds _ ih =>
    obtain ⟨c', inner, built⟩ := bind_eq_ok built
    obtain ⟨m', changed, built⟩ := bind_eq_ok built
    cases built
    obtain ⟨holds', inner'⟩ := carries.modify holds inner (ih inner) changed
    exact .modify holds' inner'
  | join holds _ ih =>
    obtain ⟨cs', rfl, each⟩ := rebuild_join_eq_ok built
    refine .join (carries.join holds each.length_eq.symm) fun c' mem => ?_
    obtain ⟨c, within, inner⟩ := (exists_mem_of_forall₂ each).2 c' mem
    exact ih c within inner
  | require holds _ _ ihc ihv =>
    obtain ⟨c', cond, built⟩ := bind_eq_ok built
    obtain ⟨v', value, built⟩ := bind_eq_ok built
    cases built
    exact .require (carries.require holds) (ihc cond) (ihv value)

end Rebuild

/-! ## Simplification -/

variable [Scalar R]

/-- No rewriting rule takes away from a node what `P` says of it. Where a boolean node is left
without children there has been one without children before. -/
structure Lasting (P : Need → Query R → Prop) : Prop where
  weight : ∀ {n w v c d}, P n (.modify (.weight w) c) → P n (.modify (.weight v) d)
  spread : ∀ {n w c vs cs ds}, P n (.modify (.weight w) c) → P .scores (.join (.combine vs) cs) →
    ds.length = cs.length → P n (.join (.combine (vs.map (· * w))) ds)
  combine : ∀ {n ws vs cs ds}, P n (.join (.combine ws) cs) → ds.length = vs.length →
    P n (.join (.combine vs) ds)
  decided : ∀ {n cs} {j : Junction}, P n (.join j.operator cs) →
    P n (.leaf .always) ∧ P n (.leaf .never)
  junction : ∀ {n cs ds} {j : Junction}, P n (.join j.operator cs) →
    (ds = [] → ∃ m, P m (.join j.operator [])) → P n (.join j.operator ds)
  modify : ∀ {n m c}, P n (.modify m c) →
    P n (.modify m c.weightPass.value) ∧ P n (.modify m c.junctionPass.value)
  join : ∀ {n op cs ds}, P n (.join op cs) → ds.length = cs.length → P n (.join op ds)
  require : ∀ {n c v c' v'}, P n (.require c v) → P n (.require c' v')

section Passes

variable {P : Need → Query R → Prop}

/-- What lasts holds at every node after the rules for weights. -/
lemma Everywhere.weightPass (lasting : Lasting P) :
    (∀ (q : Query R) {need}, Everywhere P need q → Everywhere P need q.weightPass.value) ∧
      (∀ (cs : List (Query R)) (ws : List R), (∀ c ∈ cs, Everywhere P .scores c) →
        ∀ p ∈ flattened cs ws, Everywhere P .scores p.1) ∧
      ∀ (cs : List (Query R)) {need}, (∀ c ∈ cs, Everywhere P need c) →
        ∀ c ∈ (weightPassAll cs).value, Everywhere P need c := by
  refine weightPass.mutual_induct _ _ _ ?_ ?_ ?_ ?_ ?_ ?_ ?_ ?_ ?_ ?_ ?_ ?_ ?_ ?_ ?_
  -- a weight over a weight
  · intro w v c ih need h
    cases h with
    | modify outer inner =>
      cases inner with
      | modify _ inner =>
        rw [Query.weightPass]
        exact .modify (lasting.weight outer) (ih inner)
  -- a weight over a weighted sum
  · intro w vs cs ih need h
    cases h with
    | modify outer inner =>
      cases inner with
      | join sum inner =>
        rw [Query.weightPass]
        exact .join (lasting.spread outer sum (weightPassAll_length cs)) (ih inner)
  -- sums: with equal summands, with weighted or nested ones, and plain ones
  · intro ws cs repeats ih need h
    cases h with
    | join sum inner =>
      rw [Query.weightPass, if_pos repeats]
      refine .join (lasting.combine sum ?_) fun c mem => ?_
      · rw [List.length_map, List.length_map]
      · obtain ⟨p, within, rfl⟩ := List.mem_map.mp mem
        exact ih inner _ (mem_values_of_mem_mergeSummands within)
  · intro ws cs distinct weighted ih need h
    cases h with
    | join sum inner =>
      rw [Query.weightPass, if_neg distinct, if_pos weighted]
      refine .join (lasting.combine sum ?_) fun c mem => ?_
      · rw [List.length_map, List.length_map]
      · obtain ⟨p, within, rfl⟩ := List.mem_map.mp mem
        exact ih inner p within
  · intro ws cs distinct plain ih need h
    cases h with
    | join sum inner =>
      rw [Query.weightPass, if_neg distinct, if_neg plain]
      exact .join (lasting.join sum (weightPassAll_length cs)) (ih inner)
  -- nodes that no rule is for
  · intro l need h
    rw [Query.weightPass]
    exact h
  · intro m c other other' ih need h
    cases h with
    | modify holds inner =>
      rw [Query.weightPass]
      · exact .modify (lasting.modify holds).1 (ih inner)
      · exact other
      · exact other'
  · intro op cs other ih need h
    cases h with
    | join holds inner =>
      rw [Query.weightPass]
      · exact .join (lasting.join holds (weightPassAll_length cs)) (ih inner)
      · exact other
  · intro c v ihc ihv need h
    cases h with
    | require holds cond value =>
      rw [Query.weightPass]
      exact .require (lasting.require holds) (ihc cond) (ihv value)
  -- summands: a nested sum, a weighted one, any other, and none
  · intro vs inner cs w ws ihInner ih each p mem
    obtain ⟨first, rest⟩ := List.forall_mem_cons.mp each
    rw [flattened] at mem
    rcases List.mem_append.mp mem with mem | mem
    · cases first with
      | join _ each => exact ihInner each p.1 (List.of_mem_zip mem).1
    · exact ih rest p mem
  · intro v c cs w ws ihc ih each
    obtain ⟨first, rest⟩ := List.forall_mem_cons.mp each
    cases first with
    | modify _ inner =>
      rw [flattened]
      exact List.forall_mem_cons.mpr ⟨ihc inner, ih rest⟩
  · intro c cs w ws other other' ihc ih each
    obtain ⟨first, rest⟩ := List.forall_mem_cons.mp each
    rw [flattened]
    · exact List.forall_mem_cons.mpr ⟨ihc first, ih rest⟩
    · exact other
    · exact other'
  · intro cs ws other other' other'' _
    rw [flattened]
    · exact List.forall_mem_nil _
    · exact other
    · exact other'
    · exact other''
  -- lists of members
  · intro need _
    rw [weightPassAll]
    exact List.forall_mem_nil _
  · intro c cs ihc ih need each
    obtain ⟨first, rest⟩ := List.forall_mem_cons.mp each
    rw [weightPassAll]
    exact List.forall_mem_cons.mpr ⟨ihc first, ih rest⟩

omit [Scalar R] in
/-- Boolean operators ask their children only for documents. -/
lemma Junction.childNeed_operator (j : Junction) (need : Need) :
    (j.operator : Operator R).childNeed need = .docs := by
  cases j <;> rfl

/-- Where no member is kept, either there is none or one of the same operator has none. -/
lemma Junction.nil_of_distinct {j : Junction} {cs : List (Query R)}
    (none : (distinct [] (j.splice cs).value).value = []) :
    cs = [] ∨ .join j.operator [] ∈ cs := by
  have flat : (j.splice cs).value = [] := by
    refine List.eq_nil_iff_forall_not_mem.mpr fun c mem => ?_
    obtain ⟨k, kept, _⟩ := (distinct_spec [] (j.splice cs).value).2.2 c mem
    rw [none] at kept
    cases kept
  cases cs with
  | nil => exact .inl rfl
  | cons c cs =>
    rw [splice_value, List.flatMap_cons, List.append_eq_nil_iff] at flat
    cases e : j.members? c with
    | none =>
      rw [e] at flat
      cases flat.1
    | some inner =>
      rw [e] at flat
      cases show inner = [] from flat.1
      exact .inr (members?_eq_some e ▸ List.mem_cons_self)

/-- What lasts holds after the rules for one boolean node. -/
lemma Junction.simplify_everywhere (lasting : Lasting P) {need : Need} {j : Junction}
    {cs : List (Query R)} (holds : P need (.join j.operator cs))
    {members : Simplified (List (Query R))} (length : members.value.length = cs.length)
    (inner : ∀ c ∈ members.value, Everywhere P .docs c) :
    Everywhere P need (j.simplify members).value := by
  have constants : Everywhere P need j.absorbing ∧ Everywhere P need j.identity := by
    obtain ⟨always, never⟩ := lasting.decided holds
    cases j with
    | and => exact ⟨.leaf never, .leaf always⟩
    | or => exact ⟨.leaf always, .leaf never⟩
  have once : ∀ c ∈ (distinct [] (j.splice members.value).value).value, Everywhere P .docs c := by
    intro c mem
    replace mem := mem_of_mem_distinct mem
    rw [splice_value] at mem
    obtain ⟨c', within, mem⟩ := List.mem_flatMap.mp mem
    have outer := inner c' within
    cases e : j.members? c' with
    | none =>
      rw [e] at mem
      rwa [List.mem_singleton.mp mem]
    | some inner =>
      rw [e] at mem
      rw [members?_eq_some e] at outer
      cases outer with
      | join _ each => exact childNeed_operator j .docs ▸ each c mem
  rw [Junction.simplify]
  dsimp only
  split
  · exact constants.1
  · rw [withoutIdentity]
    split
    · exact constants.2
    · next some_ =>
      refine .join (lasting.junction holds fun none => ?_) fun c mem => ?_
      · -- had any members been met, they would all not have mattered
        have nil : (distinct [] (j.splice members.value).value).value = [] := by
          by_contra ne
          refine some_ ((Bool.and_eq_true _ _).mpr ⟨?_, List.all_eq_true.mpr fun c mem => ?_⟩)
          · rwa [Bool.not_eq_true', List.isEmpty_eq_false_iff]
          · have other := List.filter_eq_nil_iff.mp none c mem
            rwa [bne, Bool.not_eq_true, Bool.not_eq_false'] at other
        rcases nil_of_distinct nil with empty | mem
        · rw [empty, List.length_nil, eq_comm, List.length_eq_zero_iff] at length
          exact ⟨need, length ▸ holds⟩
        · exact ⟨.docs, (inner _ mem).here⟩
      · rw [childNeed_operator]
        exact once c (List.mem_filter.mp mem).1

mutual

/-- What lasts holds at every node after the boolean rules. -/
theorem Everywhere.junctionPass (lasting : Lasting P) {need : Need} :
    (q : Query R) → Everywhere P need q → Everywhere P need q.junctionPass.value
  | .leaf l, h => by
    rw [Query.junctionPass]
    exact h
  | .modify m c, .modify holds inner => by
    rw [Query.junctionPass]
    exact .modify (lasting.modify holds).2 (Everywhere.junctionPass lasting c inner)
  | .join op cs, .join holds inner => by
    have inner' := Everywhere.junctionPassAll lasting cs inner
    rcases Junction.operator_cases op with ⟨j, rfl⟩ | other
    · rw [Junction.childNeed_operator] at inner'
      rw [junctionPass_junction]
      exact Junction.simplify_everywhere lasting holds (junctionPassAll_length cs) inner'
    · rw [junctionPass_join other]
      exact .join (lasting.join holds (junctionPassAll_length cs)) inner'
  | .require c v, .require holds cond value => by
    rw [Query.junctionPass]
    exact .require (lasting.require holds) (Everywhere.junctionPass lasting c cond)
      (Everywhere.junctionPass lasting v value)

theorem Everywhere.junctionPassAll (lasting : Lasting P) {need : Need} :
    (cs : List (Query R)) → (∀ c ∈ cs, Everywhere P need c) →
      ∀ c ∈ (Query.junctionPassAll cs).value, Everywhere P need c
  | [], _ => by
    rw [Query.junctionPassAll]
    exact List.forall_mem_nil _
  | c :: cs, each => by
    obtain ⟨first, rest⟩ := List.forall_mem_cons.mp each
    rw [Query.junctionPassAll]
    exact List.forall_mem_cons.mpr ⟨Everywhere.junctionPass lasting c first,
      Everywhere.junctionPassAll lasting cs rest⟩

end

/-- What lasts holds at every node after a pass. -/
lemma Everywhere.pass (lasting : Lasting P) {need : Need} {q : Query R} (h : Everywhere P need q) :
    Everywhere P need q.pass.value :=
  Everywhere.junctionPass lasting _ ((Everywhere.weightPass lasting).1 q h)

/-- What lasts holds at every node of a simplified query. -/
theorem Everywhere.simplify (lasting : Lasting P) {need : Need} {passes : Nat} {q q' : Query R}
    (h : Everywhere P need q) (simple : q.simplify passes = .ok q') : Everywhere P need q' :=
  settle?_induction (fun _ => Everywhere.pass lasting) h (settled_of_simplify simple)

end Passes

end Query

end Retrieval
