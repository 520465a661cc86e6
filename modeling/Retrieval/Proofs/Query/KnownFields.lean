import Retrieval.Proofs.Collection.Division
import Retrieval.Proofs.Query.Binding

/-!
# Unknown fields

A bound query without statistics is given some exactly if the collection has every field that a leaf
draws statistics from; otherwise the fault names such a field (`Query.attachStatistics_iff`). The
field that a term is counted in is not looked up. So where a term draws its statistics from another
field, one that the collection does not have passes (`Query.attachStatistics_unknown`).
-/

namespace Retrieval

variable {R : Type}

/-! ## Fields of a leaf -/

namespace Leaf

/-- The leaf draws its statistics from the field. -/
def DrawsFrom (l : Leaf R) (field : String) : Prop :=
  match l with
  | .term t => t.statisticsField = .ok field
  | .lengths l | .constCount _ l => l.field = some field
  | _ => False

/-- The leaf is counted in the field, or draws its statistics from it. -/
def Reads (l : Leaf R) (field : String) : Prop :=
  (∃ t, l = .term t ∧ t.countedField = .ok field) ∨ l.DrawsFrom field

lemma DrawsFrom.unique {l : Leaf R} {field field' : String} (draws : l.DrawsFrom field)
    (draws' : l.DrawsFrom field') : field = field' := by
  cases l with
  | term t => exact Except.ok.inj (draws.symm.trans draws')
  | lengths k => exact Option.some.inj (draws.symm.trans draws')
  | constCount n k => exact Option.some.inj (draws.symm.trans draws')
  | _ => cases draws

end Leaf

namespace Collection

variable {c : Collection}

/-- A term that lacks statistics is given its own, provided that the field for them is known. -/
lemma attachTerm_eq {t : Term} {field : String} (lacks : t.stats = none)
    (draws : t.statisticsField = .ok field) :
    c.attachTerm t =
      (fun _ => { t with stats := some (c.termStatistics t.text field) }) <$> c.knownField field := by
  rw [attachTerm, lacks, draws]
  change (discard (c.knownField field) >>= fun _ => _) = _
  cases c.knownField field <;> rfl

/-- Lengths that lack statistics are given those of their field. -/
lemma attachLengths_eq {l : Lengths} {field : String} (lacks : l.stats = none)
    (named : l.field = some field) :
    c.attachLengths l = (fun s => { l with stats := some s }) <$> c.knownField field := by
  rw [attachLengths, lacks, named]
  rfl

/-- A leaf that lacks statistics is given some if the field for them is known. -/
lemma attachLeaf_of_draws {l : Leaf R} {field : String} (lacks : l.stats? = none)
    (draws : l.DrawsFrom field) :
    ∃ given : Statistics → Leaf R, c.attachLeaf l = given <$> c.knownField field := by
  cases l with
  | term t =>
    have attached := attachTerm_eq (c := c) lacks draws
    exact ⟨_, (congrArg (Leaf.term <$> ·) attached).trans (Functor.map_map _ _ _)⟩
  | lengths k =>
    have attached := attachLengths_eq (c := c) lacks draws
    exact ⟨_, (congrArg (Leaf.lengths <$> ·) attached).trans (Functor.map_map _ _ _)⟩
  | constCount n k =>
    have attached := attachLengths_eq (c := c) lacks draws
    exact ⟨_, (congrArg (Leaf.constCount n <$> ·) attached).trans (Functor.map_map _ _ _)⟩
  | _ => cases draws

/-- A leaf that names its field draws statistics from some field, or has no use for any. -/
lemma draws_or_attachLeaf {l : Leaf R} (named : l.IsNamed) :
    (∃ field, l.DrawsFrom field) ∨ (∀ field, ¬l.DrawsFrom field) ∧ c.attachLeaf l = .ok l := by
  cases l with
  | term t =>
    obtain ⟨field, named⟩ := Option.isSome_iff_exists.mp named
    left
    change ∃ f, t.statisticsField = .ok f
    rw [Term.statisticsField, named]
    cases t.statsField with
    | none => exact ⟨field, rfl⟩
    | some f => exact ⟨f, rfl⟩
  | lengths k => exact .inl (Option.isSome_iff_exists.mp named)
  | constCount n k => exact .inl (Option.isSome_iff_exists.mp named)
  | _ => exact .inr ⟨fun _ => id, rfl⟩

/-- A leaf that lacks statistics is given some if the collection has the field for them. Otherwise
the fault names that field. -/
lemma attachLeaf_outcome {l : Leaf R} (lacks : l.stats? = none) (named : l.IsNamed) :
    ((∀ field, l.DrawsFrom field → (c.fieldStatistics? field).isSome) ∧
        ∃ l', c.attachLeaf l = .ok l') ∨
      ∃ field, l.DrawsFrom field ∧ c.fieldStatistics? field = none ∧
        c.attachLeaf l = .error (.unknownField field) := by
  rcases draws_or_attachLeaf (c := c) named with ⟨field, draws⟩ | ⟨none_, attached⟩
  · obtain ⟨given, attached⟩ := attachLeaf_of_draws (c := c) lacks draws
    rw [attached, knownField]
    cases known : c.fieldStatistics? field with
    | some s =>
      refine .inl ⟨fun field' draws' => ?_, given s, rfl⟩
      rw [draws'.unique draws, known]
      rfl
    | none => exact .inr ⟨field, draws, known, rfl⟩
  · exact .inl ⟨fun field draws => absurd draws (none_ field), l, attached⟩

end Collection

namespace Query

/-! ## Rebuilding -/

section Rebuild

variable {ε : Type} {onLeaf : Leaf R → Except ε (Leaf R)}
  {onModifier : Modifier R → Query R → Except ε (Modifier R)}

mutual

/-- If no modifier is at fault, the fault that ends rebuilding is that of a leaf. -/
theorem exists_leaf_of_rebuild (total : ∀ m c, ∃ m', onModifier m c = .ok m') {fault : ε} :
    (q : Query R) → q.rebuild onLeaf onModifier = .error fault →
      ∃ l, .leaf l ∈ q.nodes ∧ onLeaf l = .error fault
  | .leaf l, failed => by
    rcases bind_eq_error failed with failed | ⟨_, _, ⟨⟩⟩
    exact ⟨l, List.mem_cons_self, failed⟩
  | .modify m c, failed => by
    rcases bind_eq_error failed with failed | ⟨c', _, failed⟩
    · obtain ⟨l, mem, failed⟩ := exists_leaf_of_rebuild total c failed
      exact ⟨l, List.mem_cons_of_mem _ mem, failed⟩
    · obtain ⟨m', changed⟩ := total m c'
      rw [changed] at failed
      cases failed
  | .join op cs, failed => by
    rcases bind_eq_error failed with failed | ⟨_, _, ⟨⟩⟩
    obtain ⟨l, mem, failed⟩ := exists_leaf_of_rebuildAll total cs failed
    exact ⟨l, List.mem_cons_of_mem _ mem, failed⟩
  | .require c v, failed => by
    rcases bind_eq_error failed with failed | ⟨_, _, failed⟩
    · obtain ⟨l, mem, failed⟩ := exists_leaf_of_rebuild total c failed
      exact ⟨l, List.mem_cons_of_mem _ (List.mem_append_left _ mem), failed⟩
    · rcases bind_eq_error failed with failed | ⟨_, _, ⟨⟩⟩
      obtain ⟨l, mem, failed⟩ := exists_leaf_of_rebuild total v failed
      exact ⟨l, List.mem_cons_of_mem _ (List.mem_append_right _ mem), failed⟩

theorem exists_leaf_of_rebuildAll (total : ∀ m c, ∃ m', onModifier m c = .ok m') {fault : ε} :
    (cs : List (Query R)) → rebuildAll onLeaf onModifier cs = .error fault →
      ∃ l, .leaf l ∈ nodesAll cs ∧ onLeaf l = .error fault
  | [], failed => nomatch failed
  | c :: cs, failed => by
    rcases bind_eq_error failed with failed | ⟨_, _, failed⟩
    · obtain ⟨l, mem, failed⟩ := exists_leaf_of_rebuild total c failed
      exact ⟨l, List.mem_append_left _ mem, failed⟩
    · rcases bind_eq_error failed with failed | ⟨_, _, ⟨⟩⟩
      obtain ⟨l, mem, failed⟩ := exists_leaf_of_rebuildAll total cs failed
      exact ⟨l, List.mem_append_right _ mem, failed⟩

end

/-- If no modifier is at fault, a query is rebuilt if its leaves are. -/
lemma exists_rebuild_iff (total : ∀ m c, ∃ m', onModifier m c = .ok m') {q : Query R} :
    (∃ q', q.rebuild onLeaf onModifier = .ok q') ↔
      q.OnlyLeaves fun l => ∃ l', onLeaf l = .ok l' := by
  constructor
  · rintro ⟨q', built⟩ l mem
    obtain ⟨n', _, built⟩ := (exists_mem_of_forall₂ (nodes_rebuild q built)).1 _ mem
    obtain ⟨l', changed, _⟩ := bind_eq_ok built
    exact ⟨l', changed⟩
  · intro only
    cases built : q.rebuild onLeaf onModifier with
    | ok q' => exact ⟨q', rfl⟩
    | error fault =>
      obtain ⟨l, mem, failed⟩ := exists_leaf_of_rebuild total q built
      obtain ⟨l', changed⟩ := only l mem
      rw [changed] at failed
      cases failed

end Rebuild

/-! ## Attaching statistics -/

/-- Leaves of a bound query name their fields, and lack statistics if the query did. -/
lemma named_of_bind {e : Environment R} {c : Collection} {q bound : Query R}
    (lacks : q.OnlyLeaves fun l => l.stats? = none) (filled : q.bind e c = .ok bound) :
    bound.OnlyLeaves fun l => l.IsNamed ∧ l.stats? = none := by
  refine lacks.rebuild (fun l l' lacks filled => ?_) filled
  obtain ⟨named, same⟩ := Environment.fillLeaf_named filled
  exact ⟨named, same.trans lacks⟩

/-- A query without statistics whose leaves name their fields is given statistics if the collection
has each field that a leaf draws statistics from. Otherwise the fault names one that it does not
have. -/
lemma attachStatistics_outcome {c : Collection} {q : Query R}
    (open_ : q.OnlyLeaves fun l => l.IsNamed ∧ l.stats? = none) :
    ((∃ known, q.attachStatistics c = .ok known) ↔
        q.OnlyLeaves fun l => ∀ field, l.DrawsFrom field → (c.fieldStatistics? field).isSome) ∧
      ∀ fault, q.attachStatistics c = .error fault →
        ∃ l field, .leaf l ∈ q.nodes ∧ l.DrawsFrom field ∧ c.fieldStatistics? field = none ∧
          fault = .unknownField field := by
  have total (m : Modifier R) (child : Query R) : ∃ m', Except.ok (m.attach child) =
      (.ok m' : Except Fault (Modifier R)) := ⟨_, rfl⟩
  refine ⟨(exists_rebuild_iff total).trans (forall₂_congr fun l mem => ?_), fun fault failed => ?_⟩
  · obtain ⟨named, lacks⟩ := open_ l mem
    rcases Collection.attachLeaf_outcome (c := c) lacks named with
      ⟨known, attached⟩ | ⟨field, draws, unknown, failed⟩
    · exact iff_of_true attached known
    · refine iff_of_false ?_ fun known => ?_
      · rintro ⟨l', attached⟩
        cases attached.symm.trans failed
      · have some_ := known field draws
        rw [unknown] at some_
        cases some_
  · obtain ⟨l, mem, failed⟩ := exists_leaf_of_rebuild total q failed
    obtain ⟨named, lacks⟩ := open_ l mem
    rcases Collection.attachLeaf_outcome (c := c) lacks named with
      ⟨_, _, attached⟩ | ⟨field, draws, unknown, failed'⟩
    · cases attached.symm.trans failed
    · exact ⟨l, field, mem, draws, unknown, Except.error.inj (failed.symm.trans failed')⟩

/-- A bound query that brings no statistics is given some exactly if the collection has every field
that a leaf draws statistics from. Otherwise the fault is one of structure, and names such a field
that the collection does not have. Where each term draws statistics from the field that it is counted
in, statistics are given exactly if the collection has every field that a leaf reads. -/
theorem attachStatistics_iff {e : Environment R} {c : Collection} {q bound : Query R}
    (lacks : q.OnlyLeaves fun l => l.stats? = none) (filled : q.bind e c = .ok bound) :
    ((∃ known, bound.attachStatistics c = .ok known) ↔
        bound.OnlyLeaves fun l => ∀ field, l.DrawsFrom field → (c.fieldStatistics? field).isSome) ∧
      (∀ fault, bound.attachStatistics c = .error fault → fault.kind = "Structure" ∧
        ∃ l field, .leaf l ∈ bound.nodes ∧ l.DrawsFrom field ∧ c.fieldStatistics? field = none ∧
          fault = .unknownField field) ∧
      ((∀ t ∈ bound.terms, t.statisticsField = t.countedField) →
        ((∃ known, bound.attachStatistics c = .ok known) ↔
          bound.OnlyLeaves fun l => ∀ field, l.Reads field → (c.fieldStatistics? field).isSome)) := by
  obtain ⟨given, failing⟩ := attachStatistics_outcome (c := c) (named_of_bind lacks filled)
  refine ⟨given, fun fault failed => ?_, fun same => given.trans (forall₂_congr fun l mem => ?_)⟩
  · obtain ⟨l, field, mem, draws, unknown, rfl⟩ := failing fault failed
    exact ⟨rfl, l, field, mem, draws, unknown, rfl⟩
  · refine forall_congr' fun field => imp_congr_left ⟨.inr, ?_⟩
    rintro (⟨t, rfl, counted⟩ | draws)
    · exact (same t ((mem_terms bound).mpr mem)).trans counted
    · exact draws

/-- A scored maximum of a term and of lengths, in a field that there is or in one that there is not;
terms draw their statistics from titles. -/
theorem attachStatistics_iff_nested :
    let c := Collection.ofDocuments none [⟨"d0", [("body", "a"), ("title", "b")]⟩]
    let e : Environment Float := { Environment.usual with defaultStatsField := some "title" }
    let q (field : String) : Query Float := .modify (.scorer (.dirichlet none) none)
      (.join .max [term "a", .modify .alwaysMatch (.leaf (.lengths { field := some field }))])
    (∀ field, (q field).OnlyLeaves fun l => l.stats? = none) ∧
      ∃ bound bound', (q "body").bind e c = .ok bound ∧ (q "nope").bind e c = .ok bound' ∧
        (∃ known, bound.attachStatistics c = .ok known) ∧
        ¬∃ known, bound'.attachStatistics c = .ok known := by
  intro c e q
  have lacks (field : String) : (q field).OnlyLeaves fun l => l.stats? = none := by
    intro l mem
    simp only [q, term, nodes, nodesAll, List.mem_cons, List.mem_append, leaf.injEq,
      List.not_mem_nil, reduceCtorEq, false_or, or_false] at mem
    rcases mem with rfl | rfl <;> rfl
  let bound (field : String) : Query Float := .modify (.scorer (.dirichlet (some 1500)) none)
    (.join .max [.leaf (.term { text := "a", field := some "body", statsField := some "title" }),
      .modify .alwaysMatch (.leaf (.lengths { field := some field }))])
  have filled (field : String) : (q field).bind e c = .ok (bound field) := rfl
  have title : (c.fieldStatistics? "title").isSome := by decide +kernel
  have body : (c.fieldStatistics? "body").isSome := by decide +kernel
  have nope : ¬(c.fieldStatistics? "nope").isSome := by decide +kernel
  refine ⟨lacks, bound "body", bound "nope", filled _, filled _,
    (attachStatistics_iff (lacks _) (filled _)).1.mpr ?_, fun given => nope ?_⟩
  · intro l mem field draws
    simp only [bound, nodes, nodesAll, List.mem_cons, List.mem_append, leaf.injEq,
      List.not_mem_nil, reduceCtorEq, false_or, or_false] at mem
    rcases mem with rfl | rfl <;> cases draws
    · exact title
    · exact body
  · have known := (attachStatistics_iff (lacks _) (filled _)).1.mp given
    exact known (.lengths { field := some "nope" }) (by simp [bound, nodes, nodesAll]) "nope" rfl

/-- Where terms draw their statistics from bodies, a term may be counted in a field that the
collection does not have. -/
theorem attachStatistics_unknown :
    let c := Collection.ofDocuments none [⟨"d0", [("body", "a")]⟩]
    let e : Environment Float := { Environment.usual with defaultStatsField := some "body" }
    let q : Query Float := term "a" "nope"
    e.validate.isOk ∧ (q.OnlyLeaves fun l => l.stats? = none) ∧
      ∃ t, q.bind e c = .ok (.leaf (.term t)) ∧ t.countedField = .ok "nope" ∧
        c.fieldStatistics? "nope" = none ∧
        ∃ known, attachStatistics c (.leaf (.term t) : Query Float) = .ok known := by
  intro c e q
  refine ⟨by decide +kernel, ?_, _, rfl, rfl, by decide +kernel, exists_of_isOk (by decide +kernel)⟩
  intro l mem
  cases List.mem_singleton.mp mem
  rfl

end Query

end Retrieval
