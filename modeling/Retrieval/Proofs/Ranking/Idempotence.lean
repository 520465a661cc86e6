import Retrieval.Proofs.Query.Bare
import Retrieval.Proofs.Query.Marks
import Retrieval.Proofs.Ranking.Preparation

/-!
# Preparing what is prepared

The scoring query of a prepared query is prepared to itself and the same candidates
(`Searcher.prepareFor_idempotent`). Every step leaves it as it is (`Searcher.Finished`). Binding and
attaching find nothing left open, since each leaf and each model was filled in by the first
preparation. Simplification finds nothing to rewrite, since the scoring query is, but for its marks
and measured statistics, the one that was simplified (`Searcher.bare_scoring`). Inference finds the
marks that it would set, and measuring finds statistics at every scorer.
-/

namespace Retrieval

variable {R : Type}

/-! ## Leaves -/

/-- What is needed of a term does not matter to whether it is full. -/
lemma Leaf.isFull_of_bare {e : Environment R} {c : Collection} {l : Leaf R}
    (full : l.bare.IsFull e c) : l.IsFull e c := by
  cases l with
  | term t =>
    obtain ⟨filled, attached⟩ := full
    obtain ⟨t', attached', attached⟩ := bind_eq_ok attached
    obtain ⟨s, _, rfl⟩ := Collection.attachTerm_eq_ok attached'
    injection filled with filled
    injection filled with filled
    injection attached with attached
    injection attached with attached
    have same : e.fillTerm t = t := congrArg (fun s : Term => { s with needed := t.needed }) filled
    have given : t.stats = some s := (congrArg Term.stats attached).symm
    constructor
    · rw [Environment.fillLeaf, same]
    · rw [Collection.attachLeaf, Collection.attachTerm, given]
      rfl
  | _ => exact full

namespace Query

/-! ## Rebuilding -/

section Rebuild

variable {ε : Type}

variable {onModifier : Modifier R → Query R → Except ε (Modifier R)}

mutual

/-- Where no leaf is rebuilt the terms stay the same. -/
theorem terms_rebuild {q' : Query R} :
    (q : Query R) → q.rebuild .ok onModifier = .ok q' → q'.terms = q.terms
  | .leaf l, built => by
    cases built
    rfl
  | .modify m c, built => by
    obtain ⟨c', inner, built⟩ := bind_eq_ok built
    obtain ⟨m', _, built⟩ := bind_eq_ok built
    cases built
    rw [terms, terms, terms_rebuild c inner]
  | .join op cs, built => by
    obtain ⟨cs', inner, built⟩ := bind_eq_ok built
    cases built
    rw [terms, terms, termsAll_rebuildAll cs inner]
  | .require c v, built => by
    obtain ⟨c', cond, built⟩ := bind_eq_ok built
    obtain ⟨v', value, built⟩ := bind_eq_ok built
    cases built
    rw [terms, terms, terms_rebuild c cond, terms_rebuild v value]

theorem termsAll_rebuildAll {cs' : List (Query R)} :
    (cs : List (Query R)) → rebuildAll .ok onModifier cs = .ok cs' → termsAll cs' = termsAll cs
  | [], built => by
    cases built
    rfl
  | c :: cs, built => by
    obtain ⟨c', first, built⟩ := bind_eq_ok built
    obtain ⟨cs', rest, built⟩ := bind_eq_ok built
    cases built
    rw [termsAll, termsAll, terms_rebuild c first, termsAll_rebuildAll cs rest]

end

mutual

/-- Modifiers that keep all but their statistics make no difference to the bare query. -/
theorem bare_rebuild (keeps : ∀ m c m', onModifier m c = .ok m' → ∀ d, m'.bare d = m.bare d)
    {q' : Query R} : (q : Query R) → q.rebuild .ok onModifier = .ok q' → q'.bare = q.bare
  | .leaf l, built => by
    cases built
    rfl
  | .modify m c, built => by
    obtain ⟨c', inner, built⟩ := bind_eq_ok built
    obtain ⟨m', changed, built⟩ := bind_eq_ok built
    cases built
    have inner := bare_rebuild keeps c inner
    have stats : c'.termStatistics? = c.termStatistics? := by
      rw [← termStatistics?_bare, inner, termStatistics?_bare]
    have same : m'.bare c' = m.bare c := (keeps m c' m' changed c').trans (bare_congr m stats)
    rw [bare, bare, same, inner]
  | .join op cs, built => by
    obtain ⟨cs', inner, built⟩ := bind_eq_ok built
    cases built
    rw [bare, bare, bareAll_rebuildAll keeps cs inner]
  | .require c v, built => by
    obtain ⟨c', cond, built⟩ := bind_eq_ok built
    obtain ⟨v', value, built⟩ := bind_eq_ok built
    cases built
    rw [bare, bare, bare_rebuild keeps c cond, bare_rebuild keeps v value]

theorem bareAll_rebuildAll (keeps : ∀ m c m', onModifier m c = .ok m' → ∀ d, m'.bare d = m.bare d)
    {cs' : List (Query R)} :
    (cs : List (Query R)) → rebuildAll .ok onModifier cs = .ok cs' → bareAll cs' = bareAll cs
  | [], built => by
    cases built
    rfl
  | c :: cs, built => by
    obtain ⟨c', first, built⟩ := bind_eq_ok built
    obtain ⟨cs', rest, built⟩ := bind_eq_ok built
    cases built
    rw [bareAll, bareAll, bare_rebuild keeps c first, bareAll_rebuildAll keeps cs rest]

end

end Rebuild

/-! ## Nodes -/

/-- The node is as a query is written: nothing is marked at it if it is a term, and it has no
statistics if it is a scorer. Other leaves may bring what they like. -/
def IsWritten : Query R → Prop
  | .leaf (.term t) => t.needed = .docs
  | .modify (.scorer _ stats) _ => stats = none
  | _ => True

/-- Binding sets parameters, and marks nothing. -/
lemma bind_carries_written {e : Environment R} {c : Collection} : Carries (fun _ => IsWritten)
    (fun _ p => p.IsWritten ∧ p.IsSet) (e.fillLeaf c) fun m _ => .ok (e.fillModifier m) where
  leaf := by
    intro _ l l' written filled
    refine ⟨?_, trivial⟩
    cases l' with
    | term t' =>
      obtain ⟨t, rfl, _, same⟩ := (Environment.fillLeaf_spec filled).1 t' rfl
      exact same.trans written
    | _ => trivial
  modify := by
    intro _ m _ m' _ written _ inner filled
    cases filled
    cases m with
    | scorer model stats => exact ⟨⟨written, isSet_fillModel e model⟩, inner⟩
    | _ => exact ⟨⟨trivial, trivial⟩, inner⟩
  join := fun _ _ => ⟨trivial, trivial⟩
  require := fun _ => ⟨trivial, trivial⟩

/-- Attaching gives a scorer no statistics but those of its term. -/
lemma attachStatistics_carries_bare {c : Collection} : Carries
    (fun _ (p : Query R) => p.IsWritten ∧ p.IsSet) (fun _ p => p.IsBare ∧ p.IsSet) c.attachLeaf
    fun m q => .ok (m.attach q) where
  leaf := by
    intro _ l l' written attached
    refine ⟨?_, trivial⟩
    cases l' with
    | term t' =>
      obtain ⟨t, rfl, _, same⟩ := (Collection.attachLeaf_spec attached).1 t' rfl
      exact same.trans written.1
    | _ => trivial
  modify := by
    intro _ m _ m' c' written _ inner attached
    cases attached
    cases m with
    | scorer model stats =>
      obtain ⟨given, set⟩ := written
      cases given
      exact ⟨⟨rfl, set⟩, inner⟩
    | _ => exact ⟨⟨trivial, trivial⟩, inner⟩
  join := fun _ _ => ⟨trivial, trivial⟩
  require := fun _ => ⟨trivial, trivial⟩

lemma isSet_lasting [Scalar R] : Lasting fun _ : Need => (IsSet : Query R → Prop) where
  weight := fun _ => trivial
  spread := fun _ _ _ => trivial
  combine := fun _ _ => trivial
  decided := fun _ => ⟨trivial, trivial⟩
  junction := fun {_ _ _ j} _ _ => by cases j <;> trivial
  modify := fun {_ m _} set => by cases m <;> exact ⟨set, set⟩
  join := fun _ _ => trivial
  require := fun _ => trivial

lemma isSet_of_bare {p : Query R} (set : p.bare.IsSet) : p.IsSet := by
  cases p with
  | modify m c => cases m <;> exact set
  | _ => trivial

/-- Inference asks of a node what it asks of the bare one. -/
lemma fit_of_bare {need : Need} {p : Query R} (fit : Fit need p.bare) : Fit need p := by
  obtain ⟨⟨counted, placed, scored⟩, enough⟩ := fit
  constructor
  · cases p with
    | leaf l => cases l <;> exact ⟨counted, placed, scored⟩
    | modify m c => cases m <;> exact ⟨counted, placed, scored⟩
    | join op cs => cases op <;> exact ⟨counted, placed, scored⟩
    | require c v => exact ⟨counted, placed, scored⟩
  · intro op cs e wants
    cases e
    have two := enough op (cs.map bare) (bare_join op cs) wants
    rwa [List.length_map] at two

end Query

namespace Searcher

open Query

variable [Scalar R] {e : Searcher R} {need : Need} {q : Query R} {p : Prepared R}

/-! ## Measuring -/

/-- Measuring leaves scorers alone that have statistics. -/
lemma measureModifier_eq_self {m : Modifier R} {c : Query R}
    (measured : (modify m c).IsMeasured) : e.measureModifier m c = .ok m := by
  cases m with
  | scorer model stats =>
    obtain ⟨s, rfl⟩ := Option.isSome_iff_exists.mp measured
    rfl
  | _ => rfl

/-- Measuring gives a scorer nothing but statistics. -/
lemma measureModifier_bare (m : Modifier R) (c : Query R) (m' : Modifier R)
    (changed : e.measureModifier m c = .ok m') (d : Query R) : m'.bare d = m.bare d := by
  obtain ⟨model, stats, rfl, _, rfl⟩ | ⟨_, rfl⟩ := measureModifier_cases changed <;> rfl

/-- Measuring leaves no scorer without statistics, and changes nothing about marks. -/
lemma measure_carries_marked : Carries IsMarked
    (fun n (c : Query R) => c.IsMarked n ∧ c.IsMeasured) .ok e.measureModifier where
  leaf := by
    rintro n l _ marked ⟨rfl⟩
    exact ⟨marked, trivial⟩
  modify := by
    intro n m c m' c' _ _ inner changed
    obtain ⟨model, stats, rfl, _, rfl⟩ | ⟨other, rfl⟩ := measureModifier_cases changed
    · exact ⟨⟨nofun, rfl⟩, inner⟩
    · refine ⟨⟨nofun, ?_⟩, inner⟩
      cases m' with
      | scorer model stats =>
        apply Option.isSome_iff_ne_none.mpr
        exact fun none => other model (none ▸ rfl)
      | _ => trivial
  join := fun _ _ => ⟨nofun, trivial⟩
  require := fun _ => ⟨nofun, trivial⟩

/-! ## The scoring query -/

/-- The scoring query of a prepared query is, but for marks and measured statistics, the query that
was simplified. -/
theorem bare_scoring {simple typed scoring : Query R} (bare : ∀ p ∈ simple.nodes, p.IsBare)
    (inferred : simple.infer need = .ok typed) (measured : e.measure typed = .ok scoring) :
    scoring.bare = simple := by
  calc scoring.bare
    _ = typed.bare := bare_rebuild measureModifier_bare typed measured
    _ = typed.unmarked.bare := (bare_unmarked typed).symm
    _ = simple.unmarked.bare := by rw [infer_unmarked inferred]
    _ = simple.bare := bare_unmarked simple
    _ = simple := bare_eq_self simple bare

/-- What binding, attaching and simplifying leave of a query as it is written. -/
lemma simple_spec {bound known simple : Query R} (written : ∀ p ∈ q.nodes, p.IsWritten)
    (filled : q.bind e.env e.collection = .ok bound)
    (attached : bound.attachStatistics e.collection = .ok known)
    (simplified : known.simplify e.env.maxPasses = .ok simple) :
    (∀ p ∈ simple.nodes, p.IsBare) ∧ (∀ p ∈ simple.nodes, p.IsSet) ∧
      simple.OnlyLeaves fun l => l.IsFull e.env e.collection := by
  have written' : Everywhere (fun _ => IsWritten) .docs q := everywhere_of_nodes q written
  have known_ := (written'.rebuild bind_carries_written filled).rebuild
    attachStatistics_carries_bare attached
  have bare := (known_.mono fun _ _ => And.left).simplify isBare_lasting simplified
  have set := (known_.mono fun _ _ => And.right).simplify isSet_lasting simplified
  have leaves := OnlyLeaves.rebuild (P := fun _ => True)
    (fun _ _ _ => Environment.fillLeaf_filled) (fun _ _ => trivial) filled
  have full := leaves.rebuild (fun _ _ => Leaf.isFull_of_attachLeaf) attached
  exact ⟨fun p => bare.of_mem_nodes, fun p => set.of_mem_nodes,
    full.simplify ⟨rfl, rfl⟩ ⟨rfl, rfl⟩ simplified⟩

/-- No step of a preparation finds anything to do in the query. -/
structure Finished (e : Searcher R) (need : Need) (q : Query R) : Prop where
  full : q.OnlyLeaves fun l => l.IsFull e.env e.collection
  set : ∀ p ∈ q.nodes, p.IsSet
  simple : ∀ passes, q.simplify passes = .ok q
  fit : Everywhere Fit need q
  marked : Everywhere IsMarked need q
  unified : ∀ t ∈ q.terms, mostNeeded q.terms t = t.needed
  measured : ∀ p ∈ q.nodes, p.IsMeasured

/-- A finished query is its own scoring query. -/
lemma Finished.scoringFor_eq (finished : Finished e need q) : e.scoringFor need q = .ok q := by
  have filled : q.bind e.env e.collection = .ok q := by
    apply rebuild_eq_self fun l mem => (finished.full l mem).1
    intro m c mem
    rw [fillModifier_eq_self (finished.set _ mem)]
  have attached : q.attachStatistics e.collection = .ok q := by
    apply rebuild_eq_self fun l mem => (finished.full l mem).2
    intro m c mem
    rw [attach_eq_self (finished.measured _ mem)]
  have inferred : q.infer need = .ok q :=
    infer_eq_self finished.fit finished.marked finished.unified
  have measured : e.measure q = .ok q :=
    rebuild_eq_self (fun _ _ => rfl) fun m c mem =>
      measureModifier_eq_self (finished.measured _ mem)
  simp only [scoringFor, filled, attached, finished.simple, inferred, measured, Bind.bind,
    Except.bind]

/-- The scoring query of a query as it is written is finished. -/
theorem finished_of_scoringFor {scoring : Query R} (written : ∀ p ∈ q.nodes, p.IsWritten)
    (scored : e.scoringFor need q = .ok scoring) : Finished e need scoring := by
  obtain ⟨bound, known, simple, typed, h, h', h'', inferred, measured⟩ := scoringFor_steps scored
  obtain ⟨bare, set, full⟩ := simple_spec written h h' h''
  have same : scoring.bare = simple := bare_scoring bare inferred measured
  obtain ⟨marked, unified⟩ := marks_of_infer inferred
  have traces := marked.rebuild measure_carries_marked measured
  constructor
  -- what the nodes of the simplified query have, those of the scoring query have
  case full =>
    refine (onlyLeaves_iff need).mpr (everywhere_of_bare ?_ scoring ?_)
    · rintro _ _ full l rfl
      exact Leaf.isFull_of_bare (full l.bare rfl)
    · rw [same]
      exact (onlyLeaves_iff need).mp full
  case set =>
    have set' : Everywhere (fun _ => IsSet) need scoring := by
      apply everywhere_of_bare fun _ _ => isSet_of_bare
      rw [same]
      exact everywhere_of_nodes simple set
    exact fun p => set'.of_mem_nodes
  case fit =>
    apply everywhere_of_bare fun _ _ => fit_of_bare
    rw [same]
    exact exists_infer_iff.mp ⟨typed, inferred⟩
  case simple =>
    obtain ⟨_, checked, _⟩ := bind_eq_ok h''
    have even : simple.Even need := (even_of_checkWeights known checked).simplify even_lasting h''
    apply simplify_of_bare
    · rw [same]
      exact pass_of_settle? (settled_of_simplify h'')
    · rw [same]
      exact fun p => even.of_mem_nodes
  -- inference and measuring have left their own marks
  case marked => exact traces.mono fun _ _ => And.left
  case measured => exact fun p => (traces.mono fun _ _ => And.right).of_mem_nodes
  case unified =>
    have terms : scoring.terms = typed.terms := terms_rebuild typed measured
    rw [terms]
    exact unified

/-- Preparation is idempotent. A query is prepared that is as it is written, with no needs marked at
its terms and no statistics at its scorers. Then the scoring query that comes of it is prepared for
the same need, with success, to itself and to the same candidates. -/
theorem prepareFor_idempotent (written : ∀ p ∈ q.nodes, p.IsWritten)
    (prepared : e.prepareFor need q = .ok p) : e.prepareFor need p.scoring = .ok p := by
  rw [prepareFor_eq] at prepared
  obtain ⟨scoring, scored, candidates⟩ := bind_eq_ok prepared
  have same : p.scoring = scoring := by
    dsimp only at candidates
    split at candidates
    · obtain ⟨_, _, candidates⟩ := bind_eq_ok candidates
      cases candidates
      rfl
    · cases candidates
      rfl
  rw [prepareFor_eq, same, (finished_of_scoringFor written scored).scoringFor_eq]
  exact candidates

/-- Two equal summands, beside a scorer of the same term over all documents: the first preparation
merges, marks and measures. -/
theorem prepareFor_idempotent_measured :
    let docs : List Document := [⟨"d0", [("body", "a b a")]⟩, ⟨"d1", [("body", "b")]⟩]
    let e : Searcher Float := ⟨.ofDocuments (some 1) docs, .usual⟩
    let a : Query Float := .term "a"
    let scored (c : Query Float) : Query Float := .modify (.scorer (.dirichlet none) none) c
    let q : Query Float := .join (.combine [1, 2, 3])
      [scored a, scored a, scored (.modify .alwaysMatch a)]
    (∀ p ∈ q.nodes, p.IsWritten) ∧
      ∃ p, e.prepareFor .scores q = .ok p ∧ p.scoring.size < q.size ∧
        e.prepareFor .scores p.scoring = .ok p := by
  intro docs e a scored q
  have written : ∀ p ∈ q.nodes, p.IsWritten := by
    simp [q, scored, a, Query.term, Query.nodes, nodesAll, IsWritten]
  have merges :
      (e.prepareFor .scores q).map (fun p => decide (p.scoring.size < q.size)) = .ok true := by
    decide +kernel
  cases prepared : e.prepareFor .scores q with
  | error fault =>
    rw [prepared] at merges
    cases merges
  | ok p =>
    rw [prepared] at merges
    injection merges with merges
    exact ⟨written, p, rfl, of_decide_eq_true merges, prepareFor_idempotent written prepared⟩

end Searcher

end Retrieval
