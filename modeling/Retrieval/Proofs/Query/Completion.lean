import Retrieval.Query.Shapes
import Retrieval.Proofs.Query.Binding

/-!
# Completed queries

A query completes another (`Query.Completes`) if the two have one shape and whatever is set in the
other is set alike in it. Binding completes a query so that nothing is left open but statistics, and
attaching statistics completes it further (`Query.bind_closed`).
-/

namespace Retrieval

variable {R : Type}

/-! ## Completion -/

/-- What the second lengths have set, the first have set alike. -/
structure Lengths.Completes (k' k : Lengths) : Prop where
  field : Kept k.field k'.field
  stats : Kept k.stats k'.stats

/-- The first leaf is of the kind of the second, and has set alike what that has set. -/
inductive Leaf.Completes : Leaf R → Leaf R → Prop where
  | term {t' t : Term} :
    t'.text = t.text →
    t'.needed = t.needed →
    Kept t.field t'.field →
    Kept t.statsField t'.statsField →
    Kept t.stats t'.stats →
    Completes (.term t') (.term t)
  | lengths {k' k : Lengths} :
    k'.Completes k →
    Completes (.lengths k') (.lengths k)
  | constCount {n} {k' k : Lengths} :
    k'.Completes k →
    Completes (.constCount n k') (.constCount n k)
  | whitelist {w' w : Whitelist} :
    Kept w.names w'.names →
    Kept w.ids w'.ids →
    Completes (.whitelist w') (.whitelist w)
  | refl {l} :
    Completes l l

/-- The models are of one kind, and the first has set alike what the second has set. -/
inductive Model.Completes : Model R → Model R → Prop where
  | dirichlet {mu' mu} :
    Kept mu mu' →
    Completes (.dirichlet mu') (.dirichlet mu)
  | absoluteDiscounting {delta' delta} :
    Kept delta delta' →
    Completes (.absoluteDiscounting delta') (.absoluteDiscounting delta)
  | bm25 {b' b k' k} :
    Kept b b' →
    Kept k k' →
    Completes (.bm25 b' k') (.bm25 b k)

/-- The modifiers are of one kind, and the first has set alike what the second has set. -/
inductive Modifier.Completes : Modifier R → Modifier R → Prop where
  | scorer {model' model stats' stats} :
    model'.Completes model →
    Kept stats stats' →
    Completes (.scorer model' stats') (.scorer model stats)
  | refl {m} :
    Completes m m

/-- The queries have one shape, and the first has set alike whatever the second has set. -/
inductive Query.Completes : Query R → Query R → Prop where
  | leaf {l' l} :
    l'.Completes l →
    Completes (.leaf l') (.leaf l)
  | modify {m' m c' c} :
    m'.Completes m →
    Completes c' c →
    Completes (.modify m' c') (.modify m c)
  | join {op cs' cs} :
    List.Forall₂ Completes cs' cs →
    Completes (.join op cs') (.join op cs)
  | require {c' c v' v} :
    Completes c' c →
    Completes v' v →
    Completes (.require c' v') (.require c v)

lemma Model.Completes.refl (m : Model R) : m.Completes m := by
  cases m with
  | dirichlet => exact .dirichlet (.refl _)
  | absoluteDiscounting => exact .absoluteDiscounting (.refl _)
  | bm25 => exact .bm25 (.refl _) (.refl _)

/-! ## Leaves -/

/-- The leaf names its field and, if it is a whitelist, its documents. -/
def Leaf.IsClosed (l : Leaf R) : Prop := l.IsNamed ∧ ∀ w, l = .whitelist w → w.ids.isSome

/-- The leaf has statistics, if it is of a kind that has use for them. -/
def Leaf.IsKnown : Leaf R → Prop
  | .term t => t.stats.isSome
  | .lengths l | .constCount _ l => l.stats.isSome
  | _ => True

/-- Binding closes a leaf, and keeps what is set in it. -/
lemma Environment.fillLeaf_completes {e : Environment R} {c : Collection} {l l' : Leaf R}
    (filled : e.fillLeaf c l = .ok l') : l'.IsClosed ∧ l'.Completes l := by
  refine ⟨⟨(fillLeaf_named filled).1, (fillLeaf_spec filled).2.1⟩, ?_⟩
  cases l with
  | term t =>
    cases filled
    exact .term rfl rfl (.getD _ _) (.or _ _) (.refl _)
  | lengths k =>
    cases filled
    exact .lengths ⟨.getD _ _, .refl _⟩
  | constCount n k =>
    cases filled
    exact .constCount ⟨.getD _ _, .refl _⟩
  | whitelist w =>
    obtain ⟨w', filled', filled⟩ := bind_eq_ok filled
    cases filled
    rw [fillWhitelist] at filled'
    split at filled'
    · cases filled'
      exact .refl
    · next lacks _ =>
      cases filled'
      exact .whitelist (.refl _) (.of_none lacks)
    · cases filled'
  | raw text =>
    change (if _ then _ else _) = _ at filled
    split at filled
    · cases filled
    · cases filled
      exact .refl
  | _ =>
    cases filled
    exact .refl

/-- Attaching gives statistics to a leaf that has use for them, and keeps what is set in it. -/
lemma Collection.attachLeaf_completes {c : Collection} {l l' : Leaf R}
    (attached : c.attachLeaf l = .ok l') : l'.IsKnown ∧ l'.Completes l := by
  have lengths {k k' : Lengths} (attached : c.attachLengths k = .ok k') :
      k'.stats.isSome ∧ k'.Completes k := by
    obtain ⟨field, s, named, kept, rfl⟩ := attachLengths_eq_ok attached
    exact ⟨rfl, named ▸ .refl _, kept⟩
  cases l with
  | term t =>
    obtain ⟨t', attached', attached⟩ := bind_eq_ok attached
    cases attached
    obtain ⟨s, kept, rfl⟩ := attachTerm_eq_ok attached'
    exact ⟨rfl, .term rfl rfl (.refl _) (.refl _) kept⟩
  | lengths k =>
    obtain ⟨k', attached', attached⟩ := bind_eq_ok attached
    cases attached
    exact (lengths attached').imp_right .lengths
  | constCount n k =>
    obtain ⟨k', attached', attached⟩ := bind_eq_ok attached
    cases attached
    exact (lengths attached').imp_right .constCount
  | _ =>
    cases attached
    exact ⟨trivial, .refl⟩

namespace Query

/-! ## Queries -/

section Rebuild

variable {ε : Type} {onLeaf : Leaf R → Except ε (Leaf R)}
  {onModifier : Modifier R → Query R → Except ε (Modifier R)}

mutual

/-- A query is completed by rebuilding it if its leaves and modifiers are. -/
theorem completes_rebuild (leaf : ∀ l l', onLeaf l = .ok l' → l'.Completes l)
    (modifier : ∀ m c m', onModifier m c = .ok m' → m'.Completes m) {q' : Query R} :
    (q : Query R) → q.rebuild onLeaf onModifier = .ok q' → q'.Completes q
  | .leaf l, built => by
    obtain ⟨l', changed, built⟩ := bind_eq_ok built
    cases built
    exact .leaf (leaf l l' changed)
  | .modify m c, built => by
    obtain ⟨c', inner, built⟩ := bind_eq_ok built
    obtain ⟨m', changed, built⟩ := bind_eq_ok built
    cases built
    exact .modify (modifier m c' m' changed) (completes_rebuild leaf modifier c inner)
  | .join op cs, built => by
    obtain ⟨cs', inner, built⟩ := bind_eq_ok built
    cases built
    exact .join (completes_rebuildAll leaf modifier cs inner)
  | .require c v, built => by
    obtain ⟨c', cond, built⟩ := bind_eq_ok built
    obtain ⟨v', value, built⟩ := bind_eq_ok built
    cases built
    exact .require (completes_rebuild leaf modifier c cond) (completes_rebuild leaf modifier v value)

theorem completes_rebuildAll (leaf : ∀ l l', onLeaf l = .ok l' → l'.Completes l)
    (modifier : ∀ m c m', onModifier m c = .ok m' → m'.Completes m) {cs' : List (Query R)} :
    (cs : List (Query R)) → rebuildAll onLeaf onModifier cs = .ok cs' →
      List.Forall₂ Completes cs' cs
  | [], built => by
    cases built
    exact .nil
  | c :: cs, built => by
    obtain ⟨c', first, built⟩ := bind_eq_ok built
    obtain ⟨cs', rest, built⟩ := bind_eq_ok built
    cases built
    exact .cons (completes_rebuild leaf modifier c first) (completes_rebuildAll leaf modifier cs rest)

end

end Rebuild

lemma fillModifier_completes (e : Environment R) (m : Modifier R) :
    (e.fillModifier m).Completes m := by
  cases m with
  | scorer model stats =>
    refine .scorer ?_ (.refl stats)
    cases model with
    | dirichlet => exact .dirichlet (.getD _ _)
    | absoluteDiscounting => exact .absoluteDiscounting (.getD _ _)
    | bm25 => exact .bm25 (.getD _ _) (.getD _ _)
  | _ => exact .refl

lemma attach_completes (m : Modifier R) (c : Query R) : (m.attach c).Completes m := by
  cases m with
  | scorer model stats => exact .scorer (.refl model) (.or stats _)
  | _ => exact .refl

/-- If the first node is a scorer over a term, the second is that scorer with statistics: those that
it had, or else those that its term has been given. -/
def IsSupplied (n n' : Query R) : Prop :=
  ∀ model stats t, n = .modify (.scorer model stats) (.leaf (.term t)) → ∃ t' s, t'.stats = some s ∧
    n' = .modify (.scorer model (some (stats.getD s))) (.leaf (.term t'))

section Binding

variable {e : Environment R} {c : Collection} {q bound known : Query R}

/-- Attaching gives statistics to every scorer over a term. -/
lemma supplied_of_attach (attached : q.attachStatistics c = .ok known) :
    List.Forall₂ IsSupplied q.nodes known.nodes := by
  refine (nodes_rebuild q attached).imp ?_
  rintro _ n' built model stats t rfl
  obtain ⟨d', inner, built⟩ := bind_eq_ok built
  obtain ⟨m', changed, built⟩ := bind_eq_ok built
  cases built
  cases changed
  obtain ⟨l', attached, inner⟩ := bind_eq_ok inner
  cases inner
  obtain ⟨t', attached', attached⟩ := bind_eq_ok attached
  cases attached
  obtain ⟨s, _, rfl⟩ := Collection.attachTerm_eq_ok attached'
  refine ⟨{ t with stats := some s }, s, rfl, ?_⟩
  cases stats <;> rfl

/-- Binding closes a query. In the bound query every leaf names its field, every whitelist its
documents, and every scorer has its parameters. If it can be given statistics, then all leaves that
have use for them have some, and so has every scorer over a term: its own, or else those of the term.
Both steps complete a query, and neither of them changes anything where it has been taken before. -/
theorem bind_closed (filled : q.bind e c = .ok bound) :
    (bound.OnlyLeaves Leaf.IsClosed ∧ ∀ p ∈ bound.nodes, p.IsSet) ∧
    bound.Completes q ∧ bound.bind e c = .ok bound ∧
    ∀ known, bound.attachStatistics c = .ok known →
      known.OnlyLeaves Leaf.IsKnown ∧
      List.Forall₂ IsSupplied bound.nodes known.nodes ∧
      known.Completes bound ∧ known.bind e c = .ok known ∧
      known.attachStatistics c = .ok known := by
  refine ⟨⟨?closed, isSet_of_bind filled⟩, ?completes, bind_bind filled, fun known attached => ?_⟩
  case closed =>
    exact OnlyLeaves.rebuild (P := fun _ => True)
      (fun _ _ _ filled => (Environment.fillLeaf_completes filled).1) (fun _ _ => trivial) filled
  case completes =>
    refine completes_rebuild (fun l l' filled => (Environment.fillLeaf_completes filled).2) ?_ q filled
    rintro m _ _ ⟨rfl⟩
    exact fillModifier_completes e m
  refine ⟨?known, supplied_of_attach attached, ?attached, bind_attach_attach filled attached⟩
  case known =>
    exact OnlyLeaves.rebuild (P := fun _ => True)
      (fun _ _ _ attached => (Collection.attachLeaf_completes attached).1) (fun _ _ => trivial) attached
  case attached =>
    refine completes_rebuild (fun l l' attached => (Collection.attachLeaf_completes attached).2) ?_
      bound attached
    rintro m d _ ⟨rfl⟩
    exact attach_completes m d

end Binding

/-- A condition by name, and scorers over a term, with and without statistics of their own, and over a
maximum of a term in a field and of lengths. -/
theorem bind_closed_nested :
    let c := Collection.ofDocuments (some 1) [⟨"d0", [("body", "a b")]⟩, ⟨"d1", [("body", "b")]⟩]
    let q : Query Float := .require (named ["d1", "d2"]) (.join .mult [dirichlet (term "a"),
      .modify (.scorer (.bm25 (some 0.5) none) (some ⟨"a", 1, 1, 9, 3⟩)) (term "a"),
      bm25 (.join .max [term "b" (some "body"), .leaf (.lengths {})])])
    ∃ bound known, q.bind .usual c = .ok bound ∧ bound.attachStatistics c = .ok known ∧
      (bound.OnlyLeaves Leaf.IsClosed ∧ bound.Completes q ∧ bound.bind .usual c = .ok bound) ∧
      known.OnlyLeaves Leaf.IsKnown ∧ known.Completes bound ∧ known.bind .usual c = .ok known ∧
      known.attachStatistics c = .ok known := by
  intro c q
  obtain ⟨bound, filled⟩ : ∃ bound, q.bind .usual c = .ok bound := ⟨_, rfl⟩
  have attaches : (q.bind .usual c >>= attachStatistics c).isOk := by decide +kernel
  rw [filled] at attaches
  obtain ⟨known, attached⟩ := exists_of_isOk attaches
  obtain ⟨⟨closed, _⟩, completes, again, given⟩ := bind_closed filled
  obtain ⟨known_, _, completes', again', again''⟩ := given known attached
  exact ⟨bound, known, filled, attached, ⟨closed, completes, again⟩, known_, completes', again',
    again''⟩

end Query

end Retrieval
