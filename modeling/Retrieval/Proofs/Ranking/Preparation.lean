import Retrieval.Ranking.Searcher
import Retrieval.Proofs.Query.Binding

/-!
# Prepared queries

Preparation fills in defaults and statistics, simplifies, types and measures. Nothing in it makes a
query ask more of one in the words of the index, and measuring statistics keeps a query typed, so
what is prepared for a need is typed for it (`Searcher.scoring_typed`). Each step adds to what its
nodes have, so that those of a runnable query lack nothing in the end (`Searcher.scoring_ready`).
-/

namespace Retrieval

variable {R : Type}

namespace Query

variable {written : String → Prop}

/-! ## What is carried through binding and attaching -/

/-- Binding leaves runnable nodes with all but statistics. -/
lemma bind_carries {e : Environment R} {c : Collection} : Carries
    (fun n q => q.IsRunnable e.defaultField n ∧ ∀ text, q = .leaf (.raw text) → written text)
    (IsBound written) (e.fillLeaf c) fun m _ => .ok (e.fillModifier m) where
  leaf := by
    rintro n l l' ⟨runnable, known⟩ filled
    obtain ⟨terms, lists, raws⟩ := Environment.fillLeaf_spec filled
    refine isBound_leaf (fun t' e' => ?_) lists fun text e' => ?_
    · obtain ⟨_, _, named, _⟩ := terms t' e'
      rw [named]
      rfl
    · cases raws text e'
      exact ⟨known text rfl, runnable⟩
  modify := by
    rintro n m q m' q' ⟨runnable, _⟩ built inner filled
    cases filled
    cases m with
    | scorer model stats =>
      refine ⟨⟨isSet_fillModel e model, fun given => ?_⟩, inner⟩
      obtain ⟨s, rfl⟩ := Option.isSome_iff_exists.mp given
      obtain ⟨field, one⟩ := runnable
      have only := forall_terms_iff.mp one
      refine oneField_iff.mpr ⟨field, only.rebuild (fun l l' one filled t' e' => ?_) built⟩
      obtain ⟨t, same, named, _⟩ := (Environment.fillLeaf_spec filled).1 t' e'
      rw [named, one t same]
    | _ => exact ⟨trivial, inner⟩
  join := by
    rintro n op cs cs' ⟨runnable, _⟩ same
    cases op with
    | multi names => exact ⟨runnable.1.trans same.symm, runnable.2⟩
    | _ => trivial
  require := fun _ => trivial

/-- Neither binding nor attaching statistics changes what is needed of terms. -/
lemma known_low {e : Environment R} {c : Collection} {q bound known : Query R}
    (low : ∀ t ∈ q.terms, t.needed ≠ .scores) (filled : q.bind e c = .ok bound)
    (attached : bound.attachStatistics c = .ok known) :
    known.OnlyLeaves fun l => ∀ t, l = .term t → t.needed ≠ .scores := by
  have bound_low : bound.OnlyLeaves fun l => ∀ t, l = .term t → t.needed ≠ .scores := by
    refine (forall_terms_iff.mp low).rebuild (fun l l' low filled t' e' => ?_) filled
    obtain ⟨t, same, _, needed⟩ := (Environment.fillLeaf_spec filled).1 t' e'
    exact needed ▸ low t same
  refine bound_low.rebuild (fun l l' low attached t' e' => ?_) attached
  obtain ⟨t, same, _, needed⟩ := (Collection.attachLeaf_spec attached).1 t' e'
  exact needed ▸ low t same

/-- A query that has the statistics of a term is a term. -/
lemma oneField_of_termStatistics {q : Query R} {need : Need} {s : Statistics}
    (known : q.termStatistics? = some s) (bound : q.IsBound written need) : q.OneField := by
  unfold termStatistics? at known
  split at known
  · next t =>
    obtain ⟨field, named⟩ := Option.isSome_iff_exists.mp (show t.field.isSome from bound)
    refine ⟨field, fun t' mem => ?_⟩
    cases List.mem_singleton.mp mem
    exact named
  · cases known

/-- Statistics may be attached to bound nodes. -/
lemma attachStatistics_carries {c : Collection} : Carries (IsBound (R := R) written)
    (IsBound written) c.attachLeaf fun m q => .ok (m.attach q) where
  leaf := by
    intro n l l' bound attached
    obtain ⟨terms, lists, raws⟩ := Collection.attachLeaf_spec attached
    refine isBound_leaf (fun t' e' => ?_) (fun w e' => ?_) fun text e' => ?_
    · obtain ⟨t, rfl, same, _⟩ := terms t' e'
      rw [same]
      exact bound
    · cases lists w e'
      exact bound
    · cases raws text e'
      exact bound
  modify := by
    intro n m q m' q' bound built inner attached
    cases attached
    cases m with
    | scorer model stats =>
      obtain ⟨set, one⟩ := bound
      refine ⟨⟨set, fun given => ?_⟩, inner⟩
      cases stats with
      | some s =>
        obtain ⟨field, only⟩ := oneField_iff.mp (one rfl)
        refine oneField_iff.mpr ⟨field, only.rebuild (fun l l' one attached t' e' => ?_) built⟩
        obtain ⟨t, e, same, _⟩ := (Collection.attachLeaf_spec attached).1 t' e'
        rw [same, one t e]
      | none =>
        obtain ⟨s, known⟩ := Option.isSome_iff_exists.mp given
        exact oneField_of_termStatistics known inner.here
    | _ => exact ⟨trivial, inner⟩
  join := by
    intro n op cs cs' bound same
    cases op with
    | multi names => exact ⟨bound.1.trans same.symm, bound.2⟩
    | _ => trivial
  require := fun _ => trivial

/-! ## Rebuilding modifiers -/

/-- A query stays typed if its modifiers are rebuilt to such that ask and give the same. -/
lemma Typed.rebuild {onModifier : Modifier R → Query R → Except Fault (Modifier R)}
    (keeps : ∀ m c m', onModifier m c = .ok m' → ∀ need, m'.childNeed need = m.childNeed need ∧
      ∀ c', Admits need (.modify m c') → Admits need (.modify m' c'))
    {need : Need} {q q' : Query R} (typed : Typed need q)
    (built : Query.rebuild .ok onModifier q = .ok q') : Typed need q' := by
  induction typed generalizing q' with
  | leaf admits marked docs =>
    cases built
    exact .leaf admits marked docs
  | @modify need m c admits _ ih =>
    obtain ⟨c', first, built⟩ := bind_eq_ok built
    obtain ⟨m', changed, built⟩ := bind_eq_ok built
    cases built
    obtain ⟨same, gives⟩ := keeps m c' m' changed need
    exact .modify (gives c' admits.modify) (same ▸ ih first)
  | join admits two _ ih =>
    obtain ⟨cs', rfl, each⟩ := rebuild_join_eq_ok built
    refine .join admits.join (fun wants => each.length_eq ▸ two wants) fun c' mem => ?_
    obtain ⟨c, within, inner⟩ := (exists_mem_of_forall₂ each).2 c' mem
    exact ih c within inner
  | require admits _ _ ihc ihv =>
    obtain ⟨c', cond, built⟩ := bind_eq_ok built
    obtain ⟨v', value, built⟩ := bind_eq_ok built
    cases built
    exact .require ⟨admits.1, admits.2, admits.3⟩ (ihc cond) (ihv value)

end Query

/-! ## Preparation -/

namespace Searcher

variable [Scalar R] {e : Searcher R} {need : Need} {q : Query R} {p : Prepared R}

/-- A scorer without statistics is given those that are measured of its child; any other modifier
stays as it is. -/
lemma measureModifier_cases {m m' : Modifier R} {c : Query R}
    (changed : e.measureModifier m c = .ok m') :
    (∃ model stats, m = .scorer model none ∧ e.measured c = .ok stats ∧
        m' = .scorer model (some stats)) ∨
      (∀ model, m ≠ .scorer model none) ∧ m' = m := by
  unfold measureModifier at changed
  split at changed
  · next model =>
    obtain ⟨stats, measured, changed⟩ := bind_eq_ok changed
    cases changed
    exact .inl ⟨model, stats, rfl, measured, rfl⟩
  · next other =>
    cases changed
    exact .inr ⟨fun model e => other model e, rfl⟩

/-- Measuring statistics keeps a query typed. -/
lemma measure_typed {q' : Query R} (typed : q.Typed need) (measured : e.measure q = .ok q') :
    q'.Typed need := by
  refine Query.Typed.rebuild (fun m c m' changed n => ?_) typed measured
  obtain ⟨model, stats, rfl, _, rfl⟩ | ⟨_, rfl⟩ := measureModifier_cases changed
  · exact ⟨rfl, fun c' admits => ⟨admits.1, admits.2, admits.3⟩⟩
  · exact ⟨rfl, fun c' => id⟩

/-- Where counted queries are measured alike, so are the scorers of a typed query. -/
lemma measure_congr {e' : Searcher R}
    (alike : ∀ c : Query R, c.Typed .counts → e.measured c = e'.measured c) (typed : q.Typed need) :
    e.measure q = e'.measure q := by
  unfold measure
  induction typed with
  | leaf => rfl
  | @modify need m c _ inner ih =>
    rw [Query.rebuild, Query.rebuild, ← ih]
    cases built : c.rebuild .ok e.measureModifier with
    | error fault => rfl
    | ok c' =>
      have modified : e.measureModifier m c' = e'.measureModifier m c' := by
        unfold measureModifier
        split
        · rw [alike c' (measure_typed inner built)]
        · rfl
      change (e.measureModifier m c' >>= _) = (e'.measureModifier m c' >>= _)
      rw [modified]
  | join _ _ _ ih =>
    rw [Query.rebuild, Query.rebuild, Query.rebuildAll_eq_mapM, Query.rebuildAll_eq_mapM,
      mapM_congr ih]
  | require _ _ _ ihc ihv => rw [Query.rebuild, Query.rebuild, ihc, ihv]

/-- Measured nodes lack nothing. -/
lemma measure_carries {written : String → Prop} : Query.Carries
    (fun n c => (c.IsBound written n ∧ c.IsEven) ∧
      ∀ t, c = .leaf (.term t) → t.needed ≠ .scores)
    (fun _ => Query.IsReady written) .ok e.measureModifier where
  leaf := by
    rintro n l _ ⟨⟨bound, _⟩, low⟩ ⟨rfl⟩
    cases l with
    | term t => exact ⟨bound, low t rfl⟩
    | raw text => exact bound.1
    | _ => exact bound
  modify := by
    rintro n m c m' c' ⟨⟨bound, _⟩, _⟩ built inner changed
    cases m with
    | scorer model stats =>
      obtain ⟨set, one⟩ := bound
      cases stats with
      | none =>
        obtain ⟨stats, measured, changed⟩ := bind_eq_ok changed
        cases changed
        obtain ⟨field, counted, _⟩ := bind_eq_ok measured
        exact ⟨⟨set, rfl, field, (Query.onlyCountedField_eq_ok.mp counted).1⟩, inner⟩
      | some stats =>
        cases changed
        obtain ⟨field, only⟩ := Query.oneField_iff.mp (one rfl)
        refine ⟨⟨set, rfl, Query.oneField_iff.mpr ⟨field, only.rebuild ?_ built⟩⟩, inner⟩
        rintro l _ one ⟨rfl⟩
        exact one
    | _ =>
      cases changed
      exact ⟨trivial, inner⟩
  join := by
    rintro n op cs cs' ⟨⟨bound, even⟩, _⟩ same
    cases op with
    | combine ws => exact same.trans (even ws cs rfl)
    | multi names => exact ⟨bound.1.trans same.symm, bound.2⟩
    | _ => trivial
  require := fun _ => trivial

/-- What scores a query whose root is asked for `root`: the preparation without its last step. -/
def scoringFor (e : Searcher R) (root : Need) (q : Query R) : Except Fault (Query R) := do
  let bound ← q.bind e.env e.collection
  let known ← bound.attachStatistics e.collection
  let simple ← known.simplify e.env.maxPasses
  let typed ← simple.infer root
  e.measure typed

/-- The last step of a preparation finds what the candidates are. -/
lemma prepareFor_eq (e : Searcher R) (need : Need) (q : Query R) :
    e.prepareFor need q = e.scoringFor need q >>= fun scoring => do
      let candidates ←
        if e.env.simplifyCandidates then scoring.simpleCandidates e.env.maxPasses
        else .ok scoring.candidates
      return { scoring, candidates } := by
  simp only [prepareFor, scoringFor, bind_assoc]

/-- The steps to a scoring query. -/
lemma scoringFor_steps {scoring : Query R} (scored : e.scoringFor need q = .ok scoring) :
    ∃ bound known simple typed, q.bind e.env e.collection = .ok bound ∧
      bound.attachStatistics e.collection = .ok known ∧
      known.simplify e.env.maxPasses = .ok simple ∧ simple.infer need = .ok typed ∧
      e.measure typed = .ok scoring := by
  obtain ⟨bound, h, scored⟩ := bind_eq_ok scored
  obtain ⟨known, h', scored⟩ := bind_eq_ok scored
  obtain ⟨simple, h'', scored⟩ := bind_eq_ok scored
  obtain ⟨typed, inferred, measured⟩ := bind_eq_ok scored
  exact ⟨bound, known, simple, typed, h, h', h'', inferred, measured⟩

/-- The candidates are those of the scoring query, as they are or simplified. -/
def Made (env : Environment R) (p : Prepared R) : Prop :=
  p.candidates = p.scoring.candidates ∨
    p.scoring.candidates.simplify env.maxPasses = .ok p.candidates

/-- The steps of a preparation that succeeds. -/
lemma prepareFor_steps (prepared : e.prepareFor need q = .ok p) :
    ∃ bound known simple typed, q.bind e.env e.collection = .ok bound ∧
      bound.attachStatistics e.collection = .ok known ∧
      known.simplify e.env.maxPasses = .ok simple ∧ simple.infer need = .ok typed ∧
      e.measure typed = .ok p.scoring ∧ Made e.env p := by
  rw [prepareFor_eq] at prepared
  obtain ⟨scoring, scored, prepared⟩ := bind_eq_ok prepared
  obtain ⟨bound, known, simple, typed, h, h', h'', inferred, measured⟩ := scoringFor_steps scored
  refine ⟨bound, known, simple, typed, h, h', h'', inferred, ?_⟩
  dsimp only at prepared
  split at prepared
  · obtain ⟨candidates, made, prepared⟩ := bind_eq_ok prepared
    cases prepared
    exact ⟨measured, .inr made⟩
  · cases prepared
    exact ⟨measured, .inl rfl⟩

lemma candidates_made (prepared : e.prepareFor need q = .ok p) : Made e.env p := by
  obtain ⟨_, _, _, _, _, _, _, _, _, made⟩ := prepareFor_steps prepared
  exact made

/-- A search for a query looks for the best documents for what it is prepared to. -/
lemma search_eq_best (prepared : e.prepare q = .ok p) (k : Nat) : e.search q k = e.best p k := by
  rw [search, prepared]
  rfl

/-- Neither binding nor attaching statistics nor simplifying puts a leaf in the words of the index.
-/
lemma noRaw_of_simple {bound known simple : Query R} (noRaw : q.NoRaw)
    (filled : q.bind e.env e.collection = .ok bound)
    (attached : bound.attachStatistics e.collection = .ok known)
    (simplified : known.simplify e.env.maxPasses = .ok simple) : simple.NoRaw := by
  have bound_ := (Query.noRaw_iff.mp noRaw).rebuild
    (fun _ _ not filled text e => not text ((Environment.fillLeaf_spec filled).2.2 text e)) filled
  have known_ := bound_.rebuild (fun _ _ not attached text e =>
    not text ((Collection.attachLeaf_spec attached).2.2 text e)) attached
  exact (Query.noRaw_iff.mpr known_).simplify simplified

/-- The scoring query of a prepared query is typed. -/
theorem scoring_typed (noRaw : q.NoRaw) (prepared : e.prepareFor need q = .ok p) :
    p.scoring.Typed need := by
  obtain ⟨bound, known, simple, typed, h, h', h'', inferred, measured, _⟩ :=
    prepareFor_steps prepared
  exact measure_typed (Query.infer_typed (noRaw_of_simple noRaw h h' h'') inferred) measured

/-- The scoring query of a runnable query that is prepared is typed, and its nodes lack nothing. -/
theorem scoring_ready (runnable : q.Runnable e.env.defaultField need)
    (low : ∀ t ∈ q.terms, t.needed ≠ .scores) (prepared : e.prepareFor need q = .ok p) :
    p.scoring.Typed need ∧
      Query.Everywhere (fun _ => Query.IsReady fun text => .leaf (.raw text) ∈ q.nodes) need
        p.scoring := by
  obtain ⟨bound, known, simple, typed, h, h', h'', inferred, measured, _⟩ :=
    prepareFor_steps prepared
  have simple_low := Query.forall_terms_iff.mpr
    ((Query.known_low low h h').simplify nofun nofun h'')
  have named : Query.Everywhere
      (fun _ c => ∀ text, c = .leaf (.raw text) → .leaf (.raw text) ∈ q.nodes) need q :=
    Query.everywhere_of_nodes q fun c mem text same => same ▸ mem
  have known_ := ((runnable.and named).rebuild Query.bind_carries h).rebuild
    Query.attachStatistics_carries h'
  have simple_ := Query.IsBound.simplify known_ h''
  have typed_ := Query.IsBound.infer simple_ inferred
  have raw := Query.IsBound.rawForDocs (simple_.mono fun _ _ => And.left)
  refine ⟨measure_typed (Query.typed_of_infer raw inferred) measured, ?_⟩
  have terms : Query.Everywhere
      (fun _ c => ∀ t, c = .leaf (.term t) → t.needed ≠ .scores) need typed :=
    Query.everywhere_of_nodes typed fun c mem t same =>
      Query.infer_ne_scores simple_low inferred t ((Query.mem_terms typed).mpr (same ▸ mem))
  exact (typed_.and terms).rebuild measure_carries measured

end Searcher

end Retrieval
