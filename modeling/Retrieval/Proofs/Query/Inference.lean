import Retrieval.Proofs.Query.Everywhere

/-!
# What inference accepts

Inference accepts a query for a need if every node can give what is asked of it and has enough
children (`Query.exists_infer_iff`). What it accepts it makes typed, unless more than documents is
asked of a query in the words of the index (`Query.typed_of_infer`); otherwise it changes nothing
but what is needed of the terms (`Query.infer_unmarked`). Rewriting rules keep all of this, so that
a simplified query is accepted where the query was (`Query.exists_infer_of_simplify`).
-/

namespace Retrieval

namespace Query

variable {R : Type}

/-- A node can give what is asked of it, and has as many children as it wants. -/
structure Fit (need : Need) (q : Query R) : Prop where
  admits : Admits need q
  enough : ∀ op cs, q = .join op cs → op.wantsTwo.isSome → 2 ≤ cs.length

variable [Scalar R]

/-! ## Marking -/

lemma checkNeed_of_admits {need : Need} {q : Query R} (admits : Admits need q) :
    q.checkNeed need = .ok () := by
  have scores : ¬((need = .counts ∨ need = .positions) ∧ q.onlyScores = true) :=
    fun ⟨asked, only⟩ => by simp [admits.counted asked] at only
  have positions : ¬(need = .positions ∧ (!q.tellsPositions) = true) :=
    fun ⟨asked, not⟩ => by simp [admits.placed asked] at not
  have counts : ¬(need = .scores ∧ q.onlyCounts = true) :=
    fun ⟨asked, only⟩ => by simp [admits.scored asked] at only
  rw [checkNeed, if_neg scores, if_neg positions, if_neg counts]

lemma checkArity_of_enough {op : Operator R} {cs : List (Query R)}
    (enough : op.wantsTwo.isSome → 2 ≤ cs.length) : checkArity op cs = .ok () := by
  rw [checkArity]
  split
  · next what wants =>
    have two := enough (by rw [wants]; rfl)
    rw [if_neg (by omega)]
  · rfl

mutual

/-- A query that can be marked is fit at every node. -/
theorem everywhere_fit_of_mark {need : Need} {q' : Query R} :
    (q : Query R) → q.mark need = .ok q' → Everywhere Fit need q
  | .leaf l, h => by
    obtain ⟨_, checked, _⟩ := bind_eq_ok h
    exact .leaf ⟨admits_of_checkNeed checked, nofun⟩
  | .modify m c, h => by
    obtain ⟨_, checked, h⟩ := bind_eq_ok h
    obtain ⟨c', marked, _⟩ := bind_eq_ok h
    exact .modify ⟨admits_of_checkNeed checked, nofun⟩ (everywhere_fit_of_mark c marked)
  | .join op cs, h => by
    obtain ⟨_, checked, h⟩ := bind_eq_ok h
    obtain ⟨_, arity, h⟩ := bind_eq_ok h
    obtain ⟨cs', marked, _⟩ := bind_eq_ok h
    refine .join ⟨admits_of_checkNeed checked, ?_⟩ (everywhere_fit_of_markAll cs marked)
    rintro _ _ ⟨rfl, rfl⟩
    exact two_le_of_checkArity arity
  | .require c v, h => by
    obtain ⟨_, checked, h⟩ := bind_eq_ok h
    obtain ⟨c', cond, h⟩ := bind_eq_ok h
    obtain ⟨v', value, _⟩ := bind_eq_ok h
    exact .require ⟨admits_of_checkNeed checked, nofun⟩ (everywhere_fit_of_mark c cond)
      (everywhere_fit_of_mark v value)

theorem everywhere_fit_of_markAll {need : Need} {cs' : List (Query R)} :
    (cs : List (Query R)) → markAll need cs = .ok cs' → ∀ c ∈ cs, Everywhere Fit need c
  | [], _ => List.forall_mem_nil _
  | c :: cs, h => by
    obtain ⟨c', first, h⟩ := bind_eq_ok h
    obtain ⟨cs', rest, _⟩ := bind_eq_ok h
    exact List.forall_mem_cons.mpr
      ⟨everywhere_fit_of_mark c first, everywhere_fit_of_markAll cs rest⟩

end

/-- A query that is fit at every node can be marked. -/
theorem Everywhere.exists_mark {need : Need} {q : Query R} (fit : Everywhere Fit need q) :
    ∃ q', q.mark need = .ok q' := by
  induction fit with
  | @leaf need l fit =>
    unfold mark
    rw [checkNeed_of_admits fit.admits]
    cases l <;> exact ⟨_, rfl⟩
  | modify fit _ ih =>
    obtain ⟨c', marked⟩ := ih
    rw [mark, checkNeed_of_admits fit.admits, marked]
    exact ⟨_, rfl⟩
  | @join need op cs fit _ ih =>
    obtain ⟨cs', marked⟩ := exists_mapM_eq_ok ih
    rw [mark, checkNeed_of_admits fit.admits, checkArity_of_enough (fit.enough op cs rfl),
      markAll_eq_mapM, marked]
    exact ⟨_, rfl⟩
  | require fit _ _ ihc ihv =>
    obtain ⟨c', cond⟩ := ihc
    obtain ⟨v', value⟩ := ihv
    rw [mark, checkNeed_of_admits fit.admits, cond, value]
    exact ⟨_, rfl⟩

/-- Inference accepts the queries that are fit at every node. -/
theorem exists_infer_iff {need : Need} {q : Query R} :
    (∃ q', q.infer need = .ok q') ↔ Everywhere Fit need q := by
  constructor
  · rintro ⟨q', inferred⟩
    obtain ⟨marked, h, _⟩ := bind_eq_ok inferred
    exact everywhere_fit_of_mark q h
  · intro fit
    obtain ⟨marked, h⟩ := fit.exists_mark
    rw [infer, h]
    exact ⟨_, rfl⟩

/-- Rewriting rules leave nodes fit. -/
lemma fit_lasting : Lasting (Fit : Need → Query R → Prop) where
  weight := fun fit => ⟨⟨fit.admits.1, fit.admits.2, fit.admits.3⟩, nofun⟩
  spread := fun fit _ _ => ⟨⟨fit.admits.1, fit.admits.2, fit.admits.3⟩, by rintro _ _ ⟨⟩ ⟨⟩⟩
  combine := fun fit _ => ⟨⟨fit.admits.1, fit.admits.2, fit.admits.3⟩, by rintro _ _ ⟨⟩ ⟨⟩⟩
  decided := fun {_ _ j} fit => by
    obtain ⟨counted, placed, scored⟩ := fit.admits
    cases j <;> exact ⟨⟨⟨counted, placed, scored⟩, nofun⟩, ⟨counted, placed, scored⟩, nofun⟩
  junction := fun {_ _ _ j} fit _ => ⟨fit.admits.join, by cases j <;> rintro _ _ ⟨⟩ ⟨⟩⟩
  modify := fun fit => ⟨⟨fit.admits.modify, nofun⟩, fit.admits.modify, nofun⟩
  join := fun {_ op cs _} fit same => ⟨fit.admits.join, by
    rintro _ _ ⟨rfl, rfl⟩ wants
    exact same ▸ fit.enough op cs rfl wants⟩
  require := fun fit => ⟨⟨fit.admits.1, fit.admits.2, fit.admits.3⟩, nofun⟩

/-! ## What inference accepts it makes typed -/

omit [Scalar R] in
/-- Nothing but documents is asked of queries in the words of the index. -/
def RawForDocs : Need → Query R → Prop :=
  Everywhere fun need c => ∀ text, c = .leaf (.raw text) → need = .docs

omit [Scalar R] in
lemma NoRaw.rawForDocs {need : Need} {q : Query R} (noRaw : NoRaw q) : q.RawForDocs need := by
  have each : Everywhere (fun _ c => ∀ text, c ≠ .leaf (.raw text)) need q :=
    everywhere_of_nodes q fun c mem text e => noRaw text (e ▸ mem)
  exact each.mono fun n c other text e => absurd e (other text)

omit [Scalar R] in
/-- A node has no part in the words of the index if its children have none. -/
lemma noRaw_join {op : Operator R} {cs : List (Query R)} (each : ∀ c ∈ cs, c.NoRaw) :
    NoRaw (.join op cs) := by
  intro text mem
  cases mem with
  | tail _ mem =>
    obtain ⟨c, within, mem⟩ := mem_nodesAll.mp mem
    exact each c within text mem

/-- A fit query is typed once it is marked. -/
theorem Everywhere.mark_typed {need : Need} {q q' : Query R} (fit : Everywhere Fit need q)
    (raw : q.RawForDocs need) (marked : q.mark need = .ok q') : Typed need q' := by
  have both := fit.and raw
  clear fit raw
  induction both generalizing q' with
  | @leaf need l holds =>
    obtain ⟨⟨admits, _⟩, docs⟩ := holds
    obtain ⟨_, _, marked⟩ := bind_eq_ok marked
    cases l with
    | term t =>
      cases marked
      refine .leaf ⟨admits.1, admits.2, admits.3⟩ ?_ nofun
      rintro _ ⟨rfl⟩
      exact Need.le_max_right t.needed need
    | raw text =>
      cases marked
      exact .leaf admits nofun fun _ _ => docs text rfl
    | _ =>
      cases marked
      exact .leaf admits nofun nofun
  | modify holds _ ih =>
    obtain ⟨_, _, marked⟩ := bind_eq_ok marked
    obtain ⟨c', inner, marked⟩ := bind_eq_ok marked
    cases marked
    exact .modify holds.1.admits.modify (ih inner)
  | @join need op cs holds _ ih =>
    obtain ⟨_, _, marked⟩ := bind_eq_ok marked
    obtain ⟨_, _, marked⟩ := bind_eq_ok marked
    obtain ⟨cs', inner, marked⟩ := bind_eq_ok marked
    cases marked
    rw [markAll_eq_mapM] at inner
    obtain ⟨length, _, each⟩ := mapM_eq_ok inner
    refine .join holds.1.admits.join (fun wants => ?_) fun c' mem => ?_
    · exact length ▸ holds.1.enough op cs rfl wants
    · obtain ⟨c, within, marked⟩ := each c' mem
      exact ih c within marked
  | require holds _ _ ihc ihv =>
    obtain ⟨_, _, marked⟩ := bind_eq_ok marked
    obtain ⟨c', cond, marked⟩ := bind_eq_ok marked
    obtain ⟨v', value, marked⟩ := bind_eq_ok marked
    cases marked
    obtain ⟨counted, placed, scored⟩ := holds.1.admits
    exact .require ⟨counted, placed, scored⟩ (ihc cond) (ihv value)

/-- The most that is needed of a term is at least what each occurrence needs. -/
lemma le_mostNeeded {terms : List Term} {t : Term} (mem : t ∈ terms) :
    t.needed ≤ mostNeeded terms t := by
  refine Need.le_foldl_max_of_mem (List.mem_map_of_mem ?_) .docs
  exact List.mem_filter.mpr ⟨mem, by simp⟩

/-- What inference accepts it makes typed, if queries in the words of the index are asked only for
documents. -/
theorem typed_of_infer {need : Need} {q q' : Query R} (raw : q.RawForDocs need)
    (inferred : q.infer need = .ok q') : Typed need q' := by
  obtain ⟨marked, h, inferred⟩ := bind_eq_ok inferred
  cases inferred
  have typed := (everywhere_fit_of_mark q h).mark_typed raw h
  exact typed.mapTerms fun t mem => le_mostNeeded mem

/-- What inference accepts it makes typed, if nothing is in the words of the index. -/
theorem infer_typed {need : Need} {q q' : Query R} (noRaw : NoRaw q)
    (inferred : q.infer need = .ok q') : Typed need q' :=
  typed_of_infer noRaw.rawForDocs inferred

/-! ## What terms are opened for -/

/-- No term is marked with scores, since none can give them. -/
theorem Everywhere.mark_ne_scores {need : Need} {q q' : Query R} (fit : Everywhere Fit need q)
    (low : ∀ t ∈ q.terms, t.needed ≠ .scores) (marked : q.mark need = .ok q') :
    ∀ t ∈ q'.terms, t.needed ≠ .scores := by
  induction fit generalizing q' with
  | @leaf need l fit =>
    obtain ⟨_, _, marked⟩ := bind_eq_ok marked
    cases l with
    | term t =>
      cases marked
      have other : need ≠ .scores := fun asked => nomatch fit.admits.scored asked
      exact List.forall_mem_singleton.mpr
        (Need.max_ne_scores (low t (List.mem_singleton_self t)) other)
    | _ =>
      cases marked
      exact List.forall_mem_nil _
  | modify _ _ ih =>
    obtain ⟨_, _, marked⟩ := bind_eq_ok marked
    obtain ⟨c', inner, marked⟩ := bind_eq_ok marked
    cases marked
    have below := ih low inner
    exact below
  | join _ _ ih =>
    obtain ⟨_, _, marked⟩ := bind_eq_ok marked
    obtain ⟨_, _, marked⟩ := bind_eq_ok marked
    obtain ⟨cs', inner, marked⟩ := bind_eq_ok marked
    cases marked
    rw [markAll_eq_mapM] at inner
    obtain ⟨_, _, each⟩ := mapM_eq_ok inner
    rw [terms, termsAll_eq_flatMap] at low ⊢
    intro t mem
    obtain ⟨c', within, mem⟩ := List.mem_flatMap.mp mem
    obtain ⟨c, within', marked⟩ := each c' within
    exact ih c within' (fun t mem => low t (List.mem_flatMap.mpr ⟨c, within', mem⟩)) marked t mem
  | require _ _ _ ihc ihv =>
    obtain ⟨_, _, marked⟩ := bind_eq_ok marked
    obtain ⟨c', cond, marked⟩ := bind_eq_ok marked
    obtain ⟨v', value, marked⟩ := bind_eq_ok marked
    cases marked
    obtain ⟨left, right⟩ := List.forall_mem_append.mp low
    exact List.forall_mem_append.mpr ⟨ihc left cond, ihv right value⟩

/-- The most that is needed of terms is not scores if no term is marked with them. -/
lemma mostNeeded_ne_scores {terms : List Term} (low : ∀ t ∈ terms, t.needed ≠ .scores) (t : Term) :
    mostNeeded terms t ≠ .scores := by
  rw [mostNeeded]
  refine List.foldlRecOn (motive := (· ≠ Need.scores)) _ _ nofun fun n low' m among => ?_
  obtain ⟨s, mem, rfl⟩ := List.mem_map.mp among
  exact Need.max_ne_scores low' (low s (List.mem_filter.mp mem).1)

/-- Inference has no term opened for scores. -/
theorem infer_ne_scores {need : Need} {q q' : Query R} (low : ∀ t ∈ q.terms, t.needed ≠ .scores)
    (inferred : q.infer need = .ok q') : ∀ t ∈ q'.terms, t.needed ≠ .scores := by
  obtain ⟨marked, h, inferred⟩ := bind_eq_ok inferred
  cases inferred
  have low' := (everywhere_fit_of_mark q h).mark_ne_scores low h
  rw [terms_mapTerms]
  exact List.forall_mem_map.mpr fun t _ => mostNeeded_ne_scores low' t

/-! ## Simplification -/

/-- A simplified query is accepted for a need if the query was. -/
theorem exists_infer_of_simplify {need : Need} {passes : Nat} {q simple q' : Query R}
    (simplified : q.simplify passes = .ok simple) (inferred : q.infer need = .ok q') :
    ∃ simple', simple.infer need = .ok simple' :=
  exists_infer_iff.mpr ((exists_infer_iff.mp ⟨q', inferred⟩).simplify fit_lasting simplified)

/-! ## What stays the same -/

omit [Scalar R]

/-- The query with nothing needed of its terms but documents. -/
def unmarked (q : Query R) : Query R := q.mapTerms fun t => { t with needed := .docs }

lemma unmarked_modify (m : Modifier R) (c : Query R) :
    unmarked (.modify m c) = .modify m c.unmarked := rfl

lemma unmarked_join (op : Operator R) (cs : List (Query R)) :
    unmarked (.join op cs) = .join op (cs.map unmarked) := by
  rw [unmarked, mapTerms, mapTermsAll_eq_map]
  rfl

lemma unmarked_require (c v : Query R) :
    unmarked (.require c v) = .require c.unmarked v.unmarked := rfl

lemma eq_leaf_of_unmarked {q : Query R} {l : Leaf R} (same : q.unmarked = unmarked (.leaf l)) :
    ∃ k, q = .leaf k := by
  cases q with
  | leaf k => exact ⟨k, rfl⟩
  | join op cs =>
    rw [unmarked_join] at same
    cases l <;> cases same
  | _ => cases l <;> cases same

lemma eq_modify_of_unmarked {q c : Query R} {m : Modifier R} (same : q.unmarked = .modify m c) :
    ∃ d, q = .modify m d ∧ d.unmarked = c := by
  cases q with
  | leaf l => cases l <;> cases same
  | modify n d =>
    cases same
    exact ⟨d, rfl, rfl⟩
  | join op cs =>
    rw [unmarked_join] at same
    cases same
  | require c v => cases same

lemma eq_join_of_unmarked {q : Query R} {op : Operator R} {cs : List (Query R)}
    (same : q.unmarked = .join op cs) : ∃ ds, q = .join op ds ∧ ds.map unmarked = cs := by
  cases q with
  | leaf l => cases l <;> cases same
  | join op ds =>
    rw [unmarked_join] at same
    cases same
    exact ⟨ds, rfl, rfl⟩
  | modify m c => cases same
  | require c v => cases same

lemma eq_require_of_unmarked {q c v : Query R} (same : q.unmarked = .require c v) :
    ∃ d w, q = .require d w ∧ d.unmarked = c ∧ w.unmarked = v := by
  cases q with
  | leaf l => cases l <;> cases same
  | join op ds =>
    rw [unmarked_join] at same
    cases same
  | modify m c => cases same
  | require d w =>
    cases same
    exact ⟨d, w, rfl, rfl, rfl⟩

mutual

/-- Terms may be replaced by such that differ in what is needed of them. -/
theorem mapTerms_unmarked {f : Term → Term}
    (same : ∀ t, { f t with needed := .docs } = ({ t with needed := .docs } : Term)) :
    (q : Query R) → (q.mapTerms f).unmarked = q.unmarked
  | .leaf (.term t) => congrArg (fun t => Query.leaf (.term t)) (same t)
  | .leaf (.lengths _) | .leaf (.constScore _) | .leaf (.constCount ..) | .leaf (.constBool _)
  | .leaf (.whitelist _) | .leaf .always | .leaf .never | .leaf (.raw _) => rfl
  | .modify m c => by rw [mapTerms, unmarked_modify, unmarked_modify, mapTerms_unmarked same c]
  | .join op cs => by rw [mapTerms, unmarked_join, unmarked_join, mapTermsAll_unmarked same cs]
  | .require c v => by
    rw [mapTerms, unmarked_require, unmarked_require, mapTerms_unmarked same c,
      mapTerms_unmarked same v]

theorem mapTermsAll_unmarked {f : Term → Term}
    (same : ∀ t, { f t with needed := .docs } = ({ t with needed := .docs } : Term)) :
    (cs : List (Query R)) → (mapTermsAll f cs).map unmarked = cs.map unmarked
  | [] => rfl
  | c :: cs => by
    rw [mapTermsAll, List.map_cons, List.map_cons, mapTerms_unmarked same c,
      mapTermsAll_unmarked same cs]

end

variable [Scalar R]

mutual

/-- Marking a query changes nothing but what is needed of its terms. -/
theorem mark_unmarked {need : Need} {q' : Query R} :
    (q : Query R) → q.mark need = .ok q' → q'.unmarked = q.unmarked
  | .leaf l, h => by
    obtain ⟨_, _, h⟩ := bind_eq_ok h
    cases l <;> cases h <;> rfl
  | .modify m c, h => by
    obtain ⟨_, _, h⟩ := bind_eq_ok h
    obtain ⟨c', marked, h⟩ := bind_eq_ok h
    cases h
    rw [unmarked_modify, unmarked_modify, mark_unmarked c marked]
  | .join op cs, h => by
    obtain ⟨_, _, h⟩ := bind_eq_ok h
    obtain ⟨_, _, h⟩ := bind_eq_ok h
    obtain ⟨cs', marked, h⟩ := bind_eq_ok h
    cases h
    rw [unmarked_join, unmarked_join, markAll_unmarked cs marked]
  | .require c v, h => by
    obtain ⟨_, _, h⟩ := bind_eq_ok h
    obtain ⟨c', cond, h⟩ := bind_eq_ok h
    obtain ⟨v', value, h⟩ := bind_eq_ok h
    cases h
    rw [unmarked_require, unmarked_require, mark_unmarked c cond, mark_unmarked v value]

theorem markAll_unmarked {need : Need} {cs' : List (Query R)} :
    (cs : List (Query R)) → markAll need cs = .ok cs' → cs'.map unmarked = cs.map unmarked
  | [], h => by
    cases h
    rfl
  | c :: cs, h => by
    obtain ⟨c', first, h⟩ := bind_eq_ok h
    obtain ⟨cs', rest, h⟩ := bind_eq_ok h
    cases h
    rw [List.map_cons, List.map_cons, mark_unmarked c first, markAll_unmarked cs rest]

end

/-- Inference changes nothing but what is needed of the terms. -/
theorem infer_unmarked {need : Need} {q q' : Query R} (inferred : q.infer need = .ok q') :
    q'.unmarked = q.unmarked := by
  obtain ⟨marked, h, inferred⟩ := bind_eq_ok inferred
  cases inferred
  have same := mapTerms_unmarked (f := fun t => { t with needed := mostNeeded marked.terms t })
    (fun _ => rfl) marked
  exact same.trans (mark_unmarked q h)

omit [Scalar R]

variable {P : Need → Query R → Prop}

mutual

/-- What does not depend on what is needed of terms holds everywhere whatever is needed of them. -/
theorem everywhere_unmarked (free : ∀ n c, P n c.unmarked ↔ P n c) (need : Need) :
    (q : Query R) → (Everywhere P need q.unmarked ↔ Everywhere P need q)
  | .leaf l => by
    refine ⟨fun h => .leaf ((free _ _).mp h.here), fun h => ?_⟩
    have here := (free _ _).mpr h.here
    cases l <;> exact .leaf here
  | .modify m c => by
    have inner := everywhere_unmarked free (m.childNeed need) c
    constructor
    · intro h
      have here := (free _ _).mp h.here
      cases h with
      | modify _ below => exact .modify here (inner.mp below)
    · intro h
      have here := (free _ _).mpr h.here
      cases h with
      | modify _ below => exact .modify here (inner.mpr below)
  | .join op cs => by
    have inner := everywhere_unmarkedAll free (op.childNeed need) cs
    rw [unmarked_join]
    constructor
    · intro h
      have here := (free _ _).mp (unmarked_join op cs ▸ h.here)
      cases h with
      | join _ below => exact .join here (inner.mp below)
    · intro h
      have here := unmarked_join op cs ▸ (free _ _).mpr h.here
      cases h with
      | join _ below => exact .join here (inner.mpr below)
  | .require c v => by
    have cond := everywhere_unmarked free .docs c
    have value := everywhere_unmarked free need v
    constructor
    · intro h
      have here := (free _ _).mp h.here
      cases h with
      | require _ below below' => exact .require here (cond.mp below) (value.mp below')
    · intro h
      have here := (free _ _).mpr h.here
      cases h with
      | require _ below below' => exact .require here (cond.mpr below) (value.mpr below')

theorem everywhere_unmarkedAll (free : ∀ n c, P n c.unmarked ↔ P n c) (need : Need) :
    (cs : List (Query R)) →
      ((∀ c ∈ cs.map unmarked, Everywhere P need c) ↔ ∀ c ∈ cs, Everywhere P need c)
  | [] => Iff.rfl
  | c :: cs => by
    rw [List.map_cons, List.forall_mem_cons, List.forall_mem_cons, everywhere_unmarked free need c,
      everywhere_unmarkedAll free need cs]

end

/-- What does not depend on what is needed of terms is kept by inference. -/
theorem Everywhere.infer [Scalar R] (free : ∀ n c, P n c.unmarked ↔ P n c) {need need' : Need}
    {q q' : Query R} (h : Everywhere P need q) (inferred : q.infer need' = .ok q') :
    Everywhere P need q' := by
  rw [← everywhere_unmarked free, infer_unmarked inferred, everywhere_unmarked free]
  exact h

end Query

end Retrieval
