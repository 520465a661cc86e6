import Retrieval.Proofs.Evaluation.Reading
import Mathlib.Tactic.Lemma

/-!
# Plans have the meaning of their queries

Compilation allots cursors and windows and hands shared leaves out again; the meaning of a query
knows nothing of this. A step of compilation realises a part of the meaning (`Session.Realises`) if
it fails with the same fault, or yields something that answers the same and will do so however many
cursors are allotted later. Every term that is compiled has to be registered for at least what is
needed of it: that is what makes a leaf that was opened for one occurrence right for all of them.
-/

namespace Retrieval

/-! ## What is needed of terms -/

/-- A term is known for at least what is needed of it. -/
def Covers (known : List (TermKey × Need)) (key : TermKey) (needed : Need) : Prop :=
  ∃ n, known.lookup key = some n ∧ needed ≤ n

/-- Every term of a query that has a field is known for at least what is needed of it. -/
def CoversAll (known : List (TermKey × Need)) (terms : List Term) : Prop :=
  ∀ t ∈ terms, ∀ field, t.countedField = .ok field → Covers known (t.text, field) t.needed

namespace Session

/-- Raising a need changes what is known of that term alone. -/
lemma lookup_raise (key key' : TermKey) (needed : Need) (known : List (TermKey × Need)) :
    (raise key needed known).lookup key'
      = if key' = key then some (max ((known.lookup key).getD .docs) needed)
        else known.lookup key' := by
  induction known with
  | nil =>
    rw [raise, List.lookup_cons]
    by_cases same : key' = key
    · simp [same]
    · simp [same, beq_eq_false_iff_ne.mpr same]
  | cons entry known ih =>
    obtain ⟨k, n⟩ := entry
    rw [raise]
    by_cases here : k = key
    · subst here
      by_cases same : key' = k
      · simp [same]
      · simp [List.lookup_cons, same, beq_eq_false_iff_ne.mpr same]
    · rw [if_neg here, List.lookup_cons, List.lookup_cons, ih]
      by_cases same : key' = k
      · subst same
        simp [here]
      · have other : (key == k) = false := beq_eq_false_iff_ne.mpr (Ne.symm here)
        simp [List.lookup_cons, beq_eq_false_iff_ne.mpr same, other]

end Session

namespace Covers

/-- What is raised is covered. -/
lemma of_raise (key : TermKey) (needed : Need) (known : List (TermKey × Need)) :
    Covers (Session.raise key needed known) key needed :=
  ⟨_, by rw [Session.lookup_raise, if_pos rfl], Need.le_max_right _ _⟩

/-- Raising a need uncovers nothing. -/
lemma raise {known : List (TermKey × Need)} {key' : TermKey} {needed' : Need}
    (covers : Covers known key' needed') (key : TermKey) (needed : Need) :
    Covers (Session.raise key needed known) key' needed' := by
  obtain ⟨n, found, le⟩ := covers
  by_cases same : key' = key
  · subst same
    refine ⟨max n needed, ?_, Need.le_trans le (Need.le_max_left _ _)⟩
    rw [Session.lookup_raise, if_pos rfl, found, Option.getD_some]
  · exact ⟨n, by rw [Session.lookup_raise, if_neg same, found], le⟩

/-- What is covered is opened for at least as much, whatever else is asked. -/
lemma le_opened {σ : Setting} {key : TermKey} {needed : Need}
    (covers : Covers σ.registered key needed) (asked : Need) : needed ≤ σ.opened key asked := by
  obtain ⟨n, found, le⟩ := covers
  rw [Setting.opened, found, Option.elim_some]
  exact Need.le_trans le (Need.le_max_left n asked)

/-- What is covered is opened for the need that is known. -/
lemma opened_eq {σ : Setting} {key : TermKey} {needed : Need}
    (covers : Covers σ.registered key needed) :
    σ.opened key needed = (σ.registered.lookup key).getD .docs := by
  obtain ⟨n, found, le⟩ := covers
  rw [Setting.opened, found, Option.elim_some, Option.getD_some, Need.max_eq_left le]

end Covers

namespace Query

variable {R : Type}

/-- Terms that are registered one after the other are all covered, and so is what was before. -/
lemma covers_of_foldlM {known : List (TermKey × Need)} {terms : List Term}
    {before : List (TermKey × Need)}
    (h : terms.foldlM (fun known t => do
      return Session.raise (t.text, ← t.countedField) t.needed known) before = Except.ok known) :
    CoversAll known terms ∧ ∀ key needed, Covers before key needed → Covers known key needed := by
  induction terms generalizing before with
  | nil =>
    cases h
    exact ⟨List.forall_mem_nil _, fun _ _ covers => covers⟩
  | cons t terms ih =>
    rw [List.foldlM_cons] at h
    cases counted : t.countedField with
    | error e =>
      rw [counted] at h
      cases h
    | ok field =>
      rw [counted] at h
      obtain ⟨rest, keep⟩ := ih h
      refine ⟨?_, fun key needed covers => keep key needed (covers.raise _ _)⟩
      refine List.forall_mem_cons.mpr ⟨?_, rest⟩
      intro field' counted'
      cases counted.symm.trans counted'
      exact keep _ _ (Covers.of_raise _ _ _)

/-- A query's own registration covers all its terms. -/
lemma coversAll_registered {q : Query R} {known : List (TermKey × Need)}
    (h : q.registered = .ok known) : CoversAll known q.terms := by
  rw [registered] at h
  exact (covers_of_foldlM h).1

end Query

/-! ## Steps of compilation -/

/-- The cursors have kept their numbers. -/
def Extends (cursors cursors' : Array Postings) : Prop :=
  ∀ (slot : Nat) p, cursors[slot]? = some p → cursors'[slot]? = some p

namespace Extends

lemma refl (cursors : Array Postings) : Extends cursors cursors := fun _ _ found => found

lemma trans {a b c : Array Postings} (left : Extends a b) (right : Extends b c) : Extends a c :=
  fun slot p found => right slot p (left slot p found)

lemma push (cursors : Array Postings) (p : Postings) : Extends cursors (cursors.push p) := by
  intro slot q found
  obtain ⟨inside, _⟩ := Array.getElem?_eq_some_iff.mp found
  rw [Array.getElem?_push, if_neg (Nat.ne_of_lt inside), found]

end Extends

namespace Session

variable {R : Type} [Scalar R] {σ : Setting}

/-- The plan gives the answers as readings of the cursors. -/
def Reads (σ : Setting) (cursors : Array Postings) (p : Plan R) (b : Answers R Reading) : Prop :=
  p.answers (σ.access cursors) σ.segment = b

/-- A session in the setting, whose shared leaves are right for every occurrence that is covered. -/
structure Ready (σ : Setting) (s : Session R) : Prop where
  segment : s.segment = σ.segment
  defaultField : s.defaultField = σ.defaultField
  registered : s.registered = σ.registered
  leaves : ∀ text field needed leaf, s.share = true →
    s.shared.lookup (text, field) = some leaf → Covers σ.registered (text, field) needed →
    ∃ b, σ.term text field needed = .ok b ∧
      ∀ cursors, Extends s.state.cursors cursors → Reads σ cursors leaf b

/-- How a step from `s` may end: with the expected fault, or with something that is as `right` says
over all cursors to come. -/
inductive Outcome {α β : Type} (σ : Setting) (s : Session R) (right : Array Postings → α → β → Prop) :
    Except Fault α × Session R → Except Fault β → Prop where
  | ok {a b s'} :
    Ready σ s' →
    Extends s.state.cursors s'.state.cursors →
    (∀ cursors, Extends s'.state.cursors cursors → right cursors a b) →
    Outcome σ s right (.ok a, s') (.ok b)
  | error {e s'} :
    Outcome σ s right (.error e, s') (.error e)

/-- A step of compilation from `s` has the expected result. -/
def Realises {α β : Type} (σ : Setting) (s : Session R) (step : Compile R α)
    (expected : Except Fault β) (right : Array Postings → α → β → Prop) : Prop :=
  Outcome σ s right (run step s) expected

namespace Realises

variable {α β γ δ : Type} {s : Session R} {right : Array Postings → α → β → Prop}
  {right' : Array Postings → γ → δ → Prop}

lemma pure (ready : Ready σ s) {a : α} {b : β}
    (h : ∀ cursors, Extends s.state.cursors cursors → right cursors a b) :
    Realises σ s (Pure.pure a) (.ok b) right :=
  .ok ready (.refl _) h

lemma throw (e : Fault) : Realises σ s (MonadExcept.throw e) (.error e) right := .error

/-- A step may read the session that it is in. -/
lemma get_bind {next : Session R → Compile R α} {expected : Except Fault β}
    (rest : Realises σ s (next s) expected right) :
    Realises σ s (get >>= next) expected right := rest

/-- After a step that cannot fail, the rest has to have the expected result. -/
lemma bind_ok {step : Compile R α} {b : β} {next : α → Compile R γ} {expected : Except Fault δ}
    (first : Realises σ s step (.ok b) right)
    (rest : ∀ a s', Ready σ s' →
      (∀ cursors, Extends s'.state.cursors cursors → right cursors a b) →
      Realises σ s' (next a) expected fun cursors c d => right cursors a b → right' cursors c d) :
    Realises σ s (step >>= next) expected right' := by
  unfold Realises at first rest ⊢
  generalize ran : run step s = end_ at first
  cases first with
  | @ok a _ s' ready grown holds =>
    rw [show run (step >>= next) s = run (next a) s' from runState_bind_ok ran]
    have rest := rest a s' ready holds
    generalize run (next a) s' = end_ at rest ⊢
    cases rest with
    | error => exact .error
    | ok ready' grown' holds' =>
      exact .ok ready' (grown.trans grown') fun cursors more =>
        holds' cursors more (holds cursors (grown'.trans more))

/-- Steps that realise their parts realise the whole. -/
lemma bind {step : Compile R α} {expected : Except Fault β} {next : α → Compile R γ}
    {expected' : β → Except Fault δ} (first : Realises σ s step expected right)
    (rest : ∀ a b s', expected = .ok b → Ready σ s' →
      Realises σ s' (next a) (expected' b) fun cursors c d =>
        right cursors a b → right' cursors c d) :
    Realises σ s (step >>= next) (expected >>= expected') right' := by
  cases expected with
  | ok b => exact bind_ok first fun a s' ready _ => rest a b s' rfl ready
  | error e =>
    rw [Realises] at first ⊢
    generalize ran : run step s = end_ at first
    cases first with
    | error =>
      rw [show run (step >>= next) s = _ from runState_bind_error ran]
      exact .error

/-- A pure computation has the same result on both sides. -/
lemma ofExcept_bind {result : Except Fault α} {next : α → Compile R γ}
    {expected : α → Except Fault δ}
    (rest : ∀ a, result = .ok a → Realises σ s (next a) (expected a) right') :
    Realises σ s (ofExcept result >>= next) (result >>= expected) right' := by
  cases result with
  | error e => exact throw e
  | ok a => exact rest a rfl

end Realises

/-! ## Leaves -/

/-- A session stays ready when cursors or windows are allotted. -/
lemma Ready.allot {s : Session R} (ready : Ready σ s) {state : EvalState}
    (grown : Extends s.state.cursors state.cursors) : Ready σ { s with state } where
  segment := ready.segment
  defaultField := ready.defaultField
  registered := ready.registered
  leaves text field needed leaf share found covers := by
    obtain ⟨b, opened, reads⟩ := ready.leaves text field needed leaf share found covers
    exact ⟨b, opened, fun cursors more => reads cursors (grown.trans more)⟩

/-- A leaf over postings gets a cursor of its own, and finds it however many come after it. -/
lemma run_newTerm (s : Session R) (label : String) (needed : Need) (postings : Option Postings) :
    ∃ (source : Source R) (cursors : Array Postings),
      run (newTerm label needed postings) s
        = (.ok (.leaf source), { s with state := { s.state with cursors } }) ∧
      Extends s.state.cursors cursors ∧
      ∀ overflow segment more, Extends cursors more →
        source.answers (Reading.access overflow more) segment =
          Setting.occurring label needed postings := by
  cases postings with
  | none => exact ⟨_, _, rfl, .push s.state.cursors (.ofList [] needed), fun _ _ _ _ => rfl⟩
  | some p =>
    refine ⟨_, _, rfl, .push s.state.cursors p, fun overflow segment more kept => ?_⟩
    have found : more[s.state.cursors.size]? = some p := kept _ _ Array.getElem?_push_size
    simp only [Source.answers, Reading.access, found, Option.bind_some, Setting.occurring]

lemma newTerm_realises {s : Session R} (ready : Ready σ s) (label : String) (needed : Need)
    (postings : Option Postings) :
    Realises σ s (newTerm label needed postings) (.ok (Setting.occurring label needed postings))
      (Reads σ) := by
  obtain ⟨source, cursors, ran, grown, reads⟩ := run_newTerm s label needed postings
  rw [Realises, ran]
  exact .ok (ready.allot grown) grown (reads σ.overflow σ.segment)

/-- A term is opened for the same need wherever it occurs, so its first leaf does for all. -/
lemma term_realises {s : Session R} (ready : Ready σ s) {text field : String} {needed : Need}
    (covers' : Covers σ.registered (text, field) needed) :
    Realises σ s (term text field needed) (σ.term text field needed) (Reads σ) := by
  apply Realises.get_bind
  dsimp only
  split
  -- the leaf is handed out again
  · next leaf found =>
    cases share : s.share with
    | false => simp [share] at found
    | true =>
      rw [if_pos share] at found
      obtain ⟨b, opened, reads⟩ := ready.leaves text field needed leaf share found covers'
      rw [opened]
      exact .ok ready (.refl _) reads
  -- the leaf is made, and kept if leaves are shared
  · rw [ready.segment, ready.registered]
    apply Realises.ofExcept_bind
    intro postings opened
    refine .bind_ok (newTerm_realises ready _ _ postings) fun leaf s' ready' reads => ?_
    split
    · refine .ok ⟨ready'.segment, ready'.defaultField, ready'.registered, ?_⟩ (.refl _)
        fun _ _ reads => reads
      intro text' field' needed' leaf' share found covers
      rw [List.lookup_cons] at found
      split at found
      · next hit =>
        cases beq_iff_eq.mp hit
        cases found
        refine ⟨_, ?_, reads⟩
        rw [Setting.term, covers.opened_eq, ← covers'.opened_eq]
        change σ.segment.cursor text field (σ.opened (text, field) needed) = _ at opened
        rw [opened]
        rfl
      · exact ready'.leaves text' field' needed' leaf' share found covers
    · exact .pure ready' fun _ _ reads => reads

lemma leaf_realises {s : Session R} (ready : Ready σ s) (l : Leaf R)
    (covers : CoversAll σ.registered (Query.leaf l).terms) :
    Realises σ s (leaf l) (σ.leaf l) (Reads σ) := by
  apply Realises.get_bind
  cases l with
  | term t =>
    exact .ofExcept_bind fun field counted =>
      term_realises ready (covers t (List.mem_singleton_self t) field counted)
  | lengths l => exact .pure ready fun _ _ => by rw [ready.defaultField]; rfl
  | constScore x => exact .pure ready fun _ _ => rfl
  | constCount n l => exact .pure ready fun _ _ => by rw [ready.defaultField]; rfl
  | constBool b => exact .pure ready fun _ _ => by rw [ready.segment]; rfl
  | whitelist w =>
    rw [ready.segment]
    exact .ofExcept_bind fun _ _ => .pure ready fun _ _ => rfl
  | always => exact .pure ready fun _ _ => by rw [ready.segment]; rfl
  | never => exact .pure ready fun _ _ => rfl
  | raw q =>
    rw [ready.segment]
    apply Realises.ofExcept_bind
    intro postings _
    cases postings with
    | none => exact .pure ready fun _ _ => rfl
    | some p => exact newTerm_realises ready _ _ (some p)

/-! ## Nodes with children -/

/-- A modifier becomes an adapter that changes the answers of any child as the modifier should. -/
lemma adapter_realises {s : Session R} (ready : Ready σ s) (m : Modifier R) (child : Query R) :
    Realises σ s (adapter m child) (σ.modifier m child) fun cursors a change =>
      ∀ d, a.answers (σ.access cursors) σ.segment d = change d := by
  cases m with
  | scorer model stats =>
    refine .ofExcept_bind fun scorer _ => .get_bind ?_
    rw [ready.defaultField]
    exact .ofExcept_bind fun field _ => .pure ready fun _ _ _ => rfl
  | _ => exact .pure ready fun _ _ _ => rfl

/-- An operator becomes a joint that makes of the children's answers what the operator should. -/
lemma joint_realises {s : Session R} (ready : Ready σ s) (op : Operator R)
    (ds : List (Answers R Reading)) :
    Realises σ s (joint op ds.length) (σ.operator ds op) fun cursors j b =>
      j.answers (σ.access cursors) ds = b := by
  have window (kind : Window) : Realises σ s (do return Joint.window (R := R) (← newWindow) kind)
      (.ok (.window id kind ds)) fun cursors j b => j.answers (σ.access cursors) ds = b :=
    .ok (ready.allot (.refl _)) (.refl _) fun _ _ => rfl
  cases op with
  | orderedWindow step => exact window (.ordered step)
  | unorderedWindow width => exact window (.unordered width)
  | prox width => exact window (.prox width)
  | multi names =>
    rw [joint, Setting.operator]
    split
    · exact .pure ready fun _ _ => rfl
    · exact .throw _
  | _ => exact .pure ready fun _ _ => rfl

mutual

/-- The plan of a query has the query's meaning. -/
theorem plan_realises {s : Session R} (ready : Ready σ s) :
    (q : Query R) → CoversAll σ.registered q.terms →
      Realises σ s (plan q) (σ.meaning q) (Reads σ)
  | .leaf l, covers => leaf_realises ready l covers
  | .modify m c, covers => by
    refine .bind (adapter_realises ready m c) fun a change s' _ ready' => ?_
    refine .bind (plan_realises ready' c covers) fun p b s'' _ ready'' => ?_
    refine .pure ready'' fun cursors _ reads same => ?_
    rw [Reads, Plan.answers, same, reads]
  | .join op cs, covers => by
    apply Realises.ofExcept_bind
    intro _ _
    refine .bind (plans_realise ready cs covers) fun ps bs s' meant ready' => ?_
    rw [← (Setting.mem_meanings meant).1, ← bind_pure (σ.operator bs op)]
    refine .bind (joint_realises ready' op bs) fun j b s'' _ ready'' => ?_
    refine .pure ready'' fun cursors _ joined reads => ?_
    rw [Reads, Plan.answers, reads, joined]
  | .require c v, covers => by
    obtain ⟨left, right⟩ := List.forall_mem_append.mp covers
    refine .bind (plan_realises ready c left) fun p b s' _ ready' => ?_
    refine .bind (plan_realises ready' v right) fun p' b' s'' _ ready'' => ?_
    refine .pure ready'' fun cursors _ reads reads' => ?_
    rw [Reads] at reads reads'
    rw [Reads, Plan.answers, reads, reads']

theorem plans_realise {s : Session R} (ready : Ready σ s) :
    (cs : List (Query R)) → CoversAll σ.registered (Query.termsAll cs) →
      Realises σ s (plans cs) (σ.meanings cs) fun cursors ps bs =>
        Plan.answersAll (σ.access cursors) σ.segment ps = bs
  | [], _ => .pure ready fun _ _ => rfl
  | c :: cs, covers => by
    obtain ⟨first, rest⟩ := List.forall_mem_append.mp covers
    refine .bind (plan_realises ready c first) fun p b s' _ ready' => ?_
    refine .bind (plans_realise ready' cs rest) fun ps bs s'' _ ready'' => ?_
    refine .pure ready'' fun cursors _ reads reads' => ?_
    rw [Reads] at reads'
    rw [Plan.answersAll, reads', reads]

end

end Session

end Retrieval
