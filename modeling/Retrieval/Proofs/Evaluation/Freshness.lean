import Retrieval.Proofs.Evaluation.Behaviour
import Retrieval.Proofs.Evaluation.Compilation

/-!
# Fresh trees

A fresh tree stands at the beginning: no document has been chosen, no window remembers anything, and
no two windows remember under the same number (`Session.plan_adds`). So its state fits its own
cursors, and it answers as its query means (`Session.tree_spec`).
-/

namespace Retrieval

/-! ## What compilation adds to a state -/

/-- The state has kept its place and got new windows under these numbers. -/
structure Allots (s s' : EvalState) (slots : List Nat) : Prop where
  doc : s'.doc = s.doc
  positioned : s'.positioned = s.positioned
  overflow : s'.overflow = s.overflow
  windows : s'.windows = s.windows ++ Array.replicate slots.length none
  slots : slots = List.range' s.windows.size slots.length

namespace Allots

lemma none (s : EvalState) (cursors : Array Postings) : Allots s { s with cursors } [] :=
  ⟨rfl, rfl, rfl, by simp, rfl⟩

/-- Numbers that are given out one after the other go on from each other. -/
lemma append {s s' s'' : EvalState} {slots slots' : List Nat} (first : Allots s s' slots)
    (next : Allots s' s'' slots') : Allots s s'' (slots ++ slots') where
  doc := next.doc.trans first.doc
  positioned := next.positioned.trans first.positioned
  overflow := next.overflow.trans first.overflow
  windows := by
    rw [next.windows, first.windows, List.length_append, ← Array.replicate_append_replicate,
      Array.append_assoc]
  slots := by
    have size : s'.windows.size = s.windows.size + slots.length := by
      rw [first.windows, Array.size_append, Array.size_replicate]
    rw [List.length_append, ← List.range'_append_1, ← first.slots, ← size, ← next.slots]

/-- A state that starts without windows remembers nothing, so that it fits its own cursors, however
counts are added. -/
lemma fits {s s' : EvalState} {slots : List Nat} (allots : Allots s s' slots)
    (empty : s.windows = #[]) (searches : List (Nat × Reading (List Nat))) (overflow : Overflow) :
    Origin.Fits ⟨s'.cursors, searches, overflow⟩ { s' with overflow } where
  ahead _ _ _ := rfl
  remembered slot search _ doc starts stored := by
    change s'.windows[slot]? = _ at stored
    rw [allots.windows, empty, Array.empty_append, Array.getElem?_replicate] at stored
    split at stored <;> cases stored
  overflow := rfl

end Allots

namespace Session

variable {R : Type}

/-- The shared nodes of a session are leaves. -/
def SharesLeaves (s : Session R) : Prop :=
  ∀ key p, s.shared.lookup key = some p → ∃ l, p = .leaf l

/-- If the step succeeds from `s`, it allots windows under numbers that are as `right` says. -/
def Adds {α : Type} (s : Session R) (step : Compile R α) (right : α → List Nat → Prop) : Prop :=
  ∀ a s', run step s = (.ok a, s') →
    s'.SharesLeaves ∧ ∃ slots, Allots s.state s'.state slots ∧ right a slots

namespace Adds

variable {α β : Type} {s : Session R} {right : α → List Nat → Prop}

lemma pure (leaves : s.SharesLeaves) {a : α} (h : right a []) : Adds s (Pure.pure a) right := by
  intro a' s' ran
  cases ran
  exact ⟨leaves, [], .none _ _, h⟩

lemma throw (e : Fault) : Adds s (MonadExcept.throw e) right := nofun

lemma get_bind {next : Session R → Compile R α} (rest : Adds s (next s) right) :
    Adds s (get >>= next) right := rest

lemma ofExcept_bind {result : Except Fault β} {next : β → Compile R α}
    (rest : ∀ b, Adds s (next b) right) : Adds s (ofExcept result >>= next) right := by
  cases result with
  | error e => exact nofun
  | ok b => exact rest b

/-- The numbers of two steps are those of the first and then those of the second. -/
lemma bind {step : Compile R β} {next : β → Compile R α} {between : β → List Nat → Prop}
    (first : Adds s step between)
    (rest : ∀ b s', (∃ earlier, between b earlier) → s'.SharesLeaves →
      Adds s' (next b) fun a slots => ∀ earlier, between b earlier → right a (earlier ++ slots)) :
    Adds s (step >>= next) right := by
  intro a s' ran
  rcases ran' : run step s with ⟨e | b, s''⟩
  · rw [show run (step >>= next) s = _ from runState_bind_error ran'] at ran
    cases ran
  · rw [show run (step >>= next) s = run (next b) s'' from runState_bind_ok ran'] at ran
    obtain ⟨leaves, earlier, before, holds⟩ := first b s'' ran'
    obtain ⟨leaves', slots, after, holds'⟩ := rest b s'' ⟨earlier, holds⟩ leaves a s' ran
    exact ⟨leaves', earlier ++ slots, before.append after, holds' earlier holds⟩

end Adds

/-! ## Windows are numbered apart -/

/-- A leaf, with no window allotted. -/
def OnlyLeaf (p : Plan R) (slots : List Nat) : Prop := (∃ l, p = .leaf l) ∧ slots = []

lemma newTerm_adds {s : Session R} (leaves : s.SharesLeaves) (label : String) (needed : Need)
    (postings : Option Postings) : Adds s (newTerm label needed postings) OnlyLeaf := by
  intro p s' ran
  cases postings with
  | none =>
    cases ran
    exact ⟨leaves, [], .none _ _, ⟨_, rfl⟩, rfl⟩
  | some postings =>
    cases ran
    exact ⟨leaves, [], .none _ _, ⟨_, rfl⟩, rfl⟩

lemma term_adds {s : Session R} (leaves : s.SharesLeaves) (text field : String) (needed : Need) :
    Adds s (term text field needed) OnlyLeaf := by
  apply Adds.get_bind
  dsimp only
  split
  · next leaf found =>
    split at found
    · exact .pure leaves ⟨leaves _ leaf found, rfl⟩
    · cases found
  · apply Adds.ofExcept_bind
    intro postings
    refine .bind (newTerm_adds leaves _ _ postings) fun leaf s' ⟨_, only, _⟩ leaves' => ?_
    split
    · intro p s'' ran
      cases ran
      refine ⟨fun key p found => ?_, [], .none _ _, fun _ only => by rwa [List.append_nil]⟩
      rw [List.lookup_cons] at found
      split at found
      · cases found
        exact only
      · exact leaves' key p found
    · exact .pure leaves' fun _ only => by rwa [List.append_nil]

variable [Scalar R]

omit [Scalar R] in
lemma leaf_adds {s : Session R} (leaves : s.SharesLeaves) (l : Leaf R) :
    Adds s (leaf l) OnlyLeaf := by
  apply Adds.get_bind
  cases l with
  | term t => exact .ofExcept_bind fun field => term_adds leaves _ field _
  | whitelist w => exact .ofExcept_bind fun _ => .pure leaves ⟨⟨_, rfl⟩, rfl⟩
  | raw q =>
    apply Adds.ofExcept_bind
    intro postings
    cases postings with
    | none => exact .pure leaves ⟨⟨_, rfl⟩, rfl⟩
    | some p => exact newTerm_adds leaves _ _ (some p)
  | _ => exact .pure leaves ⟨⟨_, rfl⟩, rfl⟩

lemma adapter_adds {s : Session R} (leaves : s.SharesLeaves) (m : Modifier R) (child : Query R) :
    Adds s (adapter m child) fun _ slots => slots = [] := by
  cases m with
  | scorer model stats =>
    exact .ofExcept_bind fun _ => .get_bind <| .ofExcept_bind fun _ => .pure leaves rfl
  | _ => exact .pure leaves rfl

omit [Scalar R] in
/-- The number of a window is allotted with it. -/
lemma joint_adds {s : Session R} (leaves : s.SharesLeaves) (op : Operator R) (children : Nat) :
    Adds s (joint op children) fun j slots => ∀ cs, (Plan.ownSearches cs j).map Prod.fst = slots := by
  have window (kind : Window) : Adds s (do return Joint.window (R := R) (← newWindow) kind)
      fun j slots => ∀ cs, (Plan.ownSearches cs j).map Prod.fst = slots := by
    intro j s' ran
    cases ran
    refine ⟨leaves, [s.state.windows.size], ⟨rfl, rfl, rfl, ?_, rfl⟩, fun _ => rfl⟩
    exact Array.push_eq_append
  cases op with
  | orderedWindow step => exact window (.ordered step)
  | unorderedWindow width => exact window (.unordered width)
  | prox width => exact window (.prox width)
  | multi names =>
    rw [joint]
    split
    · exact .pure leaves fun _ => rfl
    · exact .throw _
  | _ => exact .pure leaves fun _ => rfl

/-- These are the numbers of the windows of a plan, wherever it is read. -/
def NumbersWindows (p : Plan R) (slots : List Nat) : Prop :=
  ∀ segment access, (p.searches segment access).map Prod.fst = slots

/-- These are the numbers of the windows of the plans together. -/
def NumberAllWindows (ps : List (Plan R)) (slots : List Nat) : Prop :=
  ∀ segment access, (Plan.searchesAll segment access ps).map Prod.fst = slots

mutual

/-- The windows of a plan have the numbers that compilation has allotted. -/
theorem plan_adds {s : Session R} (leaves : s.SharesLeaves) :
    (q : Query R) → Adds s (plan q) NumbersWindows
  | .leaf l => by
    intro p s' ran
    obtain ⟨leaves', slots, allots, ⟨l, rfl⟩, rfl⟩ := leaf_adds leaves l p s' ran
    exact ⟨leaves', [], allots, fun _ _ => rfl⟩
  | .modify m c => by
    refine .bind (adapter_adds leaves m c) fun a s' _ leaves' => ?_
    refine .bind (plan_adds leaves' c) fun p s'' _ leaves'' => ?_
    refine .pure leaves'' fun slots numbers none nothing segment access => ?_
    rw [nothing, List.nil_append, List.append_nil, Plan.searches, numbers]
  | .join op cs => by
    apply Adds.ofExcept_bind
    intro _
    refine .bind (plans_add leaves cs) fun ps s' _ leaves' => ?_
    refine .bind (joint_adds leaves' op cs.length) fun j s'' _ leaves'' => ?_
    refine .pure leaves'' fun own ownNumbers inner numbers segment access => ?_
    rw [Plan.searches, List.map_append, numbers, ownNumbers, List.append_nil]
  | .require c v => by
    refine .bind (plan_adds leaves c) fun p s' _ leaves' => ?_
    refine .bind (plan_adds leaves' v) fun p' s'' _ leaves'' => ?_
    refine .pure leaves'' fun right numbers' left numbers segment access => ?_
    rw [Plan.searches, List.map_append, numbers, numbers', List.append_nil]

theorem plans_add {s : Session R} (leaves : s.SharesLeaves) :
    (cs : List (Query R)) → Adds s (plans cs) NumberAllWindows
  | [] => .pure leaves fun _ _ => rfl
  | c :: cs => by
    refine .bind (plan_adds leaves c) fun p s' _ leaves' => ?_
    refine .bind (plans_add leaves' cs) fun ps s'' _ leaves'' => ?_
    refine .pure leaves'' fun rest numbers' first numbers segment access => ?_
    rw [Plan.searchesAll, List.map_append, numbers, numbers', List.append_nil]

end

end Session

/-! ## Parts of a compiled query -/

namespace Session

variable {R : Type} [Scalar R]

/-- The plan is what the query became in a compilation that has allotted these cursors by its end.
-/
def Compiled (σ : Setting) (cursors : Array Postings) (q : Query R) (p : Plan R) : Prop :=
  ∃ s s', Ready σ s ∧ s.SharesLeaves ∧ CoversAll σ.registered q.terms ∧
    run (plan q) s = (.ok p, s') ∧ Extends s'.state.cursors cursors

/-- What is realised by a step that has succeeded. -/
lemma Realises.of_run {α β : Type} {σ : Setting} {s s' : Session R} {step : Compile R α}
    {expected : Except Fault β} {right : Array Postings → α → β → Prop} {a : α}
    (realises : Realises σ s step expected right) (ran : run step s = (.ok a, s')) :
    ∃ b, expected = .ok b ∧ Ready σ s' ∧ Extends s.state.cursors s'.state.cursors ∧
      ∀ cursors, Extends s'.state.cursors cursors → right cursors a b := by
  rw [Realises, ran] at realises
  cases realises with
  | ok ready grown holds => exact ⟨_, rfl, ready, grown, holds⟩

/-- A query that is compiled leaves the session ready for the next one. -/
lemma plan_leaves {σ : Setting} {s s' : Session R} {q : Query R} {p : Plan R} (ready : Ready σ s)
    (leaves : s.SharesLeaves) (covers : CoversAll σ.registered q.terms)
    (ran : run (plan q) s = (.ok p, s')) :
    Ready σ s' ∧ s'.SharesLeaves ∧ Extends s.state.cursors s'.state.cursors := by
  obtain ⟨_, _, ready', grown, _⟩ := (plan_realises ready q covers).of_run ran
  exact ⟨ready', (plan_adds leaves q p s' ran).1, grown⟩

omit [Scalar R] in
/-- A computation that succeeds has succeeded at each step. -/
lemma run_bind_eq_ok {α β : Type} {step : Compile R α} {next : α → Compile R β}
    {s s' : Session R} {b : β} (ran : run (step >>= next) s = (.ok b, s')) :
    ∃ a s'', run step s = (.ok a, s'') ∧ run (next a) s'' = (.ok b, s') := by
  rcases ran' : run step s with ⟨e | a, s''⟩
  · rw [show run (step >>= next) s = _ from runState_bind_error ran'] at ran
    cases ran
  · rw [show run (step >>= next) s = run (next a) s'' from runState_bind_ok ran'] at ran
    exact ⟨a, s'', rfl, ran⟩

omit [Scalar R] in
/-- A pure computation that succeeds leaves the session alone. -/
lemma run_ofExcept_eq_ok {α : Type} {result : Except Fault α} {a : α} {s s' : Session R}
    (ran : run (ofExcept result) s = (.ok a, s')) : s' = s := by
  cases result with
  | error e => cases ran
  | ok a => cases ran; rfl

namespace Compiled

variable {σ : Setting} {cursors : Array Postings}

/-- A compiled query has a meaning, and its plan has the same. -/
lemma reads {q : Query R} {p : Plan R} (compiled : Compiled σ cursors q p) :
    ∃ b, σ.meaning q = .ok b ∧ Reads σ cursors p b := by
  obtain ⟨s, s', ready, _, covers, ran, more⟩ := compiled
  obtain ⟨b, meant, _, _, reads⟩ := (plan_realises ready q covers).of_run ran
  exact ⟨b, meant, reads cursors more⟩

/-- Queries that are compiled one after the other are compiled one by one. -/
lemma all {ps : List (Plan R)} {s s' : Session R} (ready : Ready σ s) (leaves : s.SharesLeaves) :
    (cs : List (Query R)) → CoversAll σ.registered (Query.termsAll cs) →
      run (plans cs) s = (.ok ps, s') → Extends s'.state.cursors cursors →
      List.Forall₂ (Compiled σ cursors) cs ps
  | [], _, ran, _ => by
    cases ran
    exact .nil
  | c :: cs, covers, ran, more => by
    obtain ⟨p, s₁, ranFirst, ran⟩ := run_bind_eq_ok ran
    obtain ⟨ps', s₂, ranRest, ran⟩ := run_bind_eq_ok ran
    cases ran
    obtain ⟨covers₁, covers₂⟩ := List.forall_mem_append.mp covers
    obtain ⟨ready₁, leaves₁, _⟩ := plan_leaves ready leaves covers₁ ranFirst
    obtain ⟨_, _, _, grown, _⟩ := (plans_realise ready₁ cs covers₂).of_run ranRest
    exact .cons ⟨s, s₁, ready, leaves, covers₁, ranFirst, grown.trans more⟩
      (all ready₁ leaves₁ cs covers₂ ranRest more)

/-- The children of a compiled query are compiled. -/
lemma children {q : Query R} {p : Plan R} (compiled : Compiled σ cursors q p) :
    List.Forall₂ (Compiled σ cursors) q.children p.children := by
  obtain ⟨s, s', ready, leaves, covers, ran, more⟩ := compiled
  cases q with
  | leaf l =>
    obtain ⟨_, _, _, ⟨l, rfl⟩, _⟩ := leaf_adds leaves l p s' ran
    exact .nil
  | modify m c =>
    obtain ⟨a, s₁, ranAdapter, ran⟩ := run_bind_eq_ok ran
    obtain ⟨p', s₂, ranChild, ran⟩ := run_bind_eq_ok ran
    cases ran
    obtain ⟨_, _, ready₁, _, _⟩ := (adapter_realises ready m c).of_run ranAdapter
    obtain ⟨leaves₁, _⟩ := adapter_adds leaves m c a s₁ ranAdapter
    exact .cons ⟨s₁, _, ready₁, leaves₁, covers, ranChild, more⟩ .nil
  | join op cs =>
    obtain ⟨_, s₁, ranCheck, ran'⟩ := run_bind_eq_ok ran
    rw [run_ofExcept_eq_ok ranCheck] at ran'
    obtain ⟨ps, s₂, ranChildren, ran'⟩ := run_bind_eq_ok ran'
    obtain ⟨j, s₃, ranJoint, ran'⟩ := run_bind_eq_ok ran'
    cases ran'
    obtain ⟨bs, meant, ready₁, _, _⟩ := (plans_realise ready cs covers).of_run ranChildren
    rw [← (Setting.mem_meanings meant).1] at ranJoint
    obtain ⟨_, _, _, grown, _⟩ := (joint_realises ready₁ op bs).of_run ranJoint
    exact all ready leaves cs covers ranChildren (grown.trans more)
  | require c v =>
    obtain ⟨p₁, s₁, ranCond, ran⟩ := run_bind_eq_ok ran
    obtain ⟨p₂, s₂, ranValue, ran⟩ := run_bind_eq_ok ran
    cases ran
    obtain ⟨covers₁, covers₂⟩ := List.forall_mem_append.mp covers
    obtain ⟨ready₁, leaves₁, _⟩ := plan_leaves ready leaves covers₁ ranCond
    obtain ⟨_, _, grown⟩ := plan_leaves ready₁ leaves₁ covers₂ ranValue
    exact .cons ⟨s, s₁, ready, leaves, covers₁, ranCond, grown.trans more⟩
      (.cons ⟨s₁, _, ready₁, leaves₁, covers₂, ranValue, more⟩ .nil)

end Compiled

end Session

/-! ## Fresh trees -/

namespace Tree

variable {R : Type} [Scalar R]

omit [Scalar R] in
/-- The tree has come to stand where `place` says, at document zero before the first is chosen. -/
structure Stands (o : Origin) (place : Option Nat) (t : Tree R) : Prop where
  fits : o.Fits t.state
  doc : t.state.doc = place.getD 0
  positioned : t.state.positioned = place.isSome

/-- The root of the tree is what the query has become. -/
structure Compiled (σ : Setting) (o : Origin) (q : Query R) (t : Tree R) : Prop where
  segment : t.segment = σ.segment
  overflow : σ.overflow = o.overflow
  root : Session.Compiled σ o.cursors q t.root
  known : t.root.searches t.segment o.access ⊆ o.searches
  once : (o.searches.map Prod.fst).Nodup

/-- A compiled tree is read as its state comes about. -/
lemma Compiled.access {σ : Setting} {o : Origin} {q : Query R} {t : Tree R}
    (compiled : t.Compiled σ o q) : σ.access o.cursors = o.access := by
  rw [Setting.access, compiled.overflow, Origin.access]

/-- A compiled tree answers as its query means. -/
lemma Compiled.agree {σ : Setting} {o : Origin} {q : Query R} {t : Tree R}
    (compiled : t.Compiled σ o q) : ∃ b, σ.meaning q = .ok b ∧ Answers.Agree o t.behaviour b := by
  obtain ⟨b, meant, reads⟩ := compiled.root.reads
  have agree := t.root.agree t.segment compiled.once compiled.known
  rw [Session.Reads, ← compiled.segment, compiled.access] at reads
  rw [reads] at agree
  exact ⟨b, meant, agree⟩

end Tree

namespace Session

variable {R : Type}

/-- Recording what terms need, one after the other, comes to what they register; if it fails, what was
known before is still covered. -/
lemma forM_run {record : Term → Compile R Unit} (step : ∀ t s,
      (∃ field, t.countedField = .ok field ∧ run (record t) s =
        (.ok (), { s with registered := raise (t.text, field) t.needed s.registered })) ∨
      ∃ e, t.countedField = .error e ∧ run (record t) s = (.error e, s))
    (terms : List Term) (s : Session R) :
    let registered := terms.foldlM (fun known t => do
      return raise (t.text, ← t.countedField) t.needed known) s.registered
    (∃ known, registered = .ok known ∧
      run (terms.forM record) s = (.ok (), { s with registered := known })) ∨
    ∃ e known, registered = .error e ∧
      run (terms.forM record) s = (.error e, { s with registered := known }) ∧
      ∀ key needed, Covers s.registered key needed → Covers known key needed := by
  induction terms generalizing s with
  | nil => exact .inl ⟨s.registered, rfl, rfl⟩
  | cons t terms ih =>
    dsimp only
    rw [List.foldlM_cons]
    obtain ⟨field, counted, ran⟩ | ⟨e, counted, ran⟩ := step t s
    · rw [counted]
      obtain ⟨known, registered, ran'⟩ | ⟨e, known, registered, ran', keep⟩ :=
        ih { s with registered := raise (t.text, field) t.needed s.registered }
      · exact .inl ⟨known, registered, (runState_bind_ok ran).trans ran'⟩
      · exact .inr ⟨e, known, registered, (runState_bind_ok ran).trans ran',
          fun key needed covers => keep key needed (covers.raise _ _)⟩
    · rw [counted]
      exact .inr ⟨e, s.registered, rfl, runState_bind_error ran, fun _ _ covers => covers⟩

/-- A query adds what its terms need to what a session knows. -/
lemma recordNeeds_run (q : Query R) (s : Session R) :
    let registered := q.terms.foldlM (fun known t => do
      return raise (t.text, ← t.countedField) t.needed known) s.registered
    (∃ known, registered = .ok known ∧
      run (recordNeeds q) s = (.ok (), { s with registered := known })) ∨
    ∃ e known, registered = .error e ∧
      run (recordNeeds q) s = (.error e, { s with registered := known }) ∧
      ∀ key needed, Covers s.registered key needed → Covers known key needed := by
  refine forM_run (fun t s => ?_) q.terms s
  cases t.countedField with
  | ok field => exact .inl ⟨field, rfl, rfl⟩
  | error e => exact .inr ⟨e, rfl, rfl⟩

/-- A fresh session comes to know what a query registers. -/
lemma recordNeeds_fresh (q : Query R) (s : Session R) (empty : s.registered = []) :
    (∃ known, q.registered = .ok known ∧
      run (recordNeeds q) s = (.ok (), { s with registered := known })) ∨
    ∃ e s', q.registered = .error e ∧ run (recordNeeds q) s = (.error e, s') := by
  rw [Query.registered, ← empty]
  refine (recordNeeds_run q s).imp_right ?_
  rintro ⟨e, known, failed, ran, _⟩
  exact ⟨e, _, failed, ran⟩

variable [Scalar R]

/-- A fresh tree is what compilation leaves in a fresh session. -/
lemma tree_eq {segment : Segment} {defaultField : String} {share : Bool} {q : Query R}
    {result : Except Fault (Plan R)} {s : Session R}
    (ran : run (compile q) (ofSegment segment defaultField share) = (result, s)) :
    tree segment defaultField share q = result.map fun root => ⟨segment, root, s.state⟩ := by
  have ran : (compile q).run.run (ofSegment segment defaultField share) = (result, s) := ran
  rw [tree, ran]
  cases result <;> rfl

/-- Compilation succeeds where a query has a meaning. However counts are added, the fresh tree is
compiled in the setting of that meaning, and stands at the beginning. -/
theorem tree_counting (overflow : Overflow) (segment : Segment) (defaultField : String)
    (share : Bool) (q : Query R) :
    (∃ (known : List (TermKey × Need)) (o : Origin) (t : Tree R),
      q.registered = .ok known ∧ tree segment defaultField share q = .ok t ∧
        t.state.overflow = .never ∧
        (t.counting overflow).Compiled ⟨segment, defaultField, known, overflow⟩ o q ∧
        (t.counting overflow).Stands o none) ∨
    ∃ e, q.meaning segment defaultField = .error e ∧
      tree segment defaultField share q = .error e := by
  let s : Session R := ofSegment segment defaultField share
  obtain ⟨known, registered, ran⟩ | ⟨e, _, registered, ran⟩ := recordNeeds_fresh q s rfl
  · let s' : Session R := { s with registered := known }
    have ready (overflow : Overflow) : Ready ⟨segment, defaultField, known, overflow⟩ s' :=
      ⟨rfl, rfl, rfl, nofun⟩
    have compiled : run (compile q) s = run (plan q) s' := runState_bind_ok ran
    have leaves : s'.SharesLeaves := nofun
    have covers := Query.coversAll_registered registered
    -- compilation cannot fail where the meaning does not, nor the other way round
    rcases planned : run (plan q) s' with ⟨e | p, s''⟩
    · have realises := plan_realises (ready .never) q covers
      rw [Realises, planned] at realises
      rw [planned] at compiled
      have meaning : q.meaning segment defaultField =
          Setting.meaning ⟨segment, defaultField, known, .never⟩ q := by
        rw [Query.meaning, registered]
        rfl
      generalize expected : Setting.meaning _ q = result at realises meaning
      cases realises
      exact .inr ⟨e, meaning, tree_eq compiled⟩
    · rw [planned] at compiled
      obtain ⟨_, slots, allots, numbers⟩ := plan_adds leaves q p s'' planned
      -- the tree stands at the beginning of its own cursors
      let cursors := s''.state.cursors
      let o : Origin := ⟨cursors, p.searches segment (Reading.access overflow cursors), overflow⟩
      have once : (o.searches.map Prod.fst).Nodup := by
        rw [numbers, allots.slots]
        exact List.nodup_range'
      have root : Compiled _ cursors q p :=
        ⟨s', s'', ready overflow, leaves, covers, planned, .refl _⟩
      exact .inl ⟨known, o, _, registered, tree_eq compiled, allots.overflow,
        ⟨rfl, rfl, root, List.Subset.refl _, once⟩,
        allots.fits rfl _ overflow, allots.doc, allots.positioned⟩
  · have meaning : q.meaning segment defaultField = .error e := by
      rw [Query.meaning, registered]
      rfl
    exact .inr ⟨e, meaning, tree_eq (runState_bind_error ran)⟩

/-- A fresh tree adds counts without a bound, so it is compiled for that. -/
theorem tree_compiled (segment : Segment) (defaultField : String) (share : Bool) (q : Query R) :
    (∃ (known : List (TermKey × Need)) (o : Origin) (t : Tree R),
      q.registered = .ok known ∧ tree segment defaultField share q = .ok t ∧
        t.Compiled ⟨segment, defaultField, known, .never⟩ o q ∧ t.Stands o none) ∨
    ∃ e, q.meaning segment defaultField = .error e ∧
      tree segment defaultField share q = .error e := by
  refine (tree_counting .never segment defaultField share q).imp_left ?_
  rintro ⟨known, o, t, registered, tree_eq, same, compiled, stands⟩
  have same : t.counting .never = t := by
    rw [← same]
    rfl
  rw [same] at compiled stands
  exact ⟨known, o, t, registered, tree_eq, compiled, stands⟩

/-- A fresh tree is compiled in some setting in which its query means the same, or compilation fails
as the meaning does. -/
theorem tree_spec (segment : Segment) (defaultField : String) (share : Bool) (q : Query R) :
    (∃ (σ : Setting) (o : Origin) (t : Tree R), σ.segment = segment ∧ σ.overflow = .never ∧
      q.meaning segment defaultField = σ.meaning q ∧
      tree segment defaultField share q = .ok t ∧ t.Compiled σ o q ∧ t.Stands o none) ∨
    ∃ e, q.meaning segment defaultField = .error e ∧
      tree segment defaultField share q = .error e := by
  refine (tree_compiled segment defaultField share q).imp_left ?_
  rintro ⟨known, o, t, registered, tree_eq, compiled, stands⟩
  refine ⟨⟨segment, defaultField, known, .never⟩, o, t, rfl, rfl, ?_, tree_eq, compiled, stands⟩
  rw [Query.meaning, registered]
  rfl

end Session

end Retrieval
