import Retrieval.Proofs.Evaluation.Faults
import Retrieval.Proofs.Evaluation.Marking
import Retrieval.Proofs.Evaluation.Simplification
import Retrieval.Proofs.Query.Demands
import Retrieval.Proofs.Window.Counts

/-!
# Summaries bound the windows they stand for

A window over some queries is never counted more often than the summary of their counts that stands
for it (`Query.summary_bounds_window`): there are no more ordered windows than the smallest count, and
no more unordered windows than their ceiling. The queries are marked for positions under a window and
for counts under a summary, but they answer alike, so the summary has a count wherever the window has
one, and matches wherever the window does.
-/

namespace Retrieval

variable {R : Type}

/-- The summary of counts that stands for a kind of window. -/
inductive Operator.BoundedBy : Operator R → Operator R → Prop where
  | ordered {step} :
    BoundedBy (.orderedWindow step) .smallerCount
  | unordered {width width'} :
    BoundedBy (.unorderedWindow width) (.windowCeiling width')

namespace Operator.BoundedBy

variable {window summary : Operator R} {need : Need} {cs : List (Query R)}

/-- The window is found no more often than the summary says, and the summary matches if it is. -/
lemma facts (bounded : window.BoundedBy summary) {fs : List Facts} (some_ : fs ≠ [])
    (spread : ∀ f ∈ fs, f.Spread) : (window.facts fs).count ≤ (summary.facts fs).count ∧
      ((window.facts fs).matched = true → (summary.facts fs).matched = true) := by
  have matches_ {kind : Window} {kind' : Summary} (found : (Facts.window kind fs).matched = true) :
      (Facts.summary kind' fs).matched = true := by
    have some_ : 0 < (Facts.window kind fs).count := List.length_pos_iff.mpr fun none => by
      simp only [Facts.window, none] at found
      cases found
    exact (Facts.matched_of_window some_).1
  cases bounded with
  | ordered => exact ⟨Facts.window_ordered_le _ some_ spread, matches_⟩
  | unordered => exact ⟨Facts.window_unordered_le _ some_ spread, matches_⟩

/-- A window can be asked for anything but scores. -/
lemma fit_window (bounded : window.BoundedBy summary) (two : 2 ≤ cs.length)
    (low : need ≤ .positions) : Query.Fit need (.join window cs) := by
  have other : need ≠ .scores := by
    rintro rfl
    revert low
    decide
  refine ⟨?_, fun _ _ same _ => ?_⟩
  · cases bounded <;> exact ⟨fun _ => rfl, fun _ => rfl, fun asked => absurd asked other⟩
  · cases same
    exact two

/-- A summary can be asked for counts. -/
lemma fit_summary (bounded : window.BoundedBy summary) (two : 2 ≤ cs.length)
    (low : need ≤ .counts) : Query.Fit need (.join summary cs) := by
  have other : need ≠ .scores ∧ need ≠ .positions := by
    constructor <;> rintro rfl <;> revert low <;> decide
  refine ⟨?_, fun _ _ same _ => ?_⟩
  · cases bounded <;>
      exact ⟨fun _ => rfl, fun asked => absurd asked other.2, fun asked => absurd asked other.1⟩
  · cases same
    exact two

lemma childNeed_window (bounded : window.BoundedBy summary) :
    window.childNeed need = .positions := by
  cases bounded <;> rfl

lemma childNeed_summary (bounded : window.BoundedBy summary) :
    summary.childNeed need = .counts := by
  cases bounded <;> rfl

end Operator.BoundedBy

variable [Scalar R]

/-! ## Meanings -/

namespace Answers

variable {overflow : Overflow} {bs bs' : List (Answers R Reading)} {doc n : Nat}

/-- A summary has an answer where a window over children with the same counts has one, if sums do not
end calls. -/
lemma summary_answers {kind : Window} (kind' : Summary) (goes : overflow ≠ .stops)
    (same : SameAll .counts bs bs') (countable : ∀ b ∈ bs, b.Countable doc)
    (counted : (window id kind bs).count doc = .ok n) :
    (∃ hit, (summary overflow.plus kind' bs').matched doc = .ok hit) ∧
      ∃ m, (summary overflow.plus kind' bs').count doc = .ok m := by
  obtain ⟨starts, found, _⟩ := Reading.bind_eq_ok counted
  obtain ⟨lists, gathered, _⟩ := Reading.bind_eq_ok found
  have counts : bs.mapM count = bs'.mapM count :=
    Reading.mapM_congr (same.imp fun _ _ same => same.count (.inl rfl))
  rcases gather_cases gathered with ⟨_, not⟩ | ⟨all, placed⟩
  · rw [same.allMatched] at not
    exact ⟨⟨false, not⟩, 0, Reading.bind_of_ok _ not⟩
  · rw [same.allMatched] at all
    have each : ∀ b ∈ bs, ∃ n, b.count doc = .ok n := fun b mem => by
      obtain ⟨ps, placed⟩ := placed b mem
      exact countable b mem ps placed
    obtain ⟨ns, told⟩ : ∃ ns, bs.mapM count doc = .ok ns := Reading.exists_mapM_eq_ok each
    rw [counts] at told
    have ends : Succeeds False doc (kind'.fold overflow.plus ns) :=
      .fold kind' fun _ stops => absurd stops goes
    obtain ⟨m, folded⟩ := ends.exists_ok id
    exact ⟨⟨true, all⟩, m,
      (Reading.bind_of_ok _ all).trans ((Reading.bind_of_ok _ told).trans folded)⟩

end Answers

namespace Operator.BoundedBy

variable {window summary : Operator R} {cs cs' : List (Query R)} {σ σ' : Setting}
  {b b' : Answers R Reading}

/-- Where a window has a count, the summary over the same queries has one that is no smaller. -/
lemma count_le (bounded : window.BoundedBy summary) (doc : Nat) (some_ : cs ≠ [])
    (segment : σ.segment = σ'.segment) (field : σ.defaultField = σ'.defaultField)
    (unbounded : σ.overflow = .never) (unbounded' : σ'.overflow = .never)
    (marked : ∀ c ∈ cs, Query.Everywhere (fun n c => Query.Fit n c ∧ Query.IsMarked n c) .counts c)
    (marked' : ∀ c ∈ cs', Query.Everywhere Query.IsMarked .counts c)
    (same : cs.map Query.unmarked = cs'.map Query.unmarked)
    (meant : σ.meaning (.join window cs) = .ok b) (meant' : σ'.meaning (.join summary cs') = .ok b') :
    (∀ n, b.count doc = .ok n → ∃ m, b'.count doc = .ok m ∧ n ≤ m) ∧
      (b.matched doc = .ok true → b'.matched doc = .ok true) := by
  have tells : b.Tells doc _ _ := Setting.meaning_tells (Overflow.ne_wraps unbounded) _ meant
  have tells' : b'.Tells doc _ _ :=
    Setting.meaning_tells (Overflow.ne_wraps unbounded') _ meant'
  have spots : σ.spot doc = σ'.spot doc := by rw [Setting.spot, segment, field, Setting.spot]
  have facts : Query.factsAll (σ'.spot doc) cs' = Query.factsAll (σ'.spot doc) cs :=
    Query.factsAll_congr ((forall₂_map_eq.mpr same.symm).imp fun _ _ => Query.facts_congr) _
  have some_' : Query.factsAll (σ'.spot doc) cs ≠ [] := by
    rw [Query.factsAll_eq_map]
    exact mt List.map_eq_nil_iff.mp some_
  obtain ⟨le, matches_⟩ := bounded.facts some_' (Query.factsAll_spread _ cs)
  rw [Query.facts, spots] at tells
  rw [Query.facts, facts] at tells'
  obtain ⟨_, _, meant⟩ := bind_eq_ok meant
  obtain ⟨bs, inner, meant⟩ := bind_eq_ok meant
  obtain ⟨_, _, meant'⟩ := bind_eq_ok meant'
  obtain ⟨bs', inner', meant'⟩ := bind_eq_ok meant'
  have countable : ∀ b ∈ bs, b.Countable doc :=
    Setting.meanings_countable (Overflow.ne_stops unbounded) cs inner
  rw [Setting.meanings_eq_mapM] at inner inner'
  have alike : Answers.SameAll .counts bs bs' := forall₂_of_map_eq same
    (fun c mem c' mem' same _ _ => Setting.same_of_marked segment field
      (unbounded.trans unbounded'.symm) (marked c mem) (marked' c' mem') same)
    (forall₂_of_mapM inner) (forall₂_of_mapM inner')
  obtain ⟨kind, kind', here, here'⟩ : ∃ kind kind', σ.operator bs window = .ok (.window id kind bs) ∧
      σ'.operator bs' summary = .ok (.summary σ'.overflow.plus kind' bs') := by
    cases bounded <;> exact ⟨_, _, rfl, rfl⟩
  cases here.symm.trans meant
  cases here'.symm.trans meant'
  have goes : σ'.overflow ≠ .stops := Overflow.ne_stops unbounded'
  constructor
  · intro n counted
    obtain ⟨_, m, counted'⟩ := Answers.summary_answers kind' goes alike countable counted
    refine ⟨m, counted', ?_⟩
    rw [tells.count n counted, tells'.count m counted']
    exact le
  · intro matched
    obtain ⟨starts, found, _⟩ := Reading.bind_eq_ok matched
    obtain ⟨⟨hit, matched'⟩, _⟩ := Answers.summary_answers kind' goes alike countable
      (Reading.bind_of_ok _ found)
    rw [matched', tells'.matched hit matched', matches_ (tells.matched true matched).symm]

end Operator.BoundedBy

/-! ## Compiled trees -/

namespace Query

/-- A query with an operator is inferred with its children, which are left marked with what is asked
of them. -/
lemma infer_join_eq_ok {need : Need} {op : Operator R} {cs : List (Query R)} {q : Query R}
    (inferred : (Query.join op cs).infer need = .ok q) :
    ∃ cs', q = .join op cs' ∧ cs'.map unmarked = cs.map unmarked ∧
      ∀ c ∈ cs', Everywhere (fun n c => Fit n c ∧ IsMarked n c) (op.childNeed need) c := by
  obtain ⟨cs', rfl, same⟩ :=
    eq_join_of_unmarked ((infer_unmarked inferred).trans (unmarked_join op cs))
  refine ⟨cs', rfl, same, ?_⟩
  cases marked_of_infer inferred with
  | join _ marked => exact marked

/-- The summary lacks nothing for its compilation that the window does not lack. -/
lemma exists_summary_tree {window summary : Operator R} (bounded : window.BoundedBy summary)
    {cs cs₁ cs₂ : List (Query R)} {need need' : Need} {segment : Segment} {defaultField : String}
    {share : Bool} {t : Tree R} (inferred : (join window cs).infer need = .ok (.join window cs₁))
    (inferred' : (join summary cs).infer need' = .ok (.join summary cs₂))
    (children : cs₁.map unmarked = cs₂.map unmarked)
    (compiled : Session.tree segment defaultField share (.join window cs₁) = .ok t)
    (defaultField' : String) (share' : Bool) :
    ∃ t', Session.tree segment defaultField' share' (.join summary cs₂) = .ok t' := by
  have ready : Everywhere (fun _ => IsReady Segment.Readable) need (.join window cs₁) :=
    Session.exists_tree_iff.mp ⟨t, compiled⟩
  have low : ∀ t ∈ (Query.join summary cs₂).terms, t.needed ≠ .scores := by
    have low₁ : ∀ t ∈ (Query.join window cs).terms, t.needed ≠ .scores :=
      ne_scores_of_infer inferred fun t mem => (ready.of_mem_nodes ((mem_terms _).mp mem)).2
    exact infer_ne_scores (q := .join summary cs) low₁ inferred'
  suffices ready' : Everywhere (fun _ => IsReady Segment.Readable) need (.join summary cs₂) from
    Session.exists_tree_iff.mpr ready'
  cases ready with
  | join _ ready =>
    refine .join (by cases bounded <;> trivial) fun c mem => ?_
    obtain ⟨c₁, mem₁, same⟩ := (exists_mem_of_forall₂ (forall₂_map_eq.mpr children)).2 c mem
    refine IsReady.congr same (fun t within => low t ?_) (ready c₁ mem₁)
    rw [terms, termsAll_eq_flatMap]
    exact List.mem_flatMap.mpr ⟨c, mem, within⟩

/-- The summary of counts that stands for a window bounds it. Over queries that are accepted for
positions both are accepted, and the summary is compiled if the window is. Whatever either was asked
before, in every document the summary has a count where the window has one, and a count that is no
smaller; and it matches where the window does. -/
theorem summary_bounds_window {window summary : Operator R} (bounded : window.BoundedBy summary)
    {cs : List (Query R)} (two : 2 ≤ cs.length)
    (accepted : ∀ c ∈ cs, ∃ c', c.infer .positions = .ok c') {need need' : Need}
    (low : need ≤ .positions) (low' : need' ≤ .counts) (segment : Segment) (defaultField : String)
    (share share' : Bool) :
    ∃ q q', (Query.join window cs).infer need = .ok q ∧
      (Query.join summary cs).infer need' = .ok q' ∧
      ∀ t, Session.tree segment defaultField share q = .ok t →
        ∃ t', Session.tree segment defaultField share' q' = .ok t' ∧
          ∀ calls calls' doc, Tree.placeAfter none calls = some doc →
            Tree.placeAfter none calls' = some doc →
            (∀ n, (t.after calls).count.1 = .ok n →
              ∃ m, (t'.after calls').count.1 = .ok m ∧ n ≤ m) ∧
            ((t.after calls).matched.1 = .ok true → (t'.after calls').matched.1 = .ok true) ∧
            ((∀ c ∈ cs, c.NoRaw) → doc < segment.size → ∃ n, (t.after calls).count.1 = .ok n) := by
  have fit : ∀ c ∈ cs, Everywhere Fit .positions c :=
    fun c mem => exists_infer_iff.mp (accepted c mem)
  obtain ⟨q, inferred⟩ := exists_infer_iff.mpr (.join (bounded.fit_window two low)
    fun c mem => bounded.childNeed_window ▸ fit c mem)
  obtain ⟨q', inferred'⟩ := exists_infer_iff.mpr (.join (bounded.fit_summary two low')
    fun c mem => bounded.childNeed_summary ▸
      (fit c mem).lower (fun _ fit => fit.admits.placed rfl) (fun _ => Fit.lower) rfl)
  refine ⟨q, q', inferred, inferred', fun t compiled => ?_⟩
  obtain ⟨cs₁, rfl, same, marked⟩ := infer_join_eq_ok inferred
  obtain ⟨cs₂, rfl, same', marked'⟩ := infer_join_eq_ok inferred'
  have children : cs₁.map unmarked = cs₂.map unmarked := same.trans same'.symm
  have two₁ : 2 ≤ cs₁.length := by
    rw [← List.length_map (f := unmarked), same, List.length_map]
    exact two
  have some_ : cs₁ ≠ [] := List.ne_nil_of_length_pos (Nat.lt_of_lt_of_le (by decide) two₁)
  obtain ⟨t', compiled'⟩ :=
    exists_summary_tree bounded inferred inferred' children compiled defaultField share'
  obtain ⟨σ, b, segment_, field, unbounded, meant, answers⟩ := Session.exists_meaning compiled
  obtain ⟨σ', b', segment_', field', unbounded', meant', answers'⟩ :=
    Session.exists_meaning compiled'
  refine ⟨t', compiled', fun calls calls' doc here here' => ?_⟩
  obtain ⟨matched, count, _⟩ := answers calls doc here
  obtain ⟨matched', count', _⟩ := answers' calls' doc here'
  rw [matched, count, matched', count']
  rw [bounded.childNeed_window] at marked
  rw [bounded.childNeed_summary] at marked'
  have bound := bounded.count_le doc some_ (segment_.trans segment_'.symm)
    (field.trans field'.symm) unbounded unbounded'
    (fun c mem => (marked c mem).lower (fun _ here => here.1.admits.placed rfl)
      (fun _ here => ⟨here.1.lower, here.2.lower⟩) rfl)
    (fun c mem => (marked' c mem).mono fun _ _ => And.right) children meant meant'
  refine ⟨bound.1, bound.2, fun noRaw inside => ?_⟩
  have typed : Typed .counts (.join window cs₁) := by
    cases infer_typed (noRaw_join noRaw) inferred with
    | join _ _ typed =>
      refine .join (bounded.fit_window two₁ (by decide)).admits (fun _ => two₁) ?_
      rw [bounded.childNeed_window] at typed ⊢
      exact typed
  have gives : b.Gives False doc .counts :=
    Setting.meaning_gives_unless typed meant (segment_ ▸ inside) (Overflow.ne_stops unbounded)
  exact (gives.count (.inl rfl)).exists_ok id

/-- Two words that count as one beside one of them, in a document where the words take turns. Each
position of the second word is in both lists, and the ceiling is reached. -/
theorem summary_bounds_window_synonym :
    let segment : Segment :=
      ⟨0, 1, [("body", ⟨#[4], [("a", [⟨0, [0, 2]⟩]), ("b", [⟨0, [1, 3]⟩])]⟩)]⟩
    let leaf (needed : Need) (text : String) : Query Float :=
      .leaf (.term { text, field := some "body", needed })
    let cs (needed : Need) := [.join .synonym [leaf needed "a", leaf needed "b"], leaf needed "b"]
    let window (needed : Need) : Query Float := .join (.unorderedWindow 2) (cs needed)
    let summary (needed : Need) : Query Float := .join (.windowCeiling 2) (cs needed)
    2 ≤ (cs .docs).length ∧ (∀ c ∈ cs .docs, ∃ c', c.infer .positions = .ok c') ∧
      (window .docs).infer .counts = .ok (window .positions) ∧
      (summary .docs).infer .counts = .ok (summary .counts) ∧
      ∃ t t', Session.tree segment "body" true (window .positions) = .ok t ∧
        Session.tree segment "body" false (summary .counts) = .ok t' ∧
        ∃ n m, (t.after [.moveTo 0]).count.1 = .ok n ∧
          (t'.after [.moveTo 0, .matched]).count.1 = .ok m ∧ n ≤ m := by
  intro segment leaf cs window summary
  have two : 2 ≤ (cs .docs).length := by decide
  have accepted : ∀ c ∈ cs .docs, ∃ c', c.infer .positions = .ok c' :=
    List.forall_mem_cons.mpr ⟨⟨_, rfl⟩, List.forall_mem_singleton.mpr ⟨_, rfl⟩⟩
  have noRaw : ∀ c ∈ cs .docs, c.NoRaw := by simp [cs, leaf, NoRaw, nodes, nodesAll]
  have inferred : (window .docs).infer .counts = .ok (window .positions) := by rfl
  have inferred' : (summary .docs).infer .counts = .ok (summary .counts) := by rfl
  have compiles : (Session.tree segment "body" true (window .positions)).isOk = true := by rfl
  obtain ⟨t, compiled⟩ := exists_of_isOk compiles
  have bounded : Operator.BoundedBy (R := Float) (.unorderedWindow 2) (.windowCeiling 2) := .unordered
  have low : Need.counts ≤ .positions := by decide
  obtain ⟨q, q', h, h', bounds⟩ := summary_bounds_window bounded two accepted low
    (Need.le_refl .counts) segment "body" true false
  cases inferred.symm.trans h
  cases inferred'.symm.trans h'
  obtain ⟨t', compiled', bounds⟩ := bounds t compiled
  obtain ⟨counts, _, counted⟩ := bounds [.moveTo 0] [.moveTo 0, .matched] 0 rfl rfl
  obtain ⟨n, count⟩ := counted noRaw (by decide)
  obtain ⟨m, count', le⟩ := counts n count
  exact ⟨two, accepted, inferred, inferred', t, t', compiled, compiled', n, m, count, count', le⟩

end Query

end Retrieval
