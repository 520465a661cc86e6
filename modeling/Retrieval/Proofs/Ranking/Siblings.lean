import Retrieval.Proofs.Evaluation.Scores
import Retrieval.Proofs.Query.Multi
import Retrieval.Proofs.Ranking.Segmentation

/-!
# Features do not depend on their siblings

Named queries that are evaluated together are prepared together: a term is marked with the most that
any of them needs of it, and all of them read through the same cursors. Yet the scores that a
document has under several of them are those that it has under each alone
(`Searcher.features_siblings`). Whichever queries stand beside one, it is bound, simplified and
measured to the same but for marks (`Searcher.Feature.unique`), and scores do not depend on marks.
-/

namespace Retrieval

variable {R : Type}

/-! ## Lists -/

/-- Lists that are related item by item to the same list are related through its items. -/
lemma forall₂_comp {α β γ : Type} {r : α → β → Prop} {s : β → γ → Prop} {as : List α}
    {bs : List β} {cs : List γ} (first : List.Forall₂ r as bs) (second : List.Forall₂ s bs cs) :
    List.Forall₂ (fun a c => ∃ b, r a b ∧ s b c) as cs := by
  induction first generalizing cs with
  | nil =>
    cases second
    exact .nil
  | cons here _ ih =>
    cases second with
    | cons here' rest => exact .cons ⟨_, here, here'⟩ (ih rest)

namespace Query

/-! ## What marks do not matter to -/

mutual

theorem candidates_unmarked : (q : Query R) → q.unmarked.candidates = q.candidates
  | .leaf l => by cases l <;> rfl
  | .modify m c => by
    rw [unmarked_modify]
    cases m <;> first | rfl | exact candidates_unmarked c
  | .join op cs => by rw [unmarked_join, candidates, candidates, candidatesAll_unmarked cs]
  | .require c v => by rw [unmarked_require, candidates, candidates, candidates_unmarked c]

theorem candidatesAll_unmarked :
    (cs : List (Query R)) → candidatesAll (cs.map unmarked) = candidatesAll cs
  | [] => rfl
  | c :: cs => congrArg₂ List.cons (candidates_unmarked c) (candidatesAll_unmarked cs)

end

variable [Scalar R]

mutual

theorem display_unmarked : (q : Query R) → q.unmarked.display = q.display
  | .leaf l => by cases l <;> rfl
  | .modify m c => by rw [unmarked_modify, display, display, display_unmarked c]
  | .join op cs => by rw [unmarked_join, display, display, displayAll_unmarked cs]
  | .require c v => by
    rw [unmarked_require, display, display, display_unmarked c, display_unmarked v]

theorem displayAll_unmarked :
    (cs : List (Query R)) → displayAll (cs.map unmarked) = displayAll cs
  | [] => rfl
  | c :: cs => congrArg₂ List.cons (display_unmarked c) (displayAll_unmarked cs)

end

lemma onlyCountedField_unmarked (q : Query R) (fallback : String) :
    q.unmarked.onlyCountedField fallback = q.onlyCountedField fallback := by
  have fields : q.unmarked.countedFields = q.countedFields := by
    rw [countedFields, countedFields, unmarked, terms_mapTerms, List.mapM_map]
    rfl
  have names : q.unmarked.only fallback = q.only fallback := by
    funext fields
    unfold only
    rw [display_unmarked]
  rw [onlyCountedField, onlyCountedField, fields, names]

end Query

namespace Searcher

open Query

variable [Scalar R] {docs : List Document} {limit : Option Nat} {env : Environment R}

/-! ## Measuring -/

/-- The statistics that are measured of a query do not depend on its marks. -/
lemma measured_unmarked {c d : Query R} {s s' : Statistics} (numbered : docs.length ≤ noMoreDocs)
    (some_ : docs ≠ []) (same : c.unmarked = d.unmarked) (typed : c.Typed .counts)
    (typed' : d.Typed .counts) (counted : measured ⟨.ofDocuments limit docs, env⟩ c = .ok s)
    (counted' : measured ⟨.ofDocuments limit docs, env⟩ d = .ok s') : s = s' := by
  have field : c.onlyCountedField env.defaultField = d.onlyCountedField env.defaultField := by
    rw [← onlyCountedField_unmarked, same, onlyCountedField_unmarked]
  have candidates : c.candidates = d.candidates := by
    rw [← candidates_unmarked, same, candidates_unmarked]
  have display : c.display = d.display := by rw [← display_unmarked, same, display_unmarked]
  have facts (spot : Spot) : c.facts spot = d.facts spot := facts_congr same spot
  have hit : isHit (.ofDocuments 0 docs) env.defaultField c c.candidates =
      isHit (.ofDocuments 0 docs) env.defaultField d d.candidates := by
    funext x
    rw [Bool.eq_iff_iff, isHit_iff, isHit_iff, Hits, Hits, candidates, facts]
  have hits : hitList (.ofDocuments 0 docs) env.defaultField c c.candidates =
      hitList (.ofDocuments 0 docs) env.defaultField d d.candidates := by
    rw [hitList, hitList, hit]
  rw [measured_ofDocuments numbered some_ typed, field, hits, display] at counted
  rw [measured_ofDocuments numbered some_ typed'] at counted'
  simp only [facts] at counted
  obtain ⟨f, named, counted⟩ := bind_eq_ok counted
  obtain ⟨f', named', counted'⟩ := bind_eq_ok counted'
  cases named.symm.trans named'
  obtain ⟨k, known, counted⟩ := bind_eq_ok counted
  obtain ⟨k', known', counted'⟩ := bind_eq_ok counted'
  cases known.symm.trans known'
  obtain ⟨_, _, counted⟩ := bind_eq_ok counted
  obtain ⟨_, _, counted'⟩ := bind_eq_ok counted'
  cases counted
  cases counted'
  rfl

/-- Queries that differ in marks are measured to such that differ in marks. -/
theorem measure_unmarked {need : Need} {q q' p p' : Query R} (numbered : docs.length ≤ noMoreDocs)
    (some_ : docs ≠ []) (same : q.unmarked = q'.unmarked) (typed : q.Typed need)
    (typed' : q'.Typed need) (made : measure ⟨.ofDocuments limit docs, env⟩ q = .ok p)
    (made' : measure ⟨.ofDocuments limit docs, env⟩ q' = .ok p') :
    p.unmarked = p'.unmarked := by
  unfold measure at made made'
  induction typed generalizing q' p p' with
  | leaf =>
    obtain ⟨l', rfl⟩ := eq_leaf_of_unmarked same.symm
    cases made
    cases made'
    exact same
  | @modify need m c _ inner ih =>
    obtain ⟨c', rfl, below⟩ := eq_modify_of_unmarked same.symm
    obtain ⟨d, built, made⟩ := bind_eq_ok made
    obtain ⟨n, changed, made⟩ := bind_eq_ok made
    obtain ⟨d', built', made'⟩ := bind_eq_ok made'
    obtain ⟨n', changed', made'⟩ := bind_eq_ok made'
    cases made
    cases made'
    cases typed' with
    | modify _ inner' =>
      have children : d.unmarked = d'.unmarked := ih below.symm inner' built built'
      have modifiers : n = n' := by
        obtain ⟨model, s, rfl, counted, rfl⟩ | ⟨other, rfl⟩ := measureModifier_cases changed <;>
          obtain ⟨_, s', same, counted', rfl⟩ | ⟨other', rfl⟩ := measureModifier_cases changed'
        · cases same
          have there : d.Typed .counts := measure_typed inner built
          have there' : d'.Typed .counts := measure_typed inner' built'
          rw [measured_unmarked numbered some_ children there there' counted counted']
        · exact absurd rfl (other' model)
        · exact absurd same (other _)
        · rfl
      rw [unmarked_modify, unmarked_modify, modifiers, children]
  | @join need op cs _ _ inner ih =>
    rw [unmarked_join] at same
    obtain ⟨cs', rfl, below⟩ := eq_join_of_unmarked same.symm
    obtain ⟨ds, rfl, built⟩ := rebuild_join_eq_ok made
    obtain ⟨ds', rfl, built'⟩ := rebuild_join_eq_ok made'
    cases typed' with
    | join _ _ inner' =>
      have same := forall₂_of_map_eq (s := fun d d' => d.unmarked = d'.unmarked) below.symm
        (fun c mem c' mem' same d d' built built' => ih c mem same (inner' c' mem') built built')
        built built'
      rw [unmarked_join, unmarked_join, forall₂_map_eq.mp same]
  | require _ _ _ ihc ihv =>
    obtain ⟨c', v', rfl, cond, value⟩ := eq_require_of_unmarked same.symm
    obtain ⟨d, built, made⟩ := bind_eq_ok made
    obtain ⟨w, given, made⟩ := bind_eq_ok made
    obtain ⟨d', built', made'⟩ := bind_eq_ok made'
    obtain ⟨w', given', made'⟩ := bind_eq_ok made'
    cases made
    cases made'
    cases typed' with
    | require _ innerc innerv =>
      rw [unmarked_require, unmarked_require, ihc cond.symm innerc built built',
        ihv value.symm innerv given given']

/-! ## A feature among others -/

/-- The query `c` is prepared to `c'` where it is one of several. It is bound and simplified on its
own, but marked and typed together with others. -/
def Feature (e : Searcher R) (c c' : Query R) : Prop :=
  ∃ bound known simple typed, c.bind e.env e.collection = .ok bound ∧
    bound.attachStatistics e.collection = .ok known ∧
    known.settle? e.env.maxPasses = some simple ∧ typed.unmarked = simple.unmarked ∧
    typed.Typed .scores ∧ e.measure typed = .ok c'

/-- Whichever others there are, a query is prepared to the same but for its marks. -/
theorem Feature.unique {c p p' : Query R} (numbered : docs.length ≤ noMoreDocs) (some_ : docs ≠ [])
    (feature : Feature ⟨.ofDocuments limit docs, env⟩ c p)
    (feature' : Feature ⟨.ofDocuments limit docs, env⟩ c p') : p.unmarked = p'.unmarked := by
  obtain ⟨bound, known, simple, t, h, attached, settled, marks, typed, counted⟩ := feature
  obtain ⟨_, _, _, t', h', attached', settled', marks', typed', counted'⟩ := feature'
  cases h.symm.trans h'
  cases attached.symm.trans attached'
  cases settled.symm.trans settled'
  exact measure_unmarked numbered some_ (marks.trans marks'.symm) typed typed' counted counted'

/-- A multi query is prepared child by child. -/
theorem prepare_multi {e : Searcher R} {names : List String} {cs : List (Query R)} {p : Prepared R}
    (noRaw : NoRaw (.join (.multi names) cs))
    (prepared : e.prepare (.join (.multi names) cs) = .ok p) :
    ∃ cs', p.scoring = .join (.multi names) cs' ∧ List.Forall₂ (Feature e) cs cs' := by
  obtain ⟨bound, known, simple, typed, h, h', h'', inferred, measured, _⟩ :=
    prepareFor_steps prepared
  have well := infer_typed (noRaw_of_simple noRaw h h' h'') inferred
  -- each step makes a list of children that goes with the one before
  obtain ⟨bs, rfl, filled⟩ := rebuild_join_eq_ok h
  obtain ⟨ks, rfl, attached⟩ := rebuild_join_eq_ok h'
  obtain ⟨ss, rfl, settled⟩ := settle?_multi (settled_of_simplify h'')
  have marks := (infer_unmarked inferred).trans (unmarked_join (.multi names) ss)
  obtain ⟨ts, rfl, marked⟩ := eq_join_of_unmarked marks
  obtain ⟨cs', same, counted⟩ := rebuild_join_eq_ok measured
  refine ⟨cs', same, ?_⟩
  rw [← List.forall₂_eq_eq_eq, List.forall₂_map_left_iff, List.forall₂_map_right_iff] at marked
  have each : ∀ t ∈ ts, t.Typed .scores := by
    cases well with
    | join _ _ each => exact each
  have steps := forall₂_comp filled (forall₂_comp attached (forall₂_comp settled
    (forall₂_comp marked.flip ((List.forall₂_and_left ts cs').mpr ⟨each, counted⟩))))
  apply steps.imp
  rintro c c' ⟨b, filled, k, attached, s, settled, t, marked, typed, counted⟩
  exact ⟨b, k, s, t, filled, attached, settled, marked, typed, counted⟩

/-- The feature scores of a document are those of the children that a multi query is prepared to. -/
lemma features_multi {names : List String} {cs : List (Query R)} {doc : Nat}
    {scores : List (String × R)} (numbered : docs.length ≤ noMoreDocs)
    (noRaw : NoRaw (.join (.multi names) cs))
    (found : features ⟨.ofDocuments limit docs, env⟩ (.join (.multi names) cs) doc = .ok scores) :
    docs ≠ [] ∧ ∃ cs', List.Forall₂ (Feature ⟨.ofDocuments limit docs, env⟩) cs cs' ∧
      scores = namedScores ⟨.ofDocuments 0 docs, env.defaultField, doc⟩ names cs' := by
  obtain ⟨p, prepared, found⟩ := bind_eq_ok found
  obtain ⟨cs', same, features⟩ := prepare_multi noRaw prepared
  have typed := scoring_typed noRaw prepared
  rw [same] at found typed
  have told := (featureScores_ofDocuments numbered typed doc).symm.trans found
  split at told
  · next inside =>
    obtain ⟨_, _, told⟩ := bind_eq_ok told
    cases told
    refine ⟨?_, cs', features, rfl⟩
    rintro rfl
    cases inside
  · cases told

/-- The feature score of a query alone is what it scores as a feature among others. -/
lemma features_single {name : String} {c c' : Query R} {doc : Nat} {part : List (String × R)}
    (numbered : docs.length ≤ noMoreDocs) (noRaw : c.NoRaw)
    (feature : Feature ⟨.ofDocuments limit docs, env⟩ c c')
    (found : features ⟨.ofDocuments limit docs, env⟩ (.join (.multi [name]) [c]) doc = .ok part) :
    part = namedScores ⟨.ofDocuments 0 docs, env.defaultField, doc⟩ [name] [c'] := by
  have noRaw : NoRaw (.join (.multi [name]) [c]) :=
    noRaw_join (List.forall_mem_singleton.mpr noRaw)
  obtain ⟨some_, cs', prepared, rfl⟩ := features_multi numbered noRaw found
  cases prepared with
  | cons feature' none =>
    cases none
    have same := score_congr (feature'.unique numbered some_ feature)
    exact congrArg (fun x => [(name, x)]) (same _ _)

/-- Feature scores do not depend on their siblings. The scores that a document has under several
named queries are, bit by bit and in order, those that it has under each alone, whether or not it
matches any of them. This is so for queries that have no part in the words of the index, wherever
there are such scores at all. -/
theorem features_siblings {named : List (String × Query R)} {doc : Nat} {scores : List (String × R)}
    {parts : List (List (String × R))} (numbered : docs.length ≤ noMoreDocs)
    (noRaw : ∀ p ∈ named, p.2.NoRaw)
    (together : features ⟨.ofDocuments limit docs, env⟩
      (.join (.multi (named.map Prod.fst)) (named.map Prod.snd)) doc = .ok scores)
    (alone : List.Forall₂ (fun p part => features ⟨.ofDocuments limit docs, env⟩
      (.join (.multi [p.1]) [p.2]) doc = .ok part) named parts) :
    scores = parts.flatten ∧ List.Forall₂ (fun p part => ∃ x, part = [(p.1, x)]) named parts := by
  have noRaw' : NoRaw (.join (.multi (named.map Prod.fst)) (named.map Prod.snd)) :=
    noRaw_join (List.forall_mem_map.mpr noRaw)
  obtain ⟨_, cs', prepared, rfl⟩ := features_multi numbered noRaw' together
  clear together noRaw'
  induction alone generalizing cs' with
  | nil =>
    cases prepared
    exact ⟨rfl, .nil⟩
  | cons first _ ih =>
    obtain ⟨here, rest⟩ := List.forall_mem_cons.mp noRaw
    cases prepared with
    | cons feature others =>
      obtain ⟨same, single⟩ := ih rest _ others
      have part := features_single numbered here feature first
      constructor
      · rw [part, List.flatten_cons, ← same]
        rfl
      · exact .cons ⟨_, part⟩ single

/-- Four features of a document that does not have the term that three of them share, one for its
documents and two for its counts. -/
theorem features_siblings_shared :
    let docs : List Document := [⟨"d0", [("body", "a b a")]⟩, ⟨"d1", [("body", "b")]⟩]
    let e : Searcher Float := ⟨.ofDocuments (some 1) docs, .usual⟩
    let a : Query Float := .term "a"
    let scored (c : Query Float) : Query Float := .modify (.scorer (.dirichlet none) none) c
    let named : List (String × Query Float) := [("counted", scored a),
      ("present", .modify (.boolToScore 1 0) a), ("other", .modify .countToScore (.term "b")),
      ("anywhere", scored (.modify .alwaysMatch a))]
    docs.length ≤ noMoreDocs ∧ (∀ p ∈ named, p.2.NoRaw) ∧ ∃ scores parts,
      e.features (.join (.multi (named.map Prod.fst)) (named.map Prod.snd)) 1 = .ok scores ∧
      List.Forall₂ (fun p part => e.features (.join (.multi [p.1]) [p.2]) 1 = .ok part)
        named parts ∧
      scores = parts.flatten ∧ List.Forall₂ (fun p part => ∃ x, part = [(p.1, x)]) named parts := by
  intro docs e a scored named
  have noRaw : ∀ p ∈ named, p.2.NoRaw := by
    simp [named, scored, a, NoRaw, Query.term, nodes]
  have together :
      (e.features (.join (.multi (named.map Prod.fst)) (named.map Prod.snd)) 1).isOk = true := by
    decide +kernel
  obtain ⟨scores, together⟩ := exists_of_isOk together
  have alone : ∀ p ∈ named, (e.features (.join (.multi [p.1]) [p.2]) 1).isOk = true := by
    decide +kernel
  obtain ⟨parts, alone⟩ := exists_mapM_eq_ok fun p mem => exists_of_isOk (alone p mem)
  have alone := forall₂_of_mapM alone
  exact ⟨by decide, noRaw, scores, parts, together, alone,
    features_siblings (by decide) noRaw together alone⟩

end Searcher

end Retrieval
