import Retrieval.Proofs.Evaluation.Explanations
import Retrieval.Proofs.Ranking.Prefixes

/-!
# Explanations agree with ranking

A document that is explained is explained as the tree has it that a search evaluates: it matches
there or not, has its score there, and every node of the trace matches if the node that it explains
does (`Searcher.explain_agrees`). Nothing that was asked of the tree before makes a difference, so a
hit of a search is explained as a match with its score.
-/

namespace Retrieval

namespace Query

variable {R : Type}

lemma onlyCounts_unmarked (q : Query R) : q.unmarked.onlyCounts = q.onlyCounts := by
  cases q with
  | leaf l => cases l <;> rfl
  | join op cs => cases op <;> rfl
  | _ => rfl

lemma hasScore_unmarked (need : Need) (q : Query R) :
    HasScore need q.unmarked ↔ HasScore need q := by
  rw [HasScore, HasScore, onlyCounts_unmarked]

end Query

/-- A tree that can be moved to a document stands there after being called to move. -/
lemma Tree.after_moveTo {R : Type} [Scalar R] {t t' : Tree R} {d : Nat}
    (moved : t.moveTo d = .ok t') : t.after [.moveTo d] = t' := by
  rw [after, after, call, moved]

namespace Searcher

open Query

variable {R : Type} [Scalar R] {e : Searcher R} {p : Prepared R} {segment : Segment} {q : Query R}

/-- Measuring leaves nodes that are asked for scores with scores. -/
lemma measure_carries_score :
    Carries (HasScore (R := R)) HasScore .ok e.measureModifier where
  leaf := by
    rintro n l _ scored ⟨rfl⟩
    exact scored
  modify := by
    intro n m c m' c' _ _ inner changed
    refine ⟨fun _ => rfl, ?_⟩
    obtain ⟨model, stats, rfl, _, rfl⟩ | ⟨_, rfl⟩ := measureModifier_cases changed <;> exact inner
  join := by
    intro n op cs cs' scored _ asked
    have only := scored asked
    cases op <;> exact only
  require := fun _ _ => rfl

/-- In a query that is prepared for ranking, what is asked for scores has scores. -/
lemma scoring_hasScore (prepared : e.prepare q = .ok p) :
    p.scoring.Everywhere HasScore .scores := by
  obtain ⟨_, _, simple, typed, _, _, _, inferred, measured, _⟩ := prepareFor_steps prepared
  have fit := exists_infer_iff.mp ⟨typed, inferred⟩
  have simple_ : simple.Everywhere HasScore .scores := fit.mono fun _ _ fit => fit.admits.scored
  exact (simple_.infer hasScore_unmarked inferred).rebuild measure_carries_score measured

/-- The explanation of a document is read off what the scoring query means in it. -/
lemma explain_read {d here : Nat} {fresh : Tree R} (prepared : e.prepare q = .ok p)
    (located : e.collection.locate d = .ok (segment, here))
    (compiled : e.compile segment p.scoring = .ok fresh) :
    ∃ σ o b, σ.segment = segment ∧ σ.overflow = .never ∧ fresh.Compiled σ o p.scoring ∧
      fresh.Stands o none ∧ σ.meaning p.scoring = .ok b ∧ e.explain q d = b.explain here := by
  obtain ⟨σ, o, _, same, unbounded, _, tree_eq, compiled', stands⟩ | ⟨_, _, failed⟩ :=
    Session.tree_spec segment e.env.defaultField e.env.shareCursors p.scoring
  · cases compiled.symm.trans tree_eq
    obtain ⟨b, meant, agree⟩ := compiled'.agree
    have free : (none : Option Nat).all (· ≤ here) = true := rfl
    obtain ⟨t, moved, unchanged, stands'⟩ := stands.moveTo_ok free
    refine ⟨σ, o, b, same, unbounded, compiled', stands, meant, ?_⟩
    rw [explain, prepared]
    show (do (← e.treeAt p.scoring d).explain.1) = _
    rw [treeAt_eq located, compiled]
    show (do (← fresh.moveTo here).explain.1) = _
    rw [moved]
    exact (stands'.ask (unchanged ▸ agree).explain).1
  · cases compiled.symm.trans failed

/-- A document that is explained is in a segment that the scoring query is compiled for, and however
a tree that is compiled for it comes to stand there, it is as the explanation says. -/
lemma explained_tree {d : Nat} {x : Explanation R} (explained : e.explain q d = .ok x) :
    ∃ p segment here fresh, e.prepare q = .ok p ∧ e.collection.locate d = .ok (segment, here) ∧
      e.compile segment p.scoring = .ok fresh ∧
      ∀ calls, Tree.placeAfter none calls = some here → (fresh.after calls).Explained x := by
  obtain ⟨p, prepared, set⟩ := bind_eq_ok explained
  obtain ⟨t, set, _⟩ := bind_eq_ok set
  obtain ⟨⟨segment, here⟩, located, set⟩ := bind_eq_ok set
  obtain ⟨fresh, compiled, _⟩ := bind_eq_ok set
  refine ⟨p, segment, here, fresh, prepared, located, compiled, fun calls leads => ?_⟩
  obtain ⟨σ, o, b, _, _, compiled', stands, meant, read⟩ := explain_read prepared located compiled
  obtain ⟨after, standing⟩ := compiled'.after stands calls
  rw [leads] at standing
  exact after.explained standing meant (scoring_hasScore prepared) (read.symm.trans explained)

variable {limit : Option Nat} {docs : List Document}

/-- A hit of a search is one that its segment lists. -/
lemma exists_listed [Std.TransCmp (Scalar.order : R → R → Ordering)] {k : Nat} {r : Results R}
    {found : Segment → List (Hit R)} (collected : e.collection = .ofDocuments limit docs)
    (lists : ∀ s ∈ e.collection.segments, e.Lists p s (found s)) (best_eq : e.best p k = .ok r)
    {h : NamedHit R} (mem : h ∈ r.hits) :
    ∃ s ∈ e.collection.segments, ∃ g ∈ found s, g.doc = h.doc ∧ g.score = h.score := by
  cases best_eq.symm.trans (best_of_lists collected lists k)
  obtain ⟨g, kept, rfl⟩ := List.mem_map.mp mem
  have met := (Hit.ranking_perm _).mem_iff.mp (List.mem_of_mem_take kept)
  obtain ⟨_, hits, listed⟩ := List.mem_flatten.mp met
  obtain ⟨s, within, rfl⟩ := List.mem_map.mp hits
  exact ⟨s, within, g, listed, rfl, rfl⟩

/-- An explanation agrees with ranking. The document has a tree of the scoring query that a search
evaluates too, and whatever was asked of that tree before it came to the document, it matches there
as the explanation says and has the value of the explanation as its score; every node of the trace
matches as the node of the tree that it explains. So where a search has the document among its
hits, it is explained as a match, with the score of the hit for its value. Documents are numbered
below the end that `noMoreDocs` marks. -/
theorem explain_agrees [Std.TransCmp (Scalar.order : R → R → Ordering)] {env : Environment R}
    {d : Nat} {x : Explanation R} (numbered : docs.length ≤ noMoreDocs)
    (explained : explain ⟨.ofDocuments limit docs, env⟩ q d = .ok x) :
    let e : Searcher R := ⟨.ofDocuments limit docs, env⟩
    (∃ p segment here fresh, e.prepare q = .ok p ∧ e.collection.locate d = .ok (segment, here) ∧
      e.compile segment p.scoring = .ok fresh ∧
      ∀ calls, Tree.placeAfter none calls = some here → (fresh.after calls).Explained x) ∧
    ∀ k r, e.search q k = .ok r → ∀ h ∈ r.hits, h.doc = d →
      x.matched = true ∧ x.value = h.score := by
  intro e
  have tree := explained_tree explained
  refine ⟨tree, fun k r searched h mem same => ?_⟩
  subst same
  obtain ⟨p, prepared, best_eq, found, lists⟩ := lists_of_search rfl numbered searched
  obtain ⟨s, within, g, listed, doc, score⟩ := exists_listed rfl lists best_eq mem
  obtain ⟨p', segment, here, fresh, prepared', located, compiled, agrees⟩ := tree
  cases prepared.symm.trans prepared'
  obtain ⟨le, lt⟩ := (lists s within).inside g listed
  cases located.symm.trans (doc ▸ Collection.locate_of_mem within le lt)
  -- the tree that the hit was scored by is the one that is moved to its document at once
  obtain ⟨t, set, hit⟩ := (lists s within).matched g listed
  obtain ⟨t', set', value⟩ := (lists s within).scored g listed
  cases set.symm.trans set'
  rw [compiled, doc] at set
  have told := agrees [.moveTo (h.doc - s.base)] rfl
  rw [Tree.after_moveTo set] at told
  have hit' := told.matched.symm.trans hit
  have value' := told.value.symm.trans value
  exact ⟨Except.ok.inj hit', (Except.ok.inj value').trans score⟩

/-- A greatest score over a weighted count, explained in the document that a search finds by it. -/
theorem explain_agrees_max :
    let docs : List Document := [⟨"d0", [("body", "a b a")]⟩, ⟨"d1", [("body", "b")]⟩]
    let e : Searcher Float := ⟨.ofDocuments (some 1) docs, .usual⟩
    let q : Query Float := .join .max [.modify (.weight 0.5) (.modify .countToScore (.term "a"))]
    ∃ x r, e.explain q 0 = .ok x ∧ e.search q 1 = .ok r ∧ r.hits.map NamedHit.doc = [0] ∧
      ∀ h ∈ r.hits, h.doc = 0 → x.matched = true ∧ x.value = h.score := by
  intro docs e q
  have explains : (e.explain q 0).isOk = true := by decide +kernel
  have searches : (e.search q 1).map (fun r => r.hits.map NamedHit.doc) = .ok [0] := by
    decide +kernel
  obtain ⟨x, explained⟩ := exists_of_isOk explains
  cases searched : e.search q 1 with
  | error fault =>
    rw [searched] at searches
    cases searches
  | ok r =>
    rw [searched] at searches
    injection searches with found
    exact ⟨x, r, explained, rfl, found, (explain_agrees (by decide) explained).2 1 r searched⟩

end Searcher

end Retrieval
