import Retrieval.Proofs.Ranking.Search

/-!
# Feature scores

The feature scores of a document are the scores that the children of a multi query give it, under
their names (`Searcher.featureScores_eq`). They are read off the children of a compiled tree, which
answer as the children mean (`Session.Compiled.agreeAll`).
-/

namespace Retrieval

variable {R : Type} [Scalar R]

namespace Session

variable {σ : Setting} {o : Origin} {cs : List (Query R)} {ps : List (Plan R)}
  {bs : List (Answers R Reading)}

/-- Queries that are compiled together answer as they mean. -/
lemma Compiled.agreeAll (compiled : List.Forall₂ (Compiled σ o.cursors) cs ps)
    (meant : σ.meanings cs = .ok bs) (once : (o.searches.map Prod.fst).Nodup)
    (overflow : σ.overflow = o.overflow)
    (known : Plan.searchesAll σ.segment o.access ps ⊆ o.searches) :
    Answers.AgreeAll o (Plan.behaviours σ.segment ps) bs := by
  have reads : Plan.answersAll o.access σ.segment ps = bs := by
    rw [Origin.access, ← overflow]
    clear known
    induction compiled generalizing bs with
    | nil =>
      cases meant
      rfl
    | cons first _ ih =>
      obtain ⟨b, meant', meant⟩ := bind_eq_ok meant
      obtain ⟨bs, rest, meant⟩ := bind_eq_ok meant
      cases meant
      obtain ⟨b', meant'', reads⟩ := first.reads
      cases meant'.symm.trans meant''
      rw [Plan.answersAll, ih rest, ← reads, Setting.access]
  exact reads ▸ Plan.agreeAll σ.segment once ps known

/-- What a multi query is compiled to keeps its names. -/
lemma Compiled.multi {cursors : Array Postings} {names : List String} {p : Plan R}
    (compiled : Compiled σ cursors (.join (.multi names) cs) p) :
    ∃ ps, p = .join (.multi names) ps := by
  obtain ⟨s, s', _, _, _, ran, _⟩ := compiled
  obtain ⟨_, _, _, ran⟩ := run_bind_eq_ok ran
  obtain ⟨ps, _, _, ran⟩ := run_bind_eq_ok ran
  obtain ⟨j, s'', ranJoint, ran⟩ := run_bind_eq_ok ran
  cases ran
  rw [joint] at ranJoint
  split at ranJoint
  · cases ranJoint
    exact ⟨ps, rfl⟩
  · cases ranJoint

end Session

namespace Searcher

open Query

variable {e : Searcher R} {segment : Segment} {defaultField : String} {names : List String}
  {cs : List (Query R)} {d : Nat}

/-- The scores of queries in a document, under their names. -/
def namedScores (spot : Spot) (names : List String) (cs : List (Query R)) : List (String × R) :=
  (names.zip cs).map fun p => (p.1, p.2.score spot.rate spot)

/-- A compiled multi query has the scores of its children. -/
lemma featureScores_eq {σ : Setting} {o : Origin} {t : Tree R}
    (unbounded : σ.overflow = .never) (compiled : t.Compiled σ o (.join (.multi names) cs))
    (stands : t.Stands o (some d))
    (typed : (Query.join (.multi names) cs).Typed .scores) (inside : d < σ.segment.size) :
    featureScores t = .ok (namedScores (σ.spot d) names cs) := by
  obtain ⟨ps, root⟩ := compiled.root.multi
  obtain ⟨_, meant, _⟩ := compiled.agree
  obtain ⟨_, _, meant⟩ := bind_eq_ok meant
  obtain ⟨bs, meant, _⟩ := bind_eq_ok meant
  have children := compiled.root.children
  have known := compiled.known
  rw [root] at children known
  rw [compiled.segment] at known
  have agree : Answers.AgreeAll o (Plan.behaviours t.segment ps) bs := by
    rw [compiled.segment]
    exact Session.Compiled.agreeAll children meant compiled.once compiled.overflow
      (List.append_subset.mp known).1
  -- the same is asked of the children and of what they mean
  let reading : Reading (List (String × R)) :=
    (names.zip bs).mapM fun p => do return (p.1, ← p.2.score)
  have same : List.Forall₂ Eq names names := List.forall₂_refl names
  have agrees : Agrees o ((names.zip (Plan.behaviours t.segment ps)).mapM fun p => do
      return (p.1, ← p.2.score)) reading := by
    refine .mapM (forall₂_zip_zip same agree) ?_
    rintro ⟨name, c⟩ ⟨_, b⟩ ⟨rfl, agree⟩
    exact .bind agree.score fun _ => .pure _
  have gives : Succeeds False d reading := by
    refine .mapM fun p mem => ?_
    obtain ⟨c, mem, meant⟩ := (Setting.mem_meanings meant).2.2 p.2 (List.of_mem_zip mem).2
    have typed : c.Typed .scores := by
      cases typed with
      | join _ _ typed => exact typed c mem
    have gives := Setting.meaning_gives_unless typed meant inside (Overflow.ne_stops unbounded)
    exact (gives.score rfl).bind fun _ => .pure _
  have told : Says reading d (namedScores (σ.spot d) names cs) := by
    have tells : List.Forall₂ (fun b (c : Query R) => b.Tells d (c.facts (σ.spot d))
        (c.score (σ.spot d).rate (σ.spot d))) bs cs :=
      Setting.meanings_tells (Overflow.ne_wraps unbounded) cs meant
    refine .mapM ((forall₂_zip_zip same tells).imp ?_)
    rintro ⟨name, b⟩ ⟨_, c⟩ ⟨rfl, tells⟩
    exact tells.score.bind (.pure _)
  obtain ⟨scores, read⟩ := gives.exists_ok id
  obtain ⟨answer, _⟩ : (t.ask fun _ => _).1 = reading d ∧ _ := stands.ask agrees
  rw [featureScores, root]
  exact answer.trans (read.trans (congrArg Except.ok (told scores read)))

/-- The feature scores of a document of a segment, if the query has a meaning there. -/
lemma compile_featureScores (typed : (Query.join (.multi names) cs).Typed .scores)
    (inside : d < segment.size) :
    (do featureScores (← (← e.compile segment (.join (.multi names) cs)).moveTo d)) =
      Query.meaning segment e.env.defaultField (.join (.multi names) cs) >>= fun _ =>
        .ok (namedScores ⟨segment, e.env.defaultField, d⟩ names cs) := by
  obtain ⟨known, o, t, registered, tree, compiled, stands⟩ | ⟨fault, failed, failed'⟩ :=
    Session.tree_compiled segment e.env.defaultField e.env.shareCursors (.join (.multi names) cs)
  · obtain ⟨b, meant, _⟩ := compiled.agree
    have free : (none : Option Nat).all (· ≤ d) = true := rfl
    obtain ⟨t', moved, _, stands⟩ := stands.moveTo_ok free
    replace compiled : t'.Compiled ⟨segment, e.env.defaultField, known, .never⟩ o
        (.join (.multi names) cs) := by
      have called := compiled.call (.moveTo d)
      rwa [Tree.call, moved] at called
    have means : Query.meaning segment e.env.defaultField (.join (.multi names) cs) = .ok b := by
      rw [Query.meaning, registered]
      exact meant
    have compiles : e.compile segment (.join (.multi names) cs) = .ok t := tree
    have scores := featureScores_eq rfl compiled stands typed inside
    rw [means, compiles]
    change (t.moveTo d >>= featureScores) = .ok _
    rw [moved]
    exact scores
  · have fails : e.compile segment (.join (.multi names) cs) = .error fault := failed'
    rw [fails, failed]
    rfl

end Searcher

end Retrieval
