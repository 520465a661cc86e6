import Retrieval.Proofs.Candidates.Completeness
import Retrieval.Proofs.Candidates.Scan
import Retrieval.Proofs.Evaluation.Adequacy
import Retrieval.Proofs.Ranking.Preparation

/-!
# What a fold over a segment visits

A fold over a segment fails where the query has no meaning there, and otherwise goes through the
documents that the candidates find and the query matches, in rising order
(`Searcher.foldSegment_eq`). Counting, tallying and scoring a document come down to the facts and
the score of the query there (`Searcher.visits_count`, `Searcher.visits_tally`,
`Searcher.visits_collectHit`), so the outcome does not depend on how a tree shares its cursors, nor
on where they have been.
-/

namespace Retrieval

variable {R : Type} [Scalar R]

/-- A call that answers in a document of the segment, and answers as `a` says, gives `a`. -/
lemma Tree.Follows.ask_eq {α : Type} {o : Origin} {b : Answers R Reading} {t : Tree R}
    {question : Behaviour R → Eval α} {reading : Reading α} {d : Nat} {a : α}
    (follows : t.Follows o b (some d)) (agree : Agrees o (question t.behaviour) reading)
    (there : Succeeds False d reading) (told : Says reading d a) :
    ∃ t', t.ask question = (.ok a, t') ∧ t'.Follows o b (some d) := by
  obtain ⟨answer, follows'⟩ := follows.ask agree
  obtain ⟨x, read⟩ := there.exists_ok id
  cases told x read
  exact ⟨_, Prod.ext (answer.trans read) rfl, follows'⟩

namespace Searcher

open Query

/-! ## Documents -/

/-- The candidates find the document, and the query matches it. -/
def Hits (segment : Segment) (defaultField : String) (scoring candidates : Query R) (d : Nat) :
    Prop :=
  Finds segment candidates d ∧ (scoring.facts ⟨segment, defaultField, d⟩).matched = true

open Classical in
noncomputable def isHit (segment : Segment) (defaultField : String) (scoring candidates : Query R)
    (d : Nat) : Bool :=
  decide (Hits segment defaultField scoring candidates d)

/-- The documents of a segment that are hit, in rising order. -/
noncomputable def hitList (segment : Segment) (defaultField : String)
    (scoring candidates : Query R) : List Nat :=
  Scan.hitsFrom (isHit segment defaultField scoring candidates) segment.size 0

section Documents

variable {segment : Segment} {defaultField : String} {scoring candidates : Query R} {d : Nat}

lemma isHit_iff : isHit segment defaultField scoring candidates d = true ↔
    Hits segment defaultField scoring candidates d := by
  classical
  exact decide_eq_true_iff

lemma mem_hitList : d ∈ hitList segment defaultField scoring candidates ↔
    d < segment.size ∧ Hits segment defaultField scoring candidates d := by
  rw [hitList, Scan.mem_hitsFrom, isHit_iff, and_iff_right (Nat.zero_le d)]

end Documents

/-! ## One segment -/

variable {e : Searcher R} {scoring candidates : Query R} {segment : Segment} {defaultField : String}
  {need : Need}

/-- The candidates of a prepared query find whatever those of its scoring query find. -/
lemma candidates_widen {p : Prepared R} (indexed : segment.Indexed) (made : Made e.env p) :
    Widens segment p.scoring.candidates p.candidates := by
  rcases made with same | simple
  · exact same ▸ .refl _
  · exact simplify_widens indexed simple

/-- The answers of a query in a segment, of which it is known that they are there and what they
are. -/
structure Answered (segment : Segment) (defaultField : String) (scoring : Query R) (need : Need)
    (b : Answers R Reading) : Prop where
  gives : ∀ d < segment.size, b.Gives False d need
  tells : ∀ d, let spot : Spot := ⟨segment, defaultField, d⟩
    b.Tells d (scoring.facts spot) (scoring.score spot.rate spot)

/-- A document of the segment is matched or not. -/
lemma Answered.matched {b : Answers R Reading}
    (answered : Answered segment defaultField scoring need b) {d : Nat} (inside : d < segment.size) :
    b.matched d = .ok (scoring.facts ⟨segment, defaultField, d⟩).matched := by
  obtain ⟨hit, told⟩ := (answered.gives d inside).matched.exists_ok id
  rw [told, (answered.tells d).matched hit told]

/-- What a typed query means in a segment is known, and where it matches candidates are offered. -/
lemma answered_of_meaning {b : Answers R Reading} (indexed : segment.Indexed)
    (typed : scoring.Typed need) (meant : scoring.meaning segment defaultField = .ok b) :
    Answered segment defaultField scoring need b ∧ Offered segment scoring b := by
  obtain ⟨registered, _, meant⟩ := bind_eq_ok meant
  let σ : Setting := ⟨segment, defaultField, registered, .never⟩
  have stops : σ.overflow ≠ .stops := nofun
  have exact_ : σ.overflow ≠ .wraps := nofun
  have offered : Offered σ.segment scoring b := Setting.meaning_offered indexed scoring meant
  exact ⟨⟨fun _ inside => Setting.meaning_gives_unless typed meant inside stops,
    fun d => Setting.meaning_tells exact_ scoring meant⟩, offered⟩

/-- If no operator matches for want of children, the documents that match are hit. -/
lemma hits_iff {b : Answers R Reading} {d : Nat} (indexed : segment.Indexed)
    (typed : scoring.Typed need) (widens : Widens segment scoring.candidates candidates)
    (meant : scoring.meaning segment defaultField = .ok b) (filled : scoring.Filled)
    (inside : d < segment.size) : Hits segment defaultField scoring candidates d ↔
      (scoring.facts ⟨segment, defaultField, d⟩).matched = true := by
  obtain ⟨answered, offered⟩ := answered_of_meaning indexed typed meant
  refine and_iff_right_of_imp fun yes => widens.finds d (offered.finds filled d inside ?_)
  rw [answered.matched inside, yes]

/-- A scan that has just begun is going to visit the documents that are hit. -/
structure Begun (e : Searcher R) (scoring candidates : Query R) (need : Need) (segment : Segment)
    (o : Origin) (b : Answers R Reading) (s : Scan R) : Prop where
  scan : e.scan segment scoring candidates = .ok s
  poised : s.Poised o b (isHit segment e.env.defaultField scoring candidates) segment.size 0
  compiled : e.compile segment scoring = .ok s.tree
  follows : s.tree.Follows o b none
  answered : Answered segment e.env.defaultField scoring need b

/-- The scan of a segment begins if the query has a meaning there, and fails as it does if not. -/
lemma scan_spec (indexed : segment.Indexed) (typed : scoring.Typed need)
    (widens : Widens segment scoring.candidates candidates) :
    (∃ o b s, scoring.meaning segment e.env.defaultField = .ok b ∧
      e.Begun scoring candidates need segment o b s) ∨
    ∃ fault, scoring.meaning segment e.env.defaultField = .error fault ∧
      e.compile segment scoring = .error fault := by
  obtain ⟨σ, o, t, rfl, unbounded, means, compiled, compiled', stands⟩ | ⟨fault, failed, failed'⟩ :=
    Session.tree_spec segment e.env.defaultField e.env.shareCursors scoring
  · obtain ⟨b, meant, agree⟩ := compiled'.agree
    replace compiled : e.compile σ.segment scoring = .ok t := compiled
    replace meant := means.trans meant
    have follows : t.Follows o b none := ⟨agree, stands⟩
    obtain ⟨answered, offered⟩ := answered_of_meaning indexed typed meant
    obtain ⟨w, walked⟩ := widens.runs offered.runs
    have fits := Walk.Fits.ofQuery indexed candidates walked
    refine .inl ⟨o, b, { walk := w, tree := t }, meant, ?_, ⟨fits.sound, fits.inside,
      fun d _ _ yes => ?_, fun d offers => ?_, none, follows, rfl⟩, compiled, follows, answered⟩
    · rw [scan, compiled, walked]
      rfl
    · exact (finds_iff walked).mp (isHit_iff.mp yes).1
    · have finds := (finds_iff walked).mpr offers
      rw [answered.matched (fits.inside d offers)]
      simp [isHit, Hits, finds]
  · exact .inr ⟨fault, failed, failed'⟩

/-- On a tree that is on a document of the segment and answers as the query does, visiting does what
the step does. -/
def Visits (segment : Segment) (defaultField : String) (scoring : Query R) (need : Need) {σ : Type}
    (visit : σ → Nat → Tree R → Except Fault (σ × Tree R)) (step : σ → Nat → Except Fault σ) :
    Prop :=
  ∀ (o : Origin) (b : Answers R Reading) (acc : σ) (d : Nat) (tree : Tree R), d < segment.size →
    tree.Follows o b (some d) → Answered segment defaultField scoring need b →
    (∃ acc' tree', visit acc d tree = .ok (acc', tree') ∧ step acc d = .ok acc' ∧
      tree'.Follows o b (some d)) ∨
    ∃ fault, visit acc d tree = .error fault ∧ step acc d = .error fault

/-- A fold over a segment goes through the documents that are hit, if the query has a meaning there.
-/
theorem foldSegment_eq {σ : Type} {visit : σ → Nat → Tree R → Except Fault (σ × Tree R)}
    {step : σ → Nat → Except Fault σ} (indexed : segment.Indexed) (typed : scoring.Typed need)
    (widens : Widens segment scoring.candidates candidates)
    (visits : Visits segment e.env.defaultField scoring need visit step) (acc : σ) :
    e.foldSegment scoring candidates visit acc segment =
      scoring.meaning segment e.env.defaultField >>= fun _ =>
        (hitList segment e.env.defaultField scoring candidates).foldlM step acc := by
  obtain ⟨o, b, s, meant, begun⟩ | ⟨fault, failed, failed'⟩ :=
    scan_spec (e := e) indexed typed widens
  · rw [foldSegment, begun.scan, meant]
    change s.drain visit acc 0 = List.foldlM step acc (hitList ..)
    apply Scan.Poised.drain indexed.fits _ _ begun.poised
    intro acc d tree inside _ follows
    exact visits o b acc d tree inside follows begun.answered
  · rw [foldSegment, scan, failed, failed']
    rfl

/-! ## Visitors -/

/-- Adds the count of a query in a document to collection and document frequency. -/
def tallyFacts (f : Facts) (acc : Nat × Nat) : Nat × Nat :=
  if 0 < f.count then (acc.1 + f.count, acc.2 + 1) else acc

lemma visits_count : Visits segment defaultField scoring need
    (fun n _ tree => .ok (n + 1, tree)) fun n _ => .ok (n + 1) :=
  fun _ _ _ _ _ _ follows _ => .inl ⟨_, _, rfl, rfl, follows⟩

lemma visits_tally : Visits segment defaultField scoring .counts tally
    fun acc d => .ok (tallyFacts (scoring.facts ⟨segment, defaultField, d⟩) acc) := by
  intro o b acc d tree inside follows answered
  obtain ⟨tree', asked, follows'⟩ := follows.ask_eq follows.agree.count
    ((answered.gives d inside).count (.inl rfl)) (answered.tells d).count
  have asked : tree.count = _ := asked
  refine .inl ⟨_, tree', ?_, rfl, follows'⟩
  rw [tally, asked]
  rfl

/-- What is measured of a query that is counted is the sum over its hits. -/
lemma measured_eq {q : Query R} (indexed : ∀ s ∈ e.collection.segments, s.Indexed)
    (typed : q.Typed .counts) : e.measured q = do
      let field ← q.onlyCountedField e.env.defaultField
      let known ← e.collection.knownField field
      let counts ← e.collection.segments.mapM fun s =>
        q.meaning s e.env.defaultField >>= fun _ =>
          (hitList s e.env.defaultField q q.candidates).foldlM
            (fun acc d => .ok (tallyFacts (q.facts ⟨s, e.env.defaultField, d⟩) acc)) (0, 0)
      return ⟨q.display, addUp (counts.map (·.1)), addUp (counts.map (·.2)), known.cl, known.dc⟩ := by
  rw [measured, mapM_congr fun s mem =>
    foldSegment_eq (indexed s mem) typed (.refl _) visits_tally (0, 0)]

end Searcher

end Retrieval
