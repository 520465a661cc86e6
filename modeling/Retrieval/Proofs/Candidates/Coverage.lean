import Retrieval.Proofs.Candidates.Completeness
import Retrieval.Proofs.Evaluation.History

/-!
# Candidates cover what matches

The walk of a candidate query visits every document that the compiled query matches, whether or not
the candidate query is simplified (`Query.candidates_cover`). This holds for queries of every shape,
as long as no operator in them matches for want of children. A conjunction without children does:
compiled it matches every document, but its walk visits none (`Query.not_covers_empty_and`).
-/

namespace Retrieval

/-! ## The documents that a walk visits -/

namespace Walk

/-- The documents that a walk goes through from a target on, one after the other. -/
def visits (target : Nat) (w : Walk) : List Nat :=
  let w := w.next target
  if noMoreDocs ≤ w.doc ∨ noMoreDocs ≤ target then []
  else w.doc :: visits (max target w.doc + 1) w
termination_by noMoreDocs - target

/-- A sound walk visits the documents that it offers. -/
theorem Sound.mem_visits {w : Walk} (sound : w.Sound) {target d : Nat} :
    d ∈ w.visits target ↔ target ≤ d ∧ w.Offers d := by
  induction target, w using Walk.visits.induct with
  | case1 target w w' last =>
    rw [visits, if_pos last]
    refine ⟨nofun, fun ⟨le, offers⟩ => ?_⟩
    have ahead := (sound.next target).bounds ((sound.offers_next target d).mpr ⟨le, offers⟩)
    have : noMoreDocs ≤ (w.next target).doc ∨ noMoreDocs ≤ target := last
    omega
  | case2 target w w' more ih =>
    have on := (sound.next target).offers_doc.resolve_left fun used => more (.inl used.ge)
    obtain ⟨le, here⟩ := (sound.offers_next target _).mp on
    rw [visits, if_neg more, List.mem_cons]
    rw [Nat.max_eq_right le] at ih ⊢
    rw [ih (sound.next target), sound.offers_next target d]
    constructor
    · rintro (rfl | ⟨_, offers⟩)
      · exact ⟨le, here⟩
      · exact offers
    · rintro ⟨le', offers⟩
      -- the walk has been taken to the first of the documents that it offers from the target on
      have first := ((sound.next target).bounds ((sound.offers_next target d).mpr ⟨le', offers⟩)).1
      rcases first.eq_or_lt with same | after
      · exact .inl same.symm
      · exact .inr ⟨after, le', offers⟩

end Walk

namespace Query

variable {R : Type} [Scalar R] {segment : Segment} {q : Query R}

/-! ## Coverage -/

/-- The query can be run in the segment, and its walk visits every document that the tree matches,
whatever was asked of the tree before. -/
def Covers (segment : Segment) (t : Tree R) (q : Query R) : Prop :=
  ∃ w, Walk.ofQuery segment q = .ok w ∧
    ∀ calls doc, Tree.placeAfter none calls = some doc → doc < segment.size →
      (t.after calls).matched.1 = .ok true → doc ∈ w.visits 0

/-- A query that finds whatever a meaning matches covers the trees with this meaning. -/
lemma covers_of_finds (indexed : segment.Indexed) {σ : Setting} {o : Origin} {b : Answers R Reading}
    {t : Tree R} {candidates : Query R} (compiled : t.Compiled σ o q) (stands : t.Stands o none)
    (meant : σ.meaning q = .ok b) (runs : Runs segment candidates)
    (finds : ∀ d < segment.size, b.matched d = .ok true → Finds segment candidates d) :
    candidates.Covers segment t := by
  obtain ⟨w, walked⟩ := runs
  refine ⟨w, walked, fun calls doc here inside yes => ?_⟩
  obtain ⟨compiled', stands'⟩ := compiled.after stands calls
  obtain ⟨b', meant', agree⟩ := compiled'.agree
  cases meant.symm.trans meant'
  have answer : (t.after calls).matched.1 = b.matched ((Tree.placeAfter none calls).getD 0) :=
    (stands'.ask agree.matched).1
  rw [here] at answer
  have found := finds doc inside (answer.symm.trans yes)
  have sound := (Walk.Fits.ofQuery indexed candidates walked).sound
  exact sound.mem_visits.mpr ⟨Nat.zero_le doc, (finds_iff walked).mp found⟩

/-- The candidates of a query cover its compiled trees, as they stand and simplified in any number
of passes, unless an operator in the query matches for want of children. -/
theorem candidates_cover {base : Nat} {docs : List Document} {defaultField : String} {share : Bool}
    {t : Tree R} (numbered : docs.length ≤ noMoreDocs) (filled : q.Filled)
    (compiled : Session.tree (.ofDocuments base docs) defaultField share q = .ok t) :
    q.candidates.Covers (.ofDocuments base docs) t ∧
      ∀ passes, 1 ≤ passes → ∃ simple, q.simpleCandidates passes = .ok simple ∧
        simple.Covers (.ofDocuments base docs) t := by
  have indexed : (Segment.ofDocuments base docs).Indexed := ⟨⟨docs, rfl⟩, numbered⟩
  obtain ⟨σ, o, t', segment, _, _, tree_eq, compiled', stands⟩ | ⟨e, _, failed⟩ :=
    Session.tree_spec (.ofDocuments base docs) defaultField share q
  · cases compiled.symm.trans tree_eq
    obtain ⟨b, meant, _⟩ := compiled'.agree
    rw [← segment] at indexed ⊢
    obtain ⟨runs, finds⟩ := Setting.meaning_offered indexed q meant
    refine ⟨covers_of_finds indexed compiled' stands meant runs (finds filled),
      fun passes some_ => ?_⟩
    have simple := simplify_eq_pass (candidates_boolean q) some_
    have widens := simplify_widens indexed simple
    refine ⟨_, simple, covers_of_finds indexed compiled' stands meant (widens.runs runs) ?_⟩
    exact fun d inside yes => widens.finds d (finds filled d inside yes)
  · cases compiled.symm.trans failed

/-- A raw query that is required of a phrase, in the second of two documents. -/
theorem candidates_cover_phrase :
    let docs : List Document := [⟨"d0", [("body", "a")]⟩, ⟨"d1", [("body", "a b")]⟩]
    let term (text : String) : Query Float :=
      .leaf (.term { text, field := some "body", needed := .positions })
    let q : Query Float :=
      .require (.leaf (.raw "body:b")) (.join (.orderedWindow 1) [term "a", term "b"])
    q.Filled ∧ ∃ t, Session.tree (.ofDocuments 0 docs) "body" true q = .ok t ∧
      q.candidates.Covers (.ofDocuments 0 docs) t ∧
        ∀ passes, 1 ≤ passes → ∃ simple, q.simpleCandidates passes = .ok simple ∧
          simple.Covers (.ofDocuments 0 docs) t := by
  intro docs term q
  have filled : q.Filled := by
    intro op vacuous empty
    simp [q, term, nodes, nodesAll] at empty
  have compiles : (Session.tree (.ofDocuments 0 docs) "body" true q).isOk = true := by
    decide +kernel
  obtain ⟨t, compiled⟩ := exists_of_isOk compiles
  exact ⟨filled, t, compiled, candidates_cover (by decide) filled compiled⟩

/-- A conjunction without children matches a document that its walk does not visit. -/
theorem not_covers_empty_and :
    let docs : List Document := [⟨"d0", [("body", "a")]⟩]
    ∃ t, Session.tree (.ofDocuments 0 docs) "body" true (.and [] : Query Float) = .ok t ∧
      ¬(and [] : Query Float).candidates.Covers (.ofDocuments 0 docs) t := by
  intro docs
  refine ⟨⟨.ofDocuments 0 docs, .join .and [], {}⟩, rfl, fun ⟨w, walked, visits⟩ => ?_⟩
  cases walked
  have visited := visits [.moveTo 0] 0 rfl Nat.one_pos (by decide +kernel)
  obtain ⟨sound, offers⟩ := Walk.all_spec (List.forall_mem_nil Walk.Sound)
  exact ((offers 0).mp (sound.mem_visits.mp visited).2).1 rfl

end Query

end Retrieval
