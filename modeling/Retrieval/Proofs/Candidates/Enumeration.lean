import Retrieval.Proofs.Candidates.Moving
import Mathlib.Order.Bounds.Basic
import Mathlib.Data.Set.Basic

/-!
# Walks enumerate their sets

A course says how a walk is put together, and which documents it is meant to visit. The main
statement is `Course.walk_isFirst`: after calls with any targets, the next one takes the walk to the
first document of the course that is neither before its target nor before the document that the walk
is on.
-/

namespace Retrieval

/-- `doc` is the least document of `S` from `low` on, or `noMoreDocs` where there is none. -/
def IsFirst (S : Set Nat) (low doc : Nat) : Prop :=
  IsLeast {d | d ∈ S ∧ low ≤ d} doc ∨ doc = noMoreDocs ∧ ∀ d ∈ S, d < low

namespace Walk

/-- A sound walk is on the first document that it offers. -/
lemma Sound.isFirst {w : Walk} {S low} (h : Sound w) (offers : ∀ d, Offers w d ↔ d ∈ S ∧ low ≤ d) :
    IsFirst S low w.doc := by
  obtain used | on := h.offers_doc
  · refine .inr ⟨used, fun d mem => Nat.lt_of_not_le fun le => ?_⟩
    have := h.bounds ((offers d).mpr ⟨mem, le⟩)
    omega
  · exact .inl ⟨(offers _).mp on, fun d mem => (h.bounds ((offers d).mpr mem)).1⟩

/-! ## Fresh walks -/

lemma sound_ofSize {size} (fits : size ≤ noMoreDocs) : Sound (ofSize size) := by
  apply Sound.always fits
  split <;> omega

lemma offers_ofSize {size d} : Offers (ofSize size) d ↔ d < size := by
  constructor
  · intro o
    cases o with
    | always _ lt => exact lt
  · intro lt
    exact .always (by split <;> omega) lt

lemma sound_ofList {ids} (rise : ids.Pairwise (· < ·)) (real : ∀ d ∈ ids, d < noMoreDocs) :
    Sound (ofList ids) := .list rise real

lemma offers_ofList {ids d} : Offers (ofList ids) d ↔ d ∈ ids := by
  refine ⟨fun o => ?_, .list⟩
  cases o with
  | list mem => exact mem

lemma offers_term {p : Postings} {d} : Offers (.term p) d ↔ ∃ q ∈ p.rest, q.doc = d := by
  constructor
  · intro o
    cases o with
    | term mem => exact ⟨_, mem, rfl⟩
  · rintro ⟨q, mem, rfl⟩
    exact .term mem

/-- Every walk can be moved as deep as it is nested. -/
lemma next_reaches {n target m} (h : Within n m) : Reaches n target m (m.next target) where
  within := by
    have reach : Reaches (depth m) target m (m.next target) :=
      nextWithin_reaches ⟨h.sound, Nat.le_refl _⟩
    exact ⟨reach.within.sound, reach.within.depth_le.trans h.depth_le⟩
  offers_iff := h.sound.offers_next target

/-- A fresh conjunction is sound. Without members it is used up. -/
lemma all_spec {ms : List Walk} (h : ∀ m ∈ ms, Sound m) :
    Sound (all ms) ∧ ∀ d, Offers (all ms) d ↔ ms ≠ [] ∧ ∀ m ∈ ms, Offers m d := by
  have perm := List.mergeSort_perm ms fun a b => decide (a.estimate ≤ b.estimate)
  rw [all]
  -- the order of the members matters for the cost only
  generalize ms.mergeSort (fun a b => decide (a.estimate ≤ b.estimate)) = sorted at perm
  have same : ∀ P : Walk → Prop, (∀ m ∈ sorted, P m) ↔ ∀ m ∈ ms, P m := by
    intro P
    simp only [perm.mem_iff]
  simp only
  split
  · next cost =>
    have nil := List.nil_perm.mp perm
    refine ⟨.and (by simp) (.inl rfl), fun d => ⟨fun o => ?_, fun o => (o.1 nil).elim⟩⟩
    cases o with
    | and le lt _ => omega
  · next cost ne =>
    have ne' : ms ≠ [] := fun e => ne (List.perm_nil.mp (e ▸ perm))
    have within : ∀ m ∈ sorted, Within (depthAll sorted) m := fun m hm =>
      ⟨(same Sound).mpr h m hm, depthAll_le.mp (Nat.le_refl _) m hm⟩
    obtain ⟨within', nil_iff, le, common, on, least⟩ :=
      align_spec (fun _ _ => next_reaches) 0 sorted within
    refine ⟨.and (fun m hm => (within' m hm).sound) ?_, fun d => ⟨?_, ?_⟩⟩
    · exact on.imp_right fun all => ⟨fun e => ne (nil_iff.mp e), all⟩
    · intro o
      cases o with
      | and le lt all => exact ⟨ne', (same (Offers · d)).mp ((common d le lt).mp all)⟩
    · rintro ⟨_, all⟩
      have all' := (same (Offers · d)).mpr all
      obtain ⟨m, hm⟩ := List.exists_mem_of_ne_nil ms ne'
      have lt := ((h m hm).bounds (all m hm)).2
      have le := least d (Nat.zero_le _) lt all'
      exact .and le lt ((common d le lt).mpr all')

/-- A fresh disjunction is sound. -/
lemma any_spec {ms : List Walk} (h : ∀ m ∈ ms, Sound m) :
    Sound (any ms) ∧ ∀ d, Offers (any ms) d ↔ ∃ m ∈ ms, Offers m d := by
  refine ⟨.or fun m hm => h m (List.mem_filter.mp hm).1, fun d => ⟨?_, ?_⟩⟩
  · intro o
    cases o with
    | or hm o => exact ⟨_, (List.mem_filter.mp hm).1, o⟩
  · rintro ⟨m, hm, o⟩
    refine .or (List.mem_filter.mpr ⟨hm, ?_⟩) o
    simp only [Bool.not_eq_true', Bool.eq_false_iff, ne_eq]
    exact fun used => (h m hm).isOver_iff.mp used d o

/-- The walk after calls with these targets. -/
def after (w : Walk) (targets : List Nat) : Walk := targets.foldl (fun w target => w.next target) w

/-- After any calls a sound walk is sound, and offers what it did from its document on. -/
lemma Sound.after {w : Walk} (h : Sound w) (targets : List Nat) :
    Sound (w.after targets) ∧
      ∀ d, Offers (w.after targets) d ↔ (w.after targets).doc ≤ d ∧ Offers w d := by
  induction targets generalizing w with
  | nil => exact ⟨h, fun d => ⟨fun o => ⟨(h.bounds o).1, o⟩, And.right⟩⟩
  | cons target targets ih =>
    obtain ⟨sound, offers⟩ := ih (h.next target)
    refine ⟨sound, fun d => (offers d).trans (and_congr_right fun le => ?_)⟩
    -- what is offered at the end lies beyond every target, this one included
    refine (h.offers_next target d).trans ⟨And.right, fun o => ⟨?_, o⟩⟩
    obtain used | on := sound.offers_doc
    · have := (h.bounds o).2
      exact absurd (used.symm.trans_le le) this.not_ge
    · have ahead := ((offers _).mp on).2
      exact ((h.offers_next target _).mp ahead).1.trans le

end Walk

/-! ## Courses -/

/-- How a walk is put together. -/
inductive Course where
  | never
  | always (size : Nat)
  | list (ids : List Nat)
  | term (postings : Postings)
  | all (members : List Course)
  | any (members : List Course)

namespace Course

mutual

/-- The walk of a course, on its first document. -/
def walk : Course → Walk
  | never => .never
  | always size => .ofSize size
  | list ids => .ofList ids
  | term p => .term p
  | all cs => .all (walks cs)
  | any cs => .any (walks cs)

def walks : List Course → List Walk
  | [] => []
  | c :: cs => walk c :: walks cs

end

/-- The document belongs to the course. -/
inductive Has : Course → Nat → Prop where
  | always {size d} :
    d < size →
    Has (.always size) d
  | list {ids d} :
    d ∈ ids →
    Has (.list ids) d
  | term {p : Postings} {q} :
    q ∈ p.rest →
    Has (.term p) q.doc
  | all {cs d} :
    cs ≠ [] →
    (∀ c ∈ cs, Has c d) →
    Has (.all cs) d
  | any {cs c d} :
    c ∈ cs →
    Has c d →
    Has (.any cs) d

/-- The set of the documents of a course. -/
def documents (c : Course) : Set Nat := {d | Has c d}

/-- Sizes are below the end of the numbering, lists rise, and cursors are opened on an indexed
segment. -/
inductive WellFormed : Course → Prop where
  | never : WellFormed .never
  | always {size} :
    size ≤ noMoreDocs →
    WellFormed (.always size)
  | list {ids} :
    ids.Pairwise (· < ·) →
    (∀ d ∈ ids, d < noMoreDocs) →
    WellFormed (.list ids)
  | term {base docs text field needed p} :
    docs.length ≤ noMoreDocs →
    (Segment.ofDocuments base docs).cursor text field needed = .ok (some p) →
    WellFormed (.term p)
  | all {cs} :
    (∀ c ∈ cs, WellFormed c) →
    WellFormed (.all cs)
  | any {cs} :
    (∀ c ∈ cs, WellFormed c) →
    WellFormed (.any cs)

lemma mem_walks {cs : List Course} {w} : w ∈ walks cs ↔ ∃ c ∈ cs, walk c = w := by
  induction cs with
  | nil => simp [walks]
  | cons c cs ih => simp [walks, ih, eq_comm]

/-- The walk of a course is sound and offers the documents of the course. -/
lemma WellFormed.walk_spec {c : Course} (h : c.WellFormed) :
    c.walk.Sound ∧ ∀ d, c.walk.Offers d ↔ Has c d := by
  induction h with
  | never => exact ⟨.never, fun d => ⟨nofun, nofun⟩⟩
  | always fits =>
    refine ⟨Walk.sound_ofSize fits, fun d => Walk.offers_ofSize.trans ⟨.always, fun o => ?_⟩⟩
    cases o with
    | always lt => exact lt
  | list rise real =>
    refine ⟨Walk.sound_ofList rise real, fun d => Walk.offers_ofList.trans ⟨.list, fun o => ?_⟩⟩
    cases o with
    | list mem => exact mem
  | term fits opened =>
    refine ⟨.term (Segment.rising_of_cursor fits opened), fun d => Walk.offers_term.trans ⟨?_, ?_⟩⟩
    · rintro ⟨q, mem, rfl⟩
      exact .term mem
    · intro o
      cases o with
      | term mem => exact ⟨_, mem, rfl⟩
  | @all cs _ ih =>
    have sound : ∀ w ∈ walks cs, w.Sound := by
      intro w hw
      obtain ⟨c, hc, rfl⟩ := mem_walks.mp hw
      exact (ih c hc).1
    refine ⟨(Walk.all_spec sound).1, fun d => ((Walk.all_spec sound).2 d).trans ⟨?_, ?_⟩⟩
    · rintro ⟨ne, all⟩
      refine .all (fun e => ne (by simp [e, walks])) fun c hc => ?_
      exact ((ih c hc).2 d).mp (all _ (mem_walks.mpr ⟨c, hc, rfl⟩))
    · intro o
      cases o with
      | all ne all =>
        refine ⟨?_, fun w hw => ?_⟩
        · obtain ⟨c, hc⟩ := List.exists_mem_of_ne_nil cs ne
          exact List.ne_nil_of_mem (mem_walks.mpr ⟨c, hc, rfl⟩)
        · obtain ⟨c, hc, rfl⟩ := mem_walks.mp hw
          exact ((ih c hc).2 d).mpr (all c hc)
  | @any cs _ ih =>
    have sound : ∀ w ∈ walks cs, w.Sound := by
      intro w hw
      obtain ⟨c, hc, rfl⟩ := mem_walks.mp hw
      exact (ih c hc).1
    refine ⟨(Walk.any_spec sound).1, fun d => ((Walk.any_spec sound).2 d).trans ⟨?_, ?_⟩⟩
    · rintro ⟨w, hw, o⟩
      obtain ⟨c, hc, rfl⟩ := mem_walks.mp hw
      exact .any hc (((ih c hc).2 d).mp o)
    · intro o
      cases o with
      | any hc o => exact ⟨_, mem_walks.mpr ⟨_, hc, rfl⟩, ((ih _ hc).2 d).mpr o⟩

/-- A fresh walk is on the first document of its course. After calls with any targets, the next one
takes it to the first document from the target on that is not before the one it is on, so that it
never goes back; it is over just when there is none. Taken one document further, it passes none. -/
theorem walk_isFirst {c : Course} (h : c.WellFormed) :
    IsFirst c.documents 0 c.walk.doc ∧
    ∀ (targets : List Nat) (target : Nat),
      let before := c.walk.after targets
      let w := before.next target
      IsFirst c.documents (max target before.doc) w.doc ∧
      (w.isOver = true ↔ w.doc = noMoreDocs) ∧
      before.doc ≤ w.doc ∧
      (target = before.doc + 1 → before.doc < noMoreDocs →
        before.doc < w.doc ∧ ∀ d ∈ c.documents, ¬ (before.doc < d ∧ d < w.doc)) := by
  obtain ⟨sound, has⟩ := h.walk_spec
  refine ⟨sound.isFirst fun d => by simp [has, documents], fun targets target => ?_⟩
  intro before w
  obtain ⟨sound', offers⟩ := sound.after targets
  have first : IsFirst c.documents (max target before.doc) w.doc := by
    refine (sound'.next target).isFirst fun d => (sound'.offers_next target d).trans ?_
    rw [offers, has, Nat.max_le]
    exact ⟨fun o => ⟨o.2.2, o.1, o.2.1⟩, fun o => ⟨o.2.1, o.2.2, o.1⟩⟩
  have least : ∀ d ∈ c.documents, max target before.doc ≤ d → w.doc ≤ d := by
    obtain first | ⟨_, none⟩ := first
    · exact fun d mem le => first.2 ⟨mem, le⟩
    · exact fun d mem le => absurd le (none d mem).not_ge
  have ahead : max target before.doc ≤ w.doc ∨ w.doc = noMoreDocs :=
    first.imp (fun first => first.1.2) And.left
  have real : before.doc ≤ noMoreDocs := sound'.doc_le
  refine ⟨first, by simp [Walk.isOver], by omega, fun e lt => ⟨by omega, ?_⟩⟩
  rintro d mem ⟨gt, lt'⟩
  have := least d mem (by omega)
  omega

/-- A conjunction inside a disjunction, over the postings of an indexed segment: it is taken past
its last common document and back to a target that it has passed. -/
theorem walk_isFirst_nested :
    let docs : List Document := [⟨"d0", [("body", "a b")]⟩, ⟨"d1", [("body", "b")]⟩,
      ⟨"d2", [("body", "a a")]⟩]
    let p : Postings := .ofList [⟨0, [0]⟩, ⟨2, [0, 1]⟩] .counts
    let c : Course := .any [.all [.term p, .list [0, 2, 5]], .always 1, .never]
    (Segment.ofDocuments 0 docs).cursor "a" "body" .counts = .ok (some p) ∧ c.WellFormed ∧
      IsFirst c.documents 0 c.walk.doc ∧
      IsFirst c.documents (max 1 (c.walk.after [1, 3]).doc) ((c.walk.after [1, 3]).next 1).doc := by
  intro docs p c
  have opened : (Segment.ofDocuments 0 docs).cursor "a" "body" .counts = .ok (some p) := by
    decide +kernel
  have wf : c.WellFormed := by
    apply WellFormed.any
    intro d hd
    simp only [List.mem_cons, List.not_mem_nil, or_false] at hd
    obtain rfl | rfl | rfl := hd
    · apply WellFormed.all
      intro d hd
      simp only [List.mem_cons, List.not_mem_nil, or_false] at hd
      obtain rfl | rfl := hd
      · exact .term (by decide) opened
      · exact .list (by decide) (by decide)
    · exact .always (by decide)
    · exact .never
  exact ⟨opened, wf, (walk_isFirst wf).1, ((walk_isFirst wf).2 [1, 3] 1).1⟩

end Course

end Retrieval
