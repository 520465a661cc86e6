import Retrieval.Candidates.Walk
import Retrieval.Proofs.Collection.Inversion

/-!
# Moving a walk

What a walk offers is the set of the documents that it is on or has ahead of it. A sound walk stands
on the least document that it offers (`Sound.offers_doc`, `Sound.doc_le`). The main statement is
`nextWithin_reaches`: taking a sound walk to a target leaves it sound, and it then offers what it
offered from the target on. For conjunctions this rests on `align_spec`: while the members are taken
from candidate to candidate, no document that all of them offer is passed.
-/

namespace Retrieval

namespace Walk

/-- The walk is on the document or has it ahead. -/
inductive Offers : Walk → Nat → Prop where
  | always {current size d} :
    current ≤ d →
    d < size →
    Offers (.always current size) d
  | list {rest cost d} :
    d ∈ rest →
    Offers (.list rest cost) d
  | term {p : Postings} {q} :
    q ∈ p.rest →
    Offers (.term p) q.doc
  | and {current cost ms d} :
    current ≤ d →
    d < noMoreDocs →
    (∀ m ∈ ms, Offers m d) →
    Offers (.and current cost ms) d
  | or {cost ms m d} :
    m ∈ ms →
    Offers m d →
    Offers (.or cost ms) d

/-- The walk stands on its first document, and so do its members. -/
inductive Sound : Walk → Prop where
  | never : Sound .never
  | always {current size} :
    size ≤ noMoreDocs →
    current < size ∨ current = noMoreDocs →
    Sound (.always current size)
  | list {rest cost} :
    rest.Pairwise (· < ·) →
    (∀ d ∈ rest, d < noMoreDocs) →
    Sound (.list rest cost)
  | term {p} :
    p.Rising →
    Sound (.term p)
  | and {current cost ms} :
    (∀ m ∈ ms, Sound m) →
    current = noMoreDocs ∨ ms ≠ [] ∧ (∀ m ∈ ms, Offers m current) →
    Sound (.and current cost ms)
  | or {cost ms} :
    (∀ m ∈ ms, Sound m) →
    Sound (.or cost ms)

/-! ## The least document of several walks -/

/-- No member is on an earlier document than the least one. -/
lemma leastDoc_le {m : Walk} {ms} (h : m ∈ ms) : leastDoc ms ≤ m.doc := by
  induction ms with
  | nil => cases h
  | cons n ms ih =>
    simp only [leastDoc]
    cases h with
    | head => exact Nat.min_le_left _ _
    | tail _ h => exact (Nat.min_le_right _ _).trans (ih h)

/-- The least document is that of a member, unless all members are used up. -/
lemma leastDoc_mem (ms : List Walk) :
    leastDoc ms = noMoreDocs ∨ ∃ m ∈ ms, m.doc = leastDoc ms := by
  induction ms with
  | nil => exact .inl rfl
  | cons n ms ih =>
    simp only [leastDoc]
    rcases Nat.le_total n.doc (leastDoc ms) with le | le
    · rw [Nat.min_eq_left le]
      exact .inr ⟨n, by simp, rfl⟩
    · rw [Nat.min_eq_right le]
      obtain e | ⟨m, hm, e⟩ := ih
      · exact .inl e
      · exact .inr ⟨m, by simp [hm], e⟩

/-! ## The first document -/

/-- A sound walk offers real documents only, and none before the one that it is on. -/
lemma Sound.bounds {w : Walk} {d} (h : Sound w) (o : Offers w d) : w.doc ≤ d ∧ d < noMoreDocs := by
  induction o with
  | @always current size d le lt =>
    cases h with
    | always fits _ => exact ⟨le, lt.trans_le fits⟩
  | @list rest cost d mem =>
    cases h with
    | list rise real =>
      refine ⟨?_, real d mem⟩
      cases rest with
      | nil => cases mem
      | cons e rest =>
        cases mem with
        | head => exact Nat.le_refl _
        | tail _ mem => exact ((List.pairwise_cons.mp rise).1 d mem).le
  | @term p q mem =>
    cases h with
    | term rise => exact ⟨rise.doc_le mem, rise.2 q mem⟩
  | and le lt _ _ => exact ⟨le, lt⟩
  | @or cost ms m d mem _ ih =>
    cases h with
    | or sound =>
      obtain ⟨le, lt⟩ := ih (sound m mem)
      exact ⟨(leastDoc_le mem).trans le, lt⟩

/-- A sound walk is on a document that it offers, unless it is used up. -/
lemma Sound.offers_doc {w : Walk} (h : Sound w) : w.doc = noMoreDocs ∨ Offers w w.doc := by
  induction h with
  | never => exact .inl rfl
  | always _ on =>
    obtain lt | e := on
    · exact .inr (.always (Nat.le_refl _) lt)
    · exact .inl e
  | @list rest cost _ _ =>
    cases rest with
    | nil => exact .inl rfl
    | cons d rest => exact .inr (.list (by simp [doc]))
  | @term p _ =>
    obtain e | ⟨q, mem, e⟩ := p.doc_mem
    · exact .inl e
    · have o := Offers.term mem
      rw [e] at o
      exact .inr o
  | @and current cost ms sound on _ =>
    obtain e | ⟨ne, on⟩ := on
    · exact .inl e
    · obtain ⟨m, mem⟩ := List.exists_mem_of_ne_nil ms ne
      have lt := ((sound m mem).bounds (on m mem)).2
      exact .inr (.and (Nat.le_refl _) lt on)
  | @or cost ms _ ih =>
    obtain e | ⟨m, mem, e⟩ := leastDoc_mem ms
    · exact .inl e
    · obtain used | o := ih m mem
      · exact .inl (e.symm.trans used)
      · rw [e] at o
        exact .inr (.or mem o)

/-- No document of a sound walk lies beyond the end. -/
lemma Sound.doc_le {w : Walk} (h : Sound w) : w.doc ≤ noMoreDocs := by
  obtain e | o := h.offers_doc
  · exact e.le
  · exact (h.bounds o).2.le

/-- Only a walk that is used up offers nothing. -/
lemma Sound.isOver_iff {w : Walk} (h : Sound w) : w.isOver = true ↔ ∀ d, ¬ Offers w d := by
  simp only [isOver, beq_iff_eq]
  constructor
  · intro used d o
    have := h.bounds o
    omega
  · intro none
    exact h.offers_doc.resolve_right (none _)

/-! ## Taking a walk to a target -/

/-- The walk is sound and nested at most `n` deep. -/
structure Within (n : Nat) (w : Walk) : Prop where
  sound : Sound w
  depth_le : depth w ≤ n

/-- `w'` is `w` taken to `target`: of what it offered, all from the target on is left. -/
structure Reaches (n target : Nat) (w w' : Walk) : Prop where
  within : Within n w'
  offers_iff : ∀ d, Offers w' d ↔ target ≤ d ∧ Offers w d

/-- The nesting of several walks is that of the deepest one. -/
lemma depthAll_le {ms n} : depthAll ms ≤ n ↔ ∀ m ∈ ms, depth m ≤ n := by
  induction ms with
  | nil => simp [depthAll]
  | cons m ms ih => rw [depthAll, Nat.max_le, ih, List.forall_mem_cons]

/-- A target that is not ahead leaves a walk as it is. -/
lemma Within.reaches_self {n target w} (h : Within n w) (le : target ≤ w.doc) :
    Reaches n target w w where
  within := h
  offers_iff d := by
    refine ⟨fun o => ⟨?_, o⟩, And.right⟩
    have := h.sound.bounds o
    omega

section Leapfrog

variable {n : Nat} {advance : Nat → Walk → Walk}

/-- What is known after the members have been taken to a candidate, up to the first that is not on
it: those that all offer a document from the candidate on still do, and the verdict is right. -/
structure Gathered (n candidate : Nat) (ms : List Walk) (verdict : Verdict candidate)
    (ms' : List Walk) : Prop where
  within : ∀ m ∈ ms', Within n m
  nil_iff : ms' = [] ↔ ms = []
  common : ∀ d, candidate ≤ d → ((∀ m ∈ ms', Offers m d) ↔ ∀ m ∈ ms, Offers m d)
  right : match verdict with
    | .agreed => ∀ m ∈ ms', Offers m candidate
    | .raised doc _ => ∀ d, candidate ≤ d → (∀ m ∈ ms, Offers m d) → doc ≤ d
    | .exhausted => ∀ d, candidate ≤ d → ¬ ∀ m ∈ ms, Offers m d

/-- Gathering passes no document that all members offer. -/
lemma gatherAt_spec (move : ∀ target m, Within n m → Reaches n target m (advance target m))
    (candidate : Nat) {ms : List Walk} (h : ∀ m ∈ ms, Within n m) :
    Gathered n candidate ms (gatherAt advance candidate ms).1
      (gatherAt advance candidate ms).2 := by
  induction ms with
  | nil => exact ⟨h, Iff.rfl, fun _ _ => Iff.rfl, by simp [gatherAt]⟩
  | cons m ms ih =>
    obtain ⟨hm, hms⟩ := List.forall_mem_cons.mp h
    have reach := move candidate m hm
    have here : ∀ d, candidate ≤ d → (Offers (advance candidate m) d ↔ Offers m d) := by
      intro d le
      simp [reach.offers_iff, le]
    have within : ∀ k ∈ advance candidate m :: ms, Within n k :=
      List.forall_mem_cons.mpr ⟨reach.within, hms⟩
    have common : ∀ d, candidate ≤ d →
        ((∀ k ∈ advance candidate m :: ms, Offers k d) ↔ ∀ k ∈ m :: ms, Offers k d) := by
      intro d le
      simp [here d le]
    simp only [gatherAt]
    split
    -- the member is used up, so that nothing is left that all members offer
    · next used =>
      refine ⟨within, by simp, common, fun d le all => ?_⟩
      have o := (here d le).mpr (all m (by simp))
      have := reach.within.sound.bounds o
      omega
    · next fresh =>
      split
      -- the member is beyond the candidate: whatever all members offer is not before it
      · refine ⟨within, by simp, common, fun d le all => ?_⟩
        have o := (here d le).mpr (all m (by simp))
        exact (reach.within.sound.bounds o).1
      · next near =>
        -- the member is on the candidate itself: it cannot be before it
        have on : Offers (advance candidate m) candidate := by
          have o := reach.within.sound.offers_doc.resolve_left (by omega)
          have le := ((reach.offers_iff _).mp o).1
          rwa [show (advance candidate m).doc = candidate by omega] at o
        obtain ⟨within', _, common', right'⟩ := ih hms
        refine ⟨List.forall_mem_cons.mpr ⟨reach.within, within'⟩, by simp, ?_, ?_⟩
        · intro d le
          simp [here d le, common' d le]
        · revert right'
          cases (gatherAt advance candidate ms).1 with
          | agreed => exact fun agreed => List.forall_mem_cons.mpr ⟨on, agreed⟩
          | raised doc later =>
            exact fun raised d le all => raised d le fun k hk => all k (by simp [hk])
          | exhausted =>
            exact fun none d le all => none d le fun k hk => all k (by simp [hk])

/-- The members end on the first document from the candidate on that all of them offer. -/
structure Aligned (n candidate : Nat) (ms : List Walk) (doc : Nat) (ms' : List Walk) : Prop where
  within : ∀ m ∈ ms', Within n m
  nil_iff : ms' = [] ↔ ms = []
  le : candidate ≤ doc ∨ doc = noMoreDocs
  common : ∀ d, doc ≤ d → d < noMoreDocs → ((∀ m ∈ ms', Offers m d) ↔ ∀ m ∈ ms, Offers m d)
  on : doc = noMoreDocs ∨ ∀ m ∈ ms', Offers m doc
  least : ∀ d, candidate ≤ d → d < noMoreDocs → (∀ m ∈ ms, Offers m d) → doc ≤ d

/-- Leapfrogging finds the first document that all members offer. -/
lemma align_spec (move : ∀ target m, Within n m → Reaches n target m (advance target m))
    (candidate : Nat) (ms : List Walk) (h : ∀ m ∈ ms, Within n m) :
    Aligned n candidate ms (align advance candidate ms).1 (align advance candidate ms).2 := by
  induction candidate, ms using align.induct advance with
  -- all members agree on the candidate
  | case1 candidate ms ms' e =>
    have g := gatherAt_spec move candidate h
    rw [e] at g
    rw [align, e]
    exact ⟨g.within, g.nil_iff, .inl (Nat.le_refl _), fun d le _ => g.common d le, .inr g.right,
      fun d le _ _ => le⟩
  -- a member is used up
  | case2 candidate ms ms' e =>
    have g := gatherAt_spec move candidate h
    rw [e] at g
    rw [align, e]
    exact ⟨g.within, g.nil_iff, .inr rfl, fun d le lt => absurd lt le.not_gt, .inl rfl,
      fun d le _ all => (g.right d le all).elim⟩
  -- a member raises the candidate: between the two there is no document that all members offer
  | case3 candidate ms doc later ms' e ih =>
    have g := gatherAt_spec move candidate h
    rw [e] at g
    rw [align, e]
    obtain ⟨within, nil_iff, le, common, on, least⟩ := ih g.within
    refine ⟨within, nil_iff.trans g.nil_iff, ?_, ?_, on, ?_⟩
    · exact le.imp_left later.1.le.trans
    · intro d le' lt
      have raised := le.resolve_right fun e => absurd lt (e ▸ le').not_gt
      exact (common d le' lt).trans (g.common d (later.1.le.trans (raised.trans le')))
    · intro d le real all
      exact least d (g.right d le all) real ((g.common d le).mpr all)

end Leapfrog

/-! ### One lemma for each kind of walk -/

lemma never_reaches {n target} : Reaches n target .never (nextWithin n target .never) where
  within := ⟨by simpa [nextWithin] using Sound.never, by simp [nextWithin, depth]⟩
  offers_iff d := by
    simp only [nextWithin]
    exact ⟨nofun, fun o => nomatch o.2⟩

lemma always_reaches {n target current size} (h : Within n (.always current size)) :
    Reaches n target (.always current size) (nextWithin n target (.always current size)) := by
  cases h.sound with
  | always fits on =>
    simp only [nextWithin]
    split
    · next ahead =>
      refine ⟨⟨.always fits ?_, by simp [depth]⟩, fun d => ⟨?_, ?_⟩⟩
      · split <;> omega
      · intro o
        cases o with
        | always le lt => split at le <;> exact ⟨by omega, .always (by omega) lt⟩
      · rintro ⟨le, o⟩
        cases o with
        | always _ lt => exact .always (by split <;> omega) lt
    · next near => exact h.reaches_self (by simpa [doc] using near)

lemma list_reaches {n target rest cost} (h : Within n (.list rest cost)) :
    Reaches n target (.list rest cost) (nextWithin n target (.list rest cost)) := by
  cases h.sound with
  | list rise real =>
    have mem : ∀ d, d ∈ rest.dropWhile (· < target) ↔ target ≤ d ∧ d ∈ rest := by
      intro d
      exact mem_dropWhile_lt (f := id) (rise.imp Nat.le_of_lt)
    simp only [nextWithin]
    refine ⟨⟨.list (rise.sublist (List.dropWhile_sublist _)) ?_, by simp [depth]⟩, fun d => ⟨?_, ?_⟩⟩
    · intro d hd
      exact real d ((mem d).mp hd).2
    · intro o
      cases o with
      | list o => exact ⟨((mem d).mp o).1, .list ((mem d).mp o).2⟩
    · rintro ⟨le, o⟩
      cases o with
      | list o => exact .list ((mem d).mpr ⟨le, o⟩)

lemma term_reaches {n target p} (h : Within n (.term p)) :
    Reaches n target (.term p) (nextWithin n target (.term p)) := by
  cases h.sound with
  | term rising =>
    simp only [nextWithin]
    refine ⟨⟨.term (rising.advance target), by simp [depth]⟩, fun d => ⟨?_, ?_⟩⟩
    · intro o
      cases o with
      | term o => exact ⟨(rising.mem_advance.mp o).1, .term (rising.mem_advance.mp o).2⟩
    · rintro ⟨le, o⟩
      cases o with
      | term o => exact .term (rising.mem_advance.mpr ⟨le, o⟩)

/-- A conjunction moves if its members do. -/
lemma and_reaches {n target current cost ms}
    (move : ∀ target m, Within n m → Reaches n target m (nextWithin n target m))
    (h : Within (n + 1) (.and current cost ms)) :
    Reaches (n + 1) target (.and current cost ms)
      (nextWithin (n + 1) target (.and current cost ms)) := by
  simp only [nextWithin]
  split
  · next ahead =>
    have members : ∀ m ∈ ms, Within n m := by
      intro m hm
      cases h.sound with
      | and sound _ =>
        exact ⟨sound m hm, depthAll_le.mp (Nat.le_of_succ_le_succ h.depth_le) m hm⟩
    cases h.sound with
    | and _ on =>
      obtain ⟨ne, _⟩ := on.resolve_left ahead.2
      obtain ⟨within, nil_iff, le, common, on, least⟩ := align_spec move target ms members
      refine ⟨⟨.and (fun m hm => (within m hm).sound) ?_, ?_⟩, fun d => ⟨?_, ?_⟩⟩
      · exact on.imp_right fun all => ⟨fun e => ne (nil_iff.mp e), all⟩
      · exact Nat.succ_le_succ (depthAll_le.mpr fun m hm => (within m hm).depth_le)
      · intro o
        cases o with
        | and from' lt all => exact ⟨by omega, .and (by omega) lt ((common d from' lt).mp all)⟩
      · rintro ⟨from', o⟩
        cases o with
        | and _ lt all =>
          have le := least d from' lt all
          exact .and le lt ((common d le lt).mpr all)
  · next near =>
    by_cases used : current = noMoreDocs
    -- the target may lie ahead all the same, but then there is nothing to pass
    · subst used
      refine ⟨h, fun d => ⟨fun o => ?_, And.right⟩⟩
      have := h.sound.bounds o
      simp only [doc] at this
      omega
    · exact h.reaches_self (by simp only [doc]; omega)

/-- A disjunction moves if its members do; those that are used up offer nothing. -/
lemma or_reaches {n target cost ms}
    (move : ∀ target m, Within n m → Reaches n target m (nextWithin n target m))
    (h : Within (n + 1) (.or cost ms)) :
    Reaches (n + 1) target (.or cost ms) (nextWithin (n + 1) target (.or cost ms)) := by
  simp only [nextWithin]
  have members : ∀ m ∈ ms, Within n m := by
    intro m hm
    cases h.sound with
    | or sound => exact ⟨sound m hm, depthAll_le.mp (Nat.le_of_succ_le_succ h.depth_le) m hm⟩
  have step : ∀ m ∈ ms, Reaches n target m
      (if m.doc < target then nextWithin n target m else m) := by
    intro m hm
    split
    · exact move target m (members m hm)
    · next near => exact (members m hm).reaches_self (Nat.le_of_not_lt near)
  refine ⟨⟨.or ?_, ?_⟩, fun d => ⟨?_, ?_⟩⟩
  · intro m hm
    obtain ⟨k, hk, rfl⟩ := List.mem_map.mp (List.mem_filter.mp hm).1
    exact (step k hk).within.sound
  · refine Nat.succ_le_succ (depthAll_le.mpr fun m hm => ?_)
    obtain ⟨k, hk, rfl⟩ := List.mem_map.mp (List.mem_filter.mp hm).1
    exact (step k hk).within.depth_le
  · intro o
    cases o with
    | or hm o =>
      obtain ⟨k, hk, rfl⟩ := List.mem_map.mp (List.mem_filter.mp hm).1
      obtain ⟨le, o⟩ := ((step k hk).offers_iff d).mp o
      exact ⟨le, .or hk o⟩
  · rintro ⟨le, o⟩
    cases o with
    | or hm o =>
      have o := ((step _ hm).offers_iff d).mpr ⟨le, o⟩
      refine .or (List.mem_filter.mpr ⟨List.mem_map_of_mem hm, ?_⟩) o
      simp only [Bool.not_eq_true', Bool.eq_false_iff, ne_eq]
      exact fun used => (step _ hm).within.sound.isOver_iff.mp used d o

/-- A walk that is taken to a target is sound and has passed only what lies before it. -/
theorem nextWithin_reaches {n target m} (h : Within n m) :
    Reaches n target m (nextWithin n target m) := by
  induction n generalizing target m with
  | zero =>
    cases m with
    | never => exact never_reaches
    | always => exact always_reaches h
    | list => exact list_reaches h
    | term => exact term_reaches h
    | and | or => exact absurd h.depth_le (Nat.not_succ_le_zero _)
  | succ n ih =>
    cases m with
    | never => exact never_reaches
    | always => exact always_reaches h
    | list => exact list_reaches h
    | term => exact term_reaches h
    | and => exact and_reaches (fun _ _ => ih) h
    | or => exact or_reaches (fun _ _ => ih) h

/-- Moving keeps a walk sound. -/
lemma Sound.next {w : Walk} (h : Sound w) (target : Nat) : Sound (w.next target) :=
  (nextWithin_reaches ⟨h, Nat.le_refl _⟩).within.sound

/-- A walk that has moved offers what it did from the target on. -/
lemma Sound.offers_next {w : Walk} (h : Sound w) (target d : Nat) :
    Offers (w.next target) d ↔ target ≤ d ∧ Offers w d :=
  (nextWithin_reaches ⟨h, Nat.le_refl _⟩).offers_iff d

end Walk

end Retrieval
