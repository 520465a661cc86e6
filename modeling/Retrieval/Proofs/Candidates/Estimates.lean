import Retrieval.Proofs.Candidates.Coverage
import Retrieval.Proofs.Candidates.Enumeration
import Mathlib.Data.Set.Card

/-!
# What estimates bound

A walk's estimate is what its members lead it to expect: the least of them in a conjunction, the
greatest in a disjunction. The main statement is `Course.visits_le_estimate`: a walk visits no more
documents than its estimate, times the number of leaves that its disjunctions put side by side. The
factor goes where one member of every disjunction has all documents of the others, and not in
general: `Course.estimate_lt_visits`.
-/

namespace Retrieval

namespace Segment

/-- The cost of a fresh cursor is the length of its list. -/
lemma cost_of_cursor {s : Segment} {text field needed} {p : Postings}
    (h : s.cursor text field needed = .ok (some p)) : p.cost = p.rest.length := by
  simp only [cursor] at h
  split at h
  · cases h
  · simp only [Except.ok.injEq, Option.map_eq_some_iff] at h
    obtain ⟨list, _, rfl⟩ := h
    rfl

end Segment

namespace Walk

/-- A sound walk visits no document twice. -/
lemma Sound.nodup_visits {w : Walk} (sound : w.Sound) (target : Nat) : (w.visits target).Nodup := by
  induction target, w using Walk.visits.induct with
  | case1 target w w' last =>
    rw [visits, if_pos last]
    exact List.nodup_nil
  | case2 target w w' more ih =>
    rw [visits, if_neg more]
    have ahead := sound.next target
    refine List.nodup_cons.mpr ⟨fun again => ?_, ih ahead⟩
    have late := (ahead.mem_visits.mp again).1
    exact Nat.not_succ_le_self _ ((Nat.le_max_right ..).trans_lt late)

/-! ## Estimates of moved walks -/

lemma estimate_nextWithin (n target : Nat) (w : Walk) :
    (w.nextWithin n target).estimate = w.estimate := by
  cases w with
  | never => simp only [nextWithin]
  | always current size =>
    simp only [nextWithin]
    split <;> rfl
  | list rest cost => simp only [nextWithin, estimate]
  | term p => simp only [nextWithin, estimate, Postings.advance]
  | and current cost ms =>
    cases n with
    | zero => simp only [nextWithin]
    | succ n =>
      simp only [nextWithin]
      split <;> rfl
  | or cost ms => cases n <;> simp only [nextWithin, estimate]

/-- An estimate is for the whole walk, wherever calls have taken it. -/
lemma estimate_after (w : Walk) (targets : List Nat) : (w.after targets).estimate = w.estimate := by
  induction targets generalizing w with
  | nil => rfl
  | cons target targets ih => exact (ih (w.next target)).trans (estimate_nextWithin _ target w)

/-- The estimate of a conjunction is that of one of its members. -/
lemma exists_estimate_all {ms : List Walk} (ne : ms ≠ []) :
    ∃ m ∈ ms, (all ms).estimate = m.estimate := by
  have perm := List.mergeSort_perm ms fun a b => decide (a.estimate ≤ b.estimate)
  rw [all]
  generalize ms.mergeSort (fun a b => decide (a.estimate ≤ b.estimate)) = sorted at perm
  have ne' : sorted ≠ [] := fun e => ne (List.nil_perm.mp (e ▸ perm))
  have cost : ∃ m ∈ ms, ((sorted.map estimate).min?.getD 0) = m.estimate := by
    have isSome : (sorted.map estimate).min?.isSome := by
      simpa only [List.isSome_min?_iff, ne_eq, List.map_eq_nil_iff] using ne'
    obtain ⟨least, e⟩ := Option.isSome_iff_exists.mp isSome
    obtain ⟨m, hm, rfl⟩ := List.mem_map.mp (List.min?_mem e)
    exact ⟨m, perm.mem_iff.mp hm, by rw [e, Option.getD_some]⟩
  cases sorted with
  | nil => exact absurd rfl ne'
  | cons => exact cost

/-- The estimate of a disjunction is no less than that of any member. -/
lemma estimate_le_any {ms : List Walk} {m} (h : m ∈ ms) : m.estimate ≤ (any ms).estimate := by
  obtain ⟨greatest, e⟩ := Option.isSome_iff_exists.mp
    (List.isSome_max?_of_mem (List.mem_map_of_mem (f := estimate) h))
  have le := (List.max?_eq_some_iff.mp e).2 _ (List.mem_map_of_mem h)
  simpa only [any, estimate, e, Option.getD_some] using le

end Walk

namespace Course

mutual

/-- How many leaves the disjunctions of a course put side by side, at most. -/
def width : Course → Nat
  | never => 0
  | always _ | list _ | term _ => 1
  | all cs => greatestWidth cs
  | any cs => totalWidth cs

def greatestWidth : List Course → Nat
  | [] => 0
  | c :: cs => max (width c) (greatestWidth cs)

def totalWidth : List Course → Nat
  | [] => 0
  | c :: cs => width c + totalWidth cs

end

/-- One member of every disjunction has all the documents of the others. -/
inductive Led : Course → Prop where
  | never : Led .never
  | always {size} : Led (.always size)
  | list {ids} : Led (.list ids)
  | term {p} : Led (.term p)
  | all {cs} :
    (∀ c ∈ cs, Led c) →
    Led (.all cs)
  | none : Led (.any [])
  | any {cs lead} :
    lead ∈ cs →
    Led lead →
    (∀ c ∈ cs, c.documents ⊆ lead.documents) →
    Led (.any cs)

lemma width_le_greatest {cs : List Course} {c} (h : c ∈ cs) : c.width ≤ greatestWidth cs := by
  induction cs with
  | nil => cases h
  | cons c' cs ih =>
    obtain rfl | h := List.mem_cons.mp h
    · exact Nat.le_max_left ..
    · exact (ih h).trans (Nat.le_max_right ..)

/-! ## Counting documents -/

/-- The walk of a course visits the documents of the course. -/
lemma length_visits {c : Course} (h : c.WellFormed) :
    ((c.walk.visits 0).length : ℕ∞) = c.documents.encard := by
  obtain ⟨sound, offers⟩ := h.walk_spec
  have same : ((c.walk.visits 0).toFinset : Set Nat) = c.documents := by
    ext d
    rw [List.coe_toFinset, Set.mem_ofPred_eq, sound.mem_visits, and_iff_right (Nat.zero_le d)]
    exact offers d
  rw [← same, Set.encard_coe_eq_coe_finsetCard,
    List.toFinset_card_of_nodup (sound.nodup_visits 0)]

lemma documents_never : documents .never = ∅ := Set.eq_empty_of_forall_notMem nofun

lemma documents_always_subset (size : Nat) :
    documents (.always size) ⊆ (Finset.range size : Set Nat) := by
  intro d has
  cases has with
  | always lt => simpa using lt

lemma documents_list_subset (ids : List Nat) :
    documents (.list ids) ⊆ (ids.toFinset : Set Nat) := by
  intro d has
  cases has with
  | list mem => simpa using mem

lemma documents_term_subset (p : Postings) :
    documents (.term p) ⊆ ((p.rest.map (·.doc)).toFinset : Set Nat) := by
  intro d has
  cases has with
  | term mem => simpa using ⟨_, mem, rfl⟩

/-- Without members a conjunction has no documents. -/
lemma documents_all_nil : documents (.all []) = ∅ := by
  refine Set.eq_empty_of_forall_notMem fun d has => ?_
  cases has with
  | all ne _ => exact ne rfl

lemma documents_all_subset {cs : List Course} {c} (h : c ∈ cs) :
    documents (.all cs) ⊆ c.documents := by
  intro d has
  cases has with
  | all _ all => exact all c h

lemma documents_any_nil : documents (.any []) = ∅ := by
  refine Set.eq_empty_of_forall_notMem fun d has => ?_
  cases has with
  | any mem _ => cases mem

lemma documents_any_cons_subset (c : Course) (cs : List Course) :
    documents (.any (c :: cs)) ⊆ c.documents ∪ documents (.any cs) := by
  intro d has
  cases has with
  | any mem has =>
    obtain rfl | mem := List.mem_cons.mp mem
    · exact .inl has
    · exact .inr (.any mem has)

lemma documents_any_subset {cs : List Course} {lead : Course}
    (h : ∀ c ∈ cs, c.documents ⊆ lead.documents) : documents (.any cs) ⊆ lead.documents := by
  intro d has
  cases has with
  | any mem has => exact h _ mem has

lemma encard_toFinset_le (ids : List Nat) : (ids.toFinset : Set Nat).encard ≤ ids.length := by
  rw [Set.encard_coe_eq_coe_finsetCard]
  exact_mod_cast ids.toFinset_card_le

/-- The documents of a leaf are no more than its estimate. -/
lemma encard_always_le (size : Nat) :
    (documents (.always size)).encard ≤ (walk (.always size)).estimate := by
  refine (Set.encard_le_encard (documents_always_subset size)).trans ?_
  simp only [Set.encard_coe_eq_coe_finsetCard, Finset.card_range, walk, Walk.ofSize,
    Walk.estimate, le_refl]

lemma encard_list_le (ids : List Nat) :
    (documents (.list ids)).encard ≤ (walk (.list ids)).estimate :=
  (Set.encard_le_encard (documents_list_subset ids)).trans (encard_toFinset_le ids)

lemma encard_term_le {p : Postings} (cost : p.cost = p.rest.length) :
    (documents (.term p)).encard ≤ (walk (.term p)).estimate := by
  refine (Set.encard_le_encard (documents_term_subset p)).trans ?_
  simpa only [List.length_map, walk, Walk.estimate, cost] using
    encard_toFinset_le (p.rest.map (·.doc))

/-- A disjunction has no more documents than its members have together. -/
lemma encard_any_le {cs : List Course} {n : Nat}
    (h : ∀ c ∈ cs, c.documents.encard ≤ (c.width * n : Nat)) :
    (documents (.any cs)).encard ≤ (totalWidth cs * n : Nat) := by
  induction cs with
  | nil => simp [documents_any_nil]
  | cons c cs ih =>
    calc (documents (.any (c :: cs))).encard
      _ ≤ (c.documents ∪ documents (.any cs)).encard :=
        Set.encard_le_encard (documents_any_cons_subset c cs)
      _ ≤ c.documents.encard + (documents (.any cs)).encard := Set.encard_union_le _ _
      _ ≤ (c.width * n : Nat) + (totalWidth cs * n : Nat) :=
        add_le_add (h c List.mem_cons_self) (ih fun c' hc => h c' (List.mem_cons_of_mem c hc))
      _ = (totalWidth (c :: cs) * n : Nat) := by
        rw [totalWidth, Nat.add_mul, Nat.cast_add]

/-- The estimate of a member of a disjunction is no more than that of the disjunction. -/
lemma estimate_le_walk_any {cs : List Course} {c} (h : c ∈ cs) :
    c.walk.estimate ≤ (walk (.any cs)).estimate := by
  rw [walk]
  exact Walk.estimate_le_any (mem_walks.mpr ⟨c, h, rfl⟩)

/-- A conjunction has a member whose estimate it takes over. -/
lemma exists_estimate_walk_all {cs : List Course} (ne : cs ≠ []) :
    ∃ c ∈ cs, (walk (.all cs)).estimate = c.walk.estimate := by
  obtain ⟨c', hc'⟩ := List.exists_mem_of_ne_nil cs ne
  obtain ⟨w, hw, e⟩ :=
    Walk.exists_estimate_all (List.ne_nil_of_mem (mem_walks.mpr ⟨c', hc', rfl⟩))
  obtain ⟨c, hc, rfl⟩ := mem_walks.mp hw
  exact ⟨c, hc, by rw [walk, e]⟩

/-- A course has no more documents than its estimate for each leaf side by side. -/
lemma encard_le_width {c : Course} (h : c.WellFormed) :
    c.documents.encard ≤ (c.width * c.walk.estimate : Nat) := by
  induction h with
  | never => simp [documents_never]
  | @always size => simpa only [width, one_mul] using encard_always_le size
  | @list ids => simpa only [width, one_mul] using encard_list_le ids
  | term _ opened =>
    simpa only [width, one_mul] using encard_term_le (Segment.cost_of_cursor opened)
  | @all cs _ ih =>
    obtain rfl | ne := eq_or_ne cs []
    · simp [documents_all_nil]
    obtain ⟨c, hc, e⟩ := exists_estimate_walk_all ne
    calc (documents (.all cs)).encard
      _ ≤ c.documents.encard := Set.encard_le_encard (documents_all_subset hc)
      _ ≤ (c.width * c.walk.estimate : Nat) := ih c hc
      _ ≤ (greatestWidth cs * (walk (.all cs)).estimate : Nat) := by
        rw [e]
        exact_mod_cast Nat.mul_le_mul_right _ (width_le_greatest hc)
  | @any cs _ ih =>
    refine encard_any_le fun c hc => (ih c hc).trans ?_
    exact_mod_cast Nat.mul_le_mul_left _ (estimate_le_walk_any hc)

/-- Where every disjunction has a leading member, the estimate is a bound by itself. -/
lemma Led.encard_le {c : Course} (h : c.WellFormed) (led : c.Led) :
    c.documents.encard ≤ c.walk.estimate := by
  induction led with
  | never => simp [documents_never]
  | always => exact encard_always_le _
  | list => exact encard_list_le _
  | term =>
    cases h with
    | term _ opened => exact encard_term_le (Segment.cost_of_cursor opened)
  | @all cs _ ih =>
    cases h with
    | all wf =>
      obtain rfl | ne := eq_or_ne cs []
      · simp [documents_all_nil]
      obtain ⟨c, hc, e⟩ := exists_estimate_walk_all ne
      rw [e]
      exact (Set.encard_le_encard (documents_all_subset hc)).trans (ih c hc (wf c hc))
  | none => simp [documents_any_nil]
  | @any cs lead mem _ covers ih =>
    cases h with
    | any wf =>
      calc (documents (.any cs)).encard
        _ ≤ lead.documents.encard := Set.encard_le_encard (documents_any_subset covers)
        _ ≤ lead.walk.estimate := ih (wf lead mem)
        _ ≤ (walk (.any cs)).estimate := by exact_mod_cast estimate_le_walk_any mem

/-- A walk visits no more documents than its estimate for each of the leaves that its disjunctions
put side by side. Its estimate alone is a bound where one member of every disjunction has all the
documents of the others. Calls do not change the estimate. -/
theorem visits_le_estimate {c : Course} (h : c.WellFormed) :
    (c.walk.visits 0).length ≤ c.width * c.walk.estimate ∧
    (c.Led → (c.walk.visits 0).length ≤ c.walk.estimate) ∧
    ∀ targets, (c.walk.after targets).estimate = c.walk.estimate := by
  have visited := length_visits h
  refine ⟨?_, fun led => ?_, c.walk.estimate_after⟩
  · exact_mod_cast visited.trans_le (encard_le_width h)
  · exact_mod_cast visited.trans_le (led.encard_le h)

/-- A disjunction in a conjunction: two lists side by side, with one that has the documents of
both. -/
theorem visits_le_estimate_nested :
    let c : Course := .all [.any [.list [0, 4], .list [0, 2, 4, 6], .never], .always 9]
    c.WellFormed ∧ c.Led ∧ (c.walk.visits 0).length ≤ c.width * c.walk.estimate ∧
      (c.walk.visits 0).length ≤ c.walk.estimate ∧ c.width = 2 ∧ c.walk.estimate = 4 := by
  intro c
  have wf : c.WellFormed := by
    refine .all fun d hd => ?_
    simp only [List.mem_cons, List.not_mem_nil, or_false] at hd
    obtain rfl | rfl := hd
    · refine .any fun d hd => ?_
      simp only [List.mem_cons, List.not_mem_nil, or_false] at hd
      obtain rfl | rfl | rfl := hd
      · exact .list (by decide) (by decide)
      · exact .list (by decide) (by decide)
      · exact .never
    · exact .always (by decide)
  have led : c.Led := by
    refine .all fun d hd => ?_
    simp only [List.mem_cons, List.not_mem_nil, or_false] at hd
    obtain rfl | rfl := hd
    · have first : list [0, 2, 4, 6] ∈ [list [0, 4], list [0, 2, 4, 6], never] := by simp
      refine .any first .list fun d hd => ?_
      simp only [List.mem_cons, List.not_mem_nil, or_false] at hd
      obtain rfl | rfl | rfl := hd
      · intro d has
        cases has with
        | list mem => exact .list (List.Sublist.subset (by decide) mem)
      · exact Set.Subset.rfl
      · simp [documents_never]
    · exact .always
  have estimate : c.walk.estimate = 4 := by
    rw [walk, Walk.all, List.mergeSort_of_pairwise (by decide)]
    rfl
  obtain ⟨bound, bound_of_led, _⟩ := visits_le_estimate wf
  exact ⟨wf, led, bound, bound_of_led led, by decide, estimate⟩

/-- A disjunction of two lists without a common document visits both, and its estimate is one. -/
theorem estimate_lt_visits :
    let c : Course := .any [.list [0], .list [1]]
    c.WellFormed ∧ c.walk.estimate = 1 ∧ c.walk.visits 0 = [0, 1] ∧
      ¬ (c.walk.visits 0).length ≤ c.walk.estimate := by
  intro c
  have wf : c.WellFormed := by
    refine .any fun d hd => ?_
    simp only [List.mem_cons, List.not_mem_nil, or_false] at hd
    obtain rfl | rfl := hd <;> exact .list (by decide) (by decide)
  have estimate : c.walk.estimate = 1 := by decide +kernel
  have visits : c.walk.visits 0 = [0, 1] := by
    rw [Walk.visits, if_neg (by decide +kernel), Walk.visits, if_neg (by decide +kernel),
      Walk.visits, if_pos (by decide +kernel)]
    decide +kernel
  refine ⟨wf, estimate, visits, fun le => ?_⟩
  rw [visits, estimate] at le
  exact absurd le (by decide)

end Course

end Retrieval
