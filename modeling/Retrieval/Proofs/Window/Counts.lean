import Retrieval.Proofs.Candidates.Finding
import Retrieval.Proofs.Evaluation.Facts
import Retrieval.Proofs.Window.Unordered
import Mathlib.Algebra.Order.BigOperators.Group.List
import Mathlib.Algebra.Order.Group.Nat

/-!
# Counts bound windows

A window needs a position of every list, so there are no more ordered windows than the shortest list
has positions. Unordered windows may share positions, but each turn of their search passes one, and
the search is over while every other list still has a position: there are no more of them than
positions, less one for each list but the first. No query has more positions than its count
(`Query.facts_spread`), so the summaries of the counts bound the windows
(`Facts.window_ordered_le`, `Facts.window_unordered_le`).
-/

namespace Retrieval

/-! ## Starts and positions -/

namespace Window

variable {step last width : Nat} {lists : List (List Nat)}

/-- A chain that is complete has a link in every list. -/
lemma ne_nil_of_complete (complete : (follow step last lists).1 = .complete) :
    ∀ list ∈ (follow step last lists).2, list ≠ [] := by
  induction lists generalizing last with
  | nil => exact List.forall_mem_nil _
  | cons positions lists ih =>
    rw [follow] at complete ⊢
    split at complete
    · cases complete
    · split at complete
      · cases complete
      · next near =>
        rw [if_neg near]
        exact List.forall_mem_cons.mpr ⟨List.cons_ne_nil _ _, ih complete⟩

/-- Each ordered window uses up a position of every later list. -/
lemma length_orderedStarts_le (step : Nat) (starts : List Nat) (lists : List (List Nat)) :
    ∀ list ∈ lists, (orderedStarts step starts lists).length ≤ list.length := by
  induction starts generalizing lists with
  | nil => exact fun _ _ => Nat.zero_le _
  | cons start starts ih =>
    intro list mem
    have left := follow_left step start lists
    rw [orderedStarts]
    split
    · next chain found =>
      have complete : (follow step start lists).1 = .complete := by rw [found]
      have used := ne_nil_of_complete complete
      rw [found] at left used
      obtain ⟨list', mem', suffix⟩ := (exists_mem_of_forall₂ left).2 list mem
      have fewer := ih (chain.map List.tail) list'.tail (List.mem_map_of_mem mem')
      have some_ := List.length_pos_iff.mpr (used list' mem')
      have within := suffix.length_le
      rw [List.length_tail] at fewer
      rw [List.length_cons]
      omega
    · next chain found =>
      rw [found] at left
      obtain ⟨list', mem', suffix⟩ := (exists_mem_of_forall₂ left).2 list mem
      exact (ih chain list' mem').trans suffix.length_le
    · exact Nat.zero_le _

lemma find_ordered (step : Nat) {first : List Nat} (full : [] ∉ first :: lists) :
    (ordered step).find (first :: lists) = orderedStarts step first lists := by
  simp only [find, any_isEmpty_of_full full, Bool.false_eq_true, if_false]

lemma Passes.length_eq {least : Nat} {lists' : List (List Nat)} (passes : Passes least lists lists') :
    lists'.length = lists.length := by
  induction passes with
  | here => rfl
  | there _ ih => rw [List.length_cons, List.length_cons, ih]

/-- Lists that all have a position have at least as many positions as there are lists. -/
lemma length_le_flatten (full : [] ∉ lists) : lists.length ≤ lists.flatten.length := by
  induction lists with
  | nil => exact Nat.le_refl 0
  | cons list lists ih =>
    obtain ⟨here, rest⟩ := not_or.mp (mt List.mem_cons.mpr full)
    have some_ := List.length_pos_iff.mpr (Ne.symm here)
    have := ih rest
    rw [List.flatten_cons, List.length_append, List.length_cons]
    omega

/-- Each unordered window uses up a position, and a position of every list but one is left over. -/
lemma length_unorderedStarts_le (width : Nat) (some_ : lists ≠ []) (full : [] ∉ lists) :
    (unorderedStarts width lists).length + lists.length ≤ lists.flatten.length + 1 := by
  induction lists using sweep_induction width with
  | finished lists done none => exact absurd done (not_or.mpr ⟨some_, full⟩)
  | turn lists least greatest later t ih =>
    have passed := t.passes.perm.length_eq
    have same := t.passes.length_eq
    have starts : (unorderedStarts width lists).length ≤
        (unorderedStarts width later).length + 1 := by
      rw [t.starts]
      split <;> simp
    have length := length_le_flatten full
    rw [List.length_cons] at passed
    obtain ⟨_, none⟩ | ⟨least', greatest', later', t'⟩ := unorderedStarts_cases width later
    · -- the sweep is over, so the position that was passed is the only one that began a window
      rw [none, List.length_nil] at starts
      omega
    · obtain ⟨some_', full'⟩ := not_or.mp t'.front.nil_not_mem
      have := ih some_' full'
      omega

end Window

/-! ## Positions and counts -/

/-- There are no more positions than the count. -/
def Facts.Spread (f : Facts) : Prop := f.positions.length ≤ f.count

namespace Facts

lemma spread_ofPostings (p : Option Postings) : (ofPostings p).Spread := by
  cases p with
  | none => exact Nat.le_refl 0
  | some p =>
    rw [Spread, ofPostings, Postings.count]
    cases p.rest with
    | nil => exact Nat.le_refl 0
    | cons posting rest => exact Nat.le_refl _

lemma spread_require (c : Facts) {v : Facts} (spread : v.Spread) : (require c v).Spread := by
  rw [require]
  split
  · exact spread
  · exact Nat.le_refl 0

end Facts

/-- Sorting positions only drops some. -/
lemma length_sortedOnce_le (positions : List Nat) :
    (Answers.sortedOnce positions).length ≤ positions.length := by
  obtain ⟨rising, same⟩ := sortedOnce_rising positions
  exact (rising.nodup.subperm fun p mem => (same p).mp mem).length_le

/-- Positions that several children have in common are one, but they count for each child. -/
lemma spread_synonym {cs : List Facts} (spread : ∀ c ∈ cs, c.Spread) :
    (Answers.sortedOnce (cs.map Facts.positions).flatten).length ≤
      (cs.map Facts.count).foldl (· + ·) 0 := by
  refine (length_sortedOnce_le _).trans ?_
  rw [List.length_flatten, List.map_map, ← List.sum_eq_foldl]
  exact List.sum_le_sum fun c mem => spread c mem

lemma Leaf.facts_spread {R : Type} (spot : Spot) (l : Leaf R) : (l.facts spot).Spread := by
  cases l with
  | term t => exact Facts.spread_ofPostings _
  | raw text => exact Facts.spread_ofPostings _
  | _ => exact Nat.zero_le _

lemma Modifier.facts_spread {R : Type} {c : Facts} (spread : c.Spread) (m : Modifier R) :
    (m.facts c).Spread := by
  cases m with
  | alwaysMatch => exact spread
  | _ => exact Nat.zero_le _

lemma Operator.facts_spread {R : Type} {cs : List Facts} (spread : ∀ c ∈ cs, c.Spread)
    (op : Operator R) : (op.facts cs).Spread := by
  cases op with
  | synonym => exact spread_synonym spread
  | orderedWindow step => exact Nat.le_refl _
  | unorderedWindow width => exact Nat.le_refl _
  | prox width => exact Nat.le_refl _
  | _ => exact Nat.zero_le _

namespace Query

variable {R : Type}

mutual

/-- No query has more positions in a document than its count. -/
theorem facts_spread (spot : Spot) : (q : Query R) → (q.facts spot).Spread
  | .leaf l => l.facts_spread spot
  | .modify m c => m.facts_spread (facts_spread spot c)
  | .join op cs => op.facts_spread (factsAll_spread spot cs)
  | .require c v => Facts.spread_require (c.facts spot) (facts_spread spot v)

theorem factsAll_spread (spot : Spot) : (cs : List (Query R)) → ∀ f ∈ factsAll spot cs, f.Spread
  | [] => List.forall_mem_nil _
  | c :: cs => List.forall_mem_cons.mpr ⟨facts_spread spot c, factsAll_spread spot cs⟩

end

end Query

/-! ## Windows and summaries -/

namespace Facts

variable {cs : List Facts}

/-- Windows are found only where all children match and have positions. -/
lemma matched_of_window {kind : Window} (found : 0 < (window kind cs).count) :
    cs.all matched = true ∧ [] ∉ cs.map positions := by
  change 0 < (kind.find (if cs.all matched then cs.map positions else [])).length at found
  split at found
  · next all =>
    refine ⟨all, fun empty => ?_⟩
    rw [Window.find_of_empty empty] at found
    exact absurd found (Nat.lt_irrefl 0)
  · exact absurd found (Nat.lt_irrefl 0)

/-- There are no more ordered windows than the smallest count. -/
theorem window_ordered_le (step : Nat) (some_ : cs ≠ []) (spread : ∀ c ∈ cs, c.Spread) :
    (window (.ordered step) cs).count ≤ (summary .smallest cs).count := by
  rcases Nat.eq_zero_or_pos (window (.ordered step) cs).count with none | found
  · exact none ▸ Nat.zero_le _
  obtain ⟨all, full⟩ := matched_of_window found
  cases cs with
  | nil => exact absurd rfl some_
  | cons first rest =>
    simp only [window, summary, counting, all, if_true]
    rw [List.map_cons, Window.find_ordered step full, Summary.value]
    obtain ⟨least, least_⟩ := Option.ne_none_iff_exists'.mp
      (mt List.min?_eq_none_iff.mp (List.cons_ne_nil first.count (rest.map count)))
    rw [List.map_cons, least_, Option.getD_some]
    obtain ⟨c, mem, rfl⟩ := List.mem_map.mp (List.map_cons ▸ List.min?_mem least_)
    refine Nat.le_trans ?_ (spread c mem)
    rcases List.mem_cons.mp mem with rfl | mem
    · exact (Window.orderedStarts_sublist step _ _).length_le
    · exact Window.length_orderedStarts_le step _ _ _ (List.mem_map_of_mem mem)

/-- There are no more unordered windows than their ceiling. -/
theorem window_unordered_le (width : Nat) (some_ : cs ≠ []) (spread : ∀ c ∈ cs, c.Spread) :
    (window (.unordered width) cs).count ≤ (summary .ceiling cs).count := by
  rcases Nat.eq_zero_or_pos (window (.unordered width) cs).count with none | found
  · exact none ▸ Nat.zero_le _
  obtain ⟨all, full⟩ := matched_of_window found
  have some_' : cs.map positions ≠ [] := mt List.map_eq_nil_iff.mp some_
  have starts := Window.length_unorderedStarts_le width some_' full
  have counts : (cs.map positions).flatten.length ≤ (cs.map count).sum := by
    rw [List.length_flatten, List.map_map]
    exact List.sum_le_sum spread
  simp only [window, summary, counting, all, if_true]
  rw [Window.find_unordered_eq width some_' full, Summary.value, addUp_eq_sum, List.length_map]
  have children := List.length_pos_iff.mpr some_
  rw [List.length_map] at starts
  omega

end Facts

end Retrieval
