import Retrieval.Ranking.TopHits
import Mathlib.Data.List.Sort
import Mathlib.Tactic.Lemma

/-!
# The best hits are the first of a ranking

Hits that are put in their places one after the other come out ranked (`Hit.ranking`). A collector
keeps the first of them, up to its capacity (`TopHits.Holds`): to let the worst hit give way to a
better one comes to the same as putting the new hit in its place and cutting the ranking
(`TopHits.hits_offer`). Merging collectors keeps this: a hit that is not among the best of its own
collector has enough others before it in any larger ranking (`Hit.take_insert_of_le_countP`), so it
does not matter that the merge never sees it. Nor does the order in which the merge goes through a
heap, as long as hits that rank the same are the same (`Hit.Decided`).
-/

namespace Retrieval

variable {R : Type} [Scalar R]

namespace Hit

/-- Falling scores, and rising documents among equal ones. -/
def order : Hit R → Hit R → Ordering :=
  compareLex (fun a b => Scalar.order b.score a.score) (compareOn doc)

lemma before_iff {a b : Hit R} : a.before b = true ↔ order a b = .lt := by
  unfold before order compareLex compareOn
  cases e : Scalar.order b.score a.score with
  | eq => simp [e, Ordering.then, Nat.compare_eq_lt]
  | _ => simp [e, Ordering.then]

variable [Std.TransCmp (Scalar.order : R → R → Ordering)]

instance : Std.TransCmp (order : Hit R → Hit R → Ordering) :=
  have : Std.TransCmp fun a b : Hit R => Scalar.order b.score a.score := {
    eq_swap := Std.OrientedCmp.eq_swap
    isLE_trans := fun first second => Std.TransCmp.isLE_trans second first }
  inferInstanceAs (Std.TransCmp (compareLex _ _))

/-! ## Rankings -/

/-- Puts a hit in its place among ranked ones. -/
def insert (h : Hit R) : List (Hit R) → List (Hit R)
  | [] => [h]
  | k :: ks => if h.before k then h :: k :: ks else k :: insert h ks

/-- No hit ranks before an earlier one. -/
def Ranked (hits : List (Hit R)) : Prop := hits.Pairwise fun a b => (order a b).isLE

omit [Std.TransCmp (Scalar.order : R → R → Ordering)] in
/-- Putting a hit in its place adds it and nothing else. -/
lemma insert_perm (h : Hit R) (hits : List (Hit R)) : (h.insert hits).Perm (h :: hits) := by
  induction hits with
  | nil => exact .refl _
  | cons k hits ih =>
    rw [insert]
    split
    · exact .refl _
    · exact (ih.cons k).trans (.swap h k hits)

/-- Hits stay ranked when another is put in its place. -/
lemma Ranked.insert {hits : List (Hit R)} (ranked : Ranked hits) (h : Hit R) :
    Ranked (h.insert hits) := by
  induction hits with
  | nil => exact List.pairwise_singleton _ _
  | cons k hits ih =>
    obtain ⟨first, rest⟩ := List.pairwise_cons.mp ranked
    rw [Hit.insert]
    split
    · next before =>
      have lt : order h k = .lt := before_iff.mp before
      have le : (order h k).isLE := by rw [lt]; rfl
      refine List.pairwise_cons.mpr ⟨fun a mem => ?_, ranked⟩
      cases mem with
      | head => exact le
      | tail _ mem => exact Std.TransCmp.isLE_trans le (first a mem)
    · next after =>
      have le : (order k h).isLE := by
        have not : order h k ≠ .lt := fun lt => after (before_iff.mpr lt)
        have swap : order k h = (order h k).swap := Std.OrientedCmp.eq_swap
        rw [swap]
        cases e : order h k with
        | lt => exact absurd e not
        | _ => rfl
      refine List.pairwise_cons.mpr ⟨fun a mem => ?_, ih rest⟩
      have mem : a ∈ h :: hits := (insert_perm h hits).mem_iff.mp mem
      cases mem with
      | head => exact le
      | tail _ mem => exact first a mem

/-- Hits with others put in their places. -/
def insertAll (ranked hits : List (Hit R)) : List (Hit R) :=
  hits.foldl (fun ranked h => h.insert ranked) ranked

/-- Hits in the order of their ranks. -/
def ranking (hits : List (Hit R)) : List (Hit R) := insertAll [] hits

omit [Std.TransCmp (Scalar.order : R → R → Ordering)] in
lemma insertAll_append (ranked hits hits' : List (Hit R)) :
    insertAll ranked (hits ++ hits') = insertAll (insertAll ranked hits) hits' :=
  List.foldl_append

omit [Std.TransCmp (Scalar.order : R → R → Ordering)] in
lemma insertAll_perm (hits ranked : List (Hit R)) :
    (insertAll ranked hits).Perm (ranked ++ hits) := by
  induction hits generalizing ranked with
  | nil => rw [List.append_nil]; exact .refl _
  | cons h hits ih =>
    have step : (h.insert ranked ++ hits).Perm (h :: (ranked ++ hits)) :=
      (insert_perm h ranked).append_right hits
    exact (ih (h.insert ranked)).trans (step.trans List.perm_middle.symm)

lemma Ranked.insertAll {ranked : List (Hit R)} (h : Ranked ranked) (hits : List (Hit R)) :
    Ranked (insertAll ranked hits) := by
  induction hits generalizing ranked with
  | nil => exact h
  | cons hit hits ih => exact ih (h.insert hit)

omit [Std.TransCmp (Scalar.order : R → R → Ordering)] in
lemma ranking_perm (hits : List (Hit R)) : (ranking hits).Perm hits := insertAll_perm hits []

lemma ranked_ranking (hits : List (Hit R)) : Ranked (ranking hits) :=
  Ranked.insertAll List.Pairwise.nil hits

/-- Two hits of the same rank are hits on the same document. -/
lemma doc_eq_of_order {a b : Hit R} (le : (order a b).isLE) (ge : (order b a).isLE) :
    a.doc = b.doc := by
  have e : order a b = .eq := Std.OrientedCmp.isLE_antisymm le ge
  unfold order compareLex at e
  have e' := (Ordering.then_eq_eq.mp e).2
  exact Nat.compare_eq_eq.mp e'

/-- Hits of the same rank are the same. -/
def Decided (hits : List (Hit R)) : Prop := ∀ a ∈ hits, ∀ b ∈ hits, order a b = .eq → a = b

/-- Hits on different documents never rank the same. -/
lemma decided_of_nodup {hits : List (Hit R)} (once : (hits.map doc).Nodup) : Decided hits := by
  intro a mem b mem' same
  have le : (order a b).isLE := by rw [same]; rfl
  have ge : (order b a).isLE := by rw [Std.OrientedCmp.eq_comm.mp same]; rfl
  exact List.inj_on_of_nodup_map once mem mem' (doc_eq_of_order le ge)

/-- Hits have one ranking only, where those of the same rank are the same. -/
lemma Ranked.eq_of_decided {hits hits' : List (Hit R)} (ranked : Ranked hits)
    (ranked' : Ranked hits') (perm : hits.Perm hits') (decided : Decided hits) : hits = hits' := by
  refine List.Perm.eq_of_pairwise (fun a b mem mem' le ge => ?_) ranked ranked' perm
  exact decided a mem b (perm.mem_iff.mpr mem') (Std.OrientedCmp.isLE_antisymm le ge)

/-- Hits on different documents have one ranking only. -/
lemma Ranked.eq_of_perm {hits hits' : List (Hit R)} (ranked : Ranked hits) (ranked' : Ranked hits')
    (perm : hits.Perm hits') (once : (hits.map doc).Nodup) : hits = hits' :=
  ranked.eq_of_decided ranked' perm (decided_of_nodup once)

omit [Std.TransCmp (Scalar.order : R → R → Ordering)] in
lemma Decided.subset {hits hits' : List (Hit R)} (decided : Decided hits) (subset : hits' ⊆ hits) :
    Decided hits' :=
  fun a mem b mem' => decided a (subset mem) b (subset mem')

omit [Std.TransCmp (Scalar.order : R → R → Ordering)] in
lemma ranked_of_before {hits : List (Hit R)} (ranked : hits.Pairwise fun a b => a.before b = true) :
    Ranked hits :=
  ranked.imp fun {a b} before => by rw [before_iff.mp before]; rfl

/-- Ranked hits on different documents each rank before the later ones. -/
lemma Ranked.pairwise_before {hits : List (Hit R)} (ranked : Ranked hits)
    (once : (hits.map doc).Nodup) :
    hits.Pairwise fun a b => a.before b = true := by
  refine (List.Pairwise.and ranked (List.pairwise_map.mp once)).imp fun {a b} ⟨le, ne⟩ => ?_
  rw [before_iff]
  rcases Ordering.isLE_iff_eq_lt_or_eq_eq.mp le with lt | e
  · exact lt
  · have ge : (order b a).isLE := by
      rw [Std.OrientedCmp.eq_comm.mp e]
      rfl
    exact absurd (doc_eq_of_order le ge) ne

/-! ## The first of a ranking -/

omit [Std.TransCmp (Scalar.order : R → R → Ordering)] in
/-- To find the first hits, those after them do not matter. -/
lemma take_insert_take (h : Hit R) (hits : List (Hit R)) (k : Nat) :
    (h.insert (hits.take k)).take k = (h.insert hits).take k := by
  induction hits generalizing k with
  | nil => rw [List.take_nil]
  | cons a hits ih =>
    cases k with
    | zero => simp only [List.take_zero]
    | succ k =>
      rw [List.take_succ_cons]
      unfold insert
      split
      · cases k <;> simp [List.take_take]
      · rw [List.take_succ_cons, List.take_succ_cons, ih]

/-- A hit with `k` others before it does not change which are the first `k`. -/
lemma take_insert_of_le_countP {hits : List (Hit R)} (ranked : Ranked hits) (h : Hit R) {k : Nat}
    (enough : k ≤ hits.countP fun a => (order a h).isLE) :
    (h.insert hits).take k = hits.take k := by
  induction hits generalizing k with
  | nil =>
    have : k = 0 := Nat.le_zero.mp enough
    rw [this, List.take_zero, List.take_zero]
  | cons a hits ih =>
    obtain ⟨first, rest⟩ := List.pairwise_cons.mp ranked
    rw [insert]
    split
    · next before =>
      -- the hit would be the best of all, so that nothing is before it
      have lt : order h a = .lt := before_iff.mp before
      have none : ∀ b ∈ a :: hits, ¬(order b h).isLE := by
        intro b mem
        have le : (order a b).isLE := by
          cases mem with
          | head => exact Std.ReflCmp.isLE_rfl
          | tail _ mem => exact first b mem
        exact Std.OrientedCmp.not_isLE_of_lt (Std.TransCmp.lt_of_lt_of_isLE lt le)
      rw [List.countP_eq_zero.mpr (by simpa using none)] at enough
      have : k = 0 := Nat.le_zero.mp enough
      rw [this, List.take_zero, List.take_zero]
    · cases k with
      | zero => rw [List.take_zero, List.take_zero]
      | succ k =>
        have fewer : k ≤ hits.countP fun b => (order b h).isLE := by
          rw [List.countP_cons] at enough
          split at enough <;> omega
        rw [List.take_succ_cons, List.take_succ_cons, ih rest fewer]

/-- Hits with `k` others before each of them do not change which are the first `k`. -/
lemma take_insertAll_of_le_countP {hits : List (Hit R)} (ranked : Ranked hits) {k : Nat}
    (later : List (Hit R)) (enough : ∀ h ∈ later, k ≤ hits.countP fun a => (order a h).isLE) :
    (insertAll hits later).take k = hits.take k := by
  induction later generalizing hits with
  | nil => rfl
  | cons h later ih =>
    obtain ⟨here, rest⟩ := List.forall_mem_cons.mp enough
    have more : ∀ g ∈ later, k ≤ (h.insert hits).countP fun a => (order a g).isLE := by
      intro g mem
      rw [(insert_perm h hits).countP_eq, List.countP_cons]
      exact Nat.le_add_right_of_le (rest g mem)
    exact (ih (ranked.insert h) more).trans (take_insert_of_le_countP ranked h here)

/-- To rank hits beside others, their own first `k` are enough. -/
lemma take_insertAll_take {ranked hits : List (Hit R)} (h : Ranked ranked) (h' : Ranked hits)
    (k : Nat) : (insertAll ranked (hits.take k)).take k = (insertAll ranked hits).take k := by
  have split : insertAll ranked hits = insertAll (insertAll ranked (hits.take k)) (hits.drop k) := by
    rw [← insertAll_append, List.take_append_drop]
  rw [split]
  refine (take_insertAll_of_le_countP (h.insertAll _) _ fun g mem => ?_).symm
  -- every hit that is left out has all that are taken before it
  have full : (hits.take k).length = k := by
    have : k < hits.length := by
      by_contra le
      rw [List.drop_eq_nil_of_le (Nat.le_of_not_lt le)] at mem
      cases mem
    rw [List.length_take, Nat.min_eq_left this.le]
  have before : ∀ a ∈ hits.take k, (order a g).isLE := by
    intro a mem'
    have parts : Ranked (hits.take k ++ hits.drop k) := by rwa [List.take_append_drop]
    exact (List.pairwise_append.mp parts).2.2 a mem' g mem
  rw [(insertAll_perm _ ranked).countP_eq, List.countP_append, List.countP_eq_length.mpr before, full]
  exact Nat.le_add_left _ _

end Hit

/-! ## Heaps -/

namespace Hit

/-- A hit that ranks before the last one is put in its place among the others. -/
lemma insert_append_of_before {h last : Hit R} (before : h.before last = true)
    (hits : List (Hit R)) : h.insert (hits ++ [last]) = h.insert hits ++ [last] := by
  induction hits with
  | nil => exact if_pos before
  | cons k hits ih =>
    rw [List.cons_append, insert, insert]
    split
    · rfl
    · rw [ih, List.cons_append]

/-- A hit that ranks before none comes last. -/
lemma insert_eq_append {h : Hit R} {hits : List (Hit R)} (none : ∀ k ∈ hits, h.before k = false) :
    h.insert hits = hits ++ [h] := by
  induction hits with
  | nil => rfl
  | cons k hits ih =>
    obtain ⟨here, none⟩ := List.forall_mem_cons.mp none
    rw [insert, here, ih none]
    rfl

variable [Std.TransCmp (Scalar.order : R → R → Ordering)]

/-- A hit that does not rank before the last of a ranking ranks before none. -/
lemma Ranked.not_before {hits : List (Hit R)} {h last : Hit R} (ranked : Ranked (hits ++ [last]))
    (after : h.before last = false) : ∀ k ∈ hits ++ [last], h.before k = false := by
  have not : order h last ≠ .lt := fun lt => by rw [before_iff.mpr lt] at after; cases after
  intro k mem
  have le : (order k last).isLE := by
    rcases List.mem_append.mp mem with mem | mem
    · exact (List.pairwise_append.mp ranked).2.2 k mem last (List.mem_singleton_self last)
    · rw [List.mem_singleton.mp mem]
      exact Std.ReflCmp.isLE_rfl
  apply Bool.eq_false_iff.mpr
  intro before
  exact not (Std.TransCmp.lt_of_lt_of_isLE (before_iff.mp before) le)

/-- Adding a hit to a heap puts it in its place in the ranking. -/
lemma reverse_push {heap : List (Hit R)} (ranked : Ranked heap.reverse) (h : Hit R) :
    (h.push heap).reverse = h.insert heap.reverse := by
  induction heap with
  | nil => rfl
  | cons worst heap ih =>
    rw [List.reverse_cons] at ranked ⊢
    rw [push]
    split
    · next before =>
      rw [List.reverse_cons, ih (List.pairwise_append.mp ranked).1, insert_append_of_before before]
    · next after =>
      rw [insert_eq_append (ranked.not_before (Bool.eq_false_iff.mpr after)), List.reverse_cons,
        List.reverse_cons]

end Hit

/-! ## Collectors -/

namespace TopHits

/-- The collector has seen these hits, and keeps the first `k` of their ranking. -/
structure Holds (k : Nat) (seen : List (Hit R)) (t : TopHits R) : Prop where
  capacity : t.capacity = k
  hits : t.hits = (Hit.ranking seen).take k
  total : t.total = seen.length

variable {k : Nat} {seen seen' : List (Hit R)} {t u : TopHits R}

lemma holds_empty (k : Nat) : Holds k ([] : List (Hit R)) (empty k) := ⟨rfl, List.take_nil.symm, rfl⟩

omit [Scalar R] in
lemma length_hits (t : TopHits R) : t.hits.length = t.heap.length := List.length_reverse

lemma capacity_offer (t : TopHits R) (h : Hit R) : (t.offer h).capacity = t.capacity := by
  rw [offer]
  repeat' split
  all_goals rfl

variable [Std.TransCmp (Scalar.order : R → R → Ordering)]

/-- Offering a hit puts it in its place in the ranking, and cuts what there is no room for. -/
lemma hits_offer (ranked : Hit.Ranked t.hits) (fits : t.hits.length ≤ t.capacity) (h : Hit R) :
    (t.offer h).hits = (h.insert t.hits).take t.capacity := by
  obtain ⟨capacity, heap, total⟩ := t
  rw [length_hits] at fits
  have placed : (h.insert heap.reverse).length = heap.length + 1 := by
    rw [(Hit.insert_perm h _).length_eq, List.length_cons, List.length_reverse]
  rw [offer]
  split
  · next none =>
    dsimp only at none fits
    subst none
    rw [List.take_zero, hits, List.length_eq_zero_iff.mp (Nat.le_zero.mp fits)]
    rfl
  split
  · next room =>
    show (h.push heap).reverse = (h.insert heap.reverse).take capacity
    rw [Hit.reverse_push ranked, List.take_of_length_le (placed.le.trans room)]
  · next some_ full =>
    have all : heap.length = capacity := Nat.le_antisymm fits (Nat.le_of_not_lt full)
    cases heap with
    | nil => exact absurd all.symm some_
    | cons worst others =>
      rw [hits, List.reverse_cons] at ranked
      have length : others.reverse.length + 1 = capacity := by
        rw [List.length_reverse]
        exact all
      dsimp only [hits]
      split
      · next before =>
        rw [Hit.reverse_push (List.pairwise_append.mp ranked).1, List.reverse_cons,
          Hit.insert_append_of_before before, List.take_left']
        rw [(Hit.insert_perm h _).length_eq, List.length_cons, length]
      · next after =>
        have none := ranked.not_before (Bool.eq_false_iff.mpr after)
        rw [List.reverse_cons, Hit.insert_eq_append none, List.take_left']
        rw [List.length_append, List.length_singleton, length]

/-- Offering hits to a collector that keeps the first of a ranking puts them into the ranking. -/
lemma foldl_offer {ranking : List (Hit R)} (ranked : Hit.Ranked ranking) (capacity : t.capacity = k)
    (kept : t.hits = ranking.take k) (hits : List (Hit R)) :
    (hits.foldl offer t).capacity = k ∧
      (hits.foldl offer t).hits = (Hit.insertAll ranking hits).take k := by
  induction hits generalizing t ranking with
  | nil => exact ⟨capacity, kept⟩
  | cons h hits ih =>
    have kept' : (t.offer h).hits = (h.insert ranking).take k := by
      have fits : t.hits.length ≤ t.capacity := by
        rw [kept, capacity]
        exact List.length_take_le k ranking
      have sorted : Hit.Ranked t.hits := by
        rw [kept]
        exact ranked.sublist (List.take_sublist k ranking)
      rw [hits_offer sorted fits, kept, capacity]
      exact Hit.take_insert_take h ranking k
    exact ih (ranked.insert h) ((capacity_offer t h).trans capacity) kept'

lemma Holds.collect (holds : t.Holds k seen) (h : Hit R) : (t.collect h).Holds k (seen ++ [h]) := by
  obtain ⟨capacity, kept⟩ := foldl_offer (Hit.ranked_ranking seen) holds.capacity holds.hits [h]
  refine ⟨capacity, ?_, ?_⟩
  · rw [Hit.ranking, Hit.insertAll_append]
    exact kept
  · rw [List.length_append, ← holds.total]
    rfl

/-- A collector keeps the first of all hits that it is given. -/
lemma Holds.foldl_collect (holds : t.Holds k seen) (hits : List (Hit R)) :
    (hits.foldl TopHits.collect t).Holds k (seen ++ hits) := by
  induction hits generalizing t seen with
  | nil => rwa [List.append_nil]
  | cons h hits ih =>
    rw [List.append_cons seen h hits]
    exact ih (holds.collect h)

/-- Two collectors merge to one that has seen all hits, in whichever order the second one's heap is
gone through. -/
lemma Holds.merge (holds : t.Holds k seen) (holds' : u.Holds k seen') {heap : List (Hit R)}
    (order : heap.Perm u.heap) (decided : Hit.Decided (seen ++ seen')) :
    (t.merge { u with heap }).Holds k (seen ++ seen') := by
  have ranked := Hit.ranked_ranking seen
  have ranked' := Hit.ranked_ranking seen'
  obtain ⟨capacity, kept⟩ := foldl_offer ranked holds.capacity holds.hits heap
  refine ⟨capacity, ?_, ?_⟩
  · have all : (Hit.insertAll (Hit.ranking seen) (Hit.ranking seen')).Perm (seen ++ seen') :=
      (Hit.insertAll_perm _ _).trans ((Hit.ranking_perm seen).append (Hit.ranking_perm seen'))
    -- the heap holds the first of the other ranking, in some order
    have best : heap.Perm ((Hit.ranking seen').take k) := by
      rw [← holds'.hits]
      exact order.trans (List.reverse_perm _).symm
    have first : Hit.insertAll (Hit.ranking seen) heap =
        Hit.insertAll (Hit.ranking seen) ((Hit.ranking seen').take k) := by
      have perm := (Hit.insertAll_perm heap (Hit.ranking seen)).trans
        ((List.Perm.append_left _ best).trans (Hit.insertAll_perm _ _).symm)
      refine (ranked.insertAll _).eq_of_decided (ranked.insertAll _) perm ?_
      refine decided.subset fun h mem => ?_
      rcases List.mem_append.mp ((Hit.insertAll_perm _ _).mem_iff.mp mem) with mem | mem
      · exact List.mem_append_left _ ((Hit.ranking_perm seen).mem_iff.mp mem)
      · have mem' := List.mem_of_mem_take (best.mem_iff.mp mem)
        exact List.mem_append_right _ ((Hit.ranking_perm seen').mem_iff.mp mem')
    -- ranked before or after, the hits of the other collector come to the same ranking
    have same :
        Hit.insertAll (Hit.ranking seen) (Hit.ranking seen') = Hit.ranking (seen ++ seen') :=
      (ranked.insertAll _).eq_of_decided (Hit.ranked_ranking _)
        (all.trans (Hit.ranking_perm _).symm) (decided.subset fun h mem => all.mem_iff.mp mem)
    calc (t.merge { u with heap }).hits
        = (Hit.insertAll (Hit.ranking seen) heap).take k := kept
      _ = (Hit.insertAll (Hit.ranking seen) (Hit.ranking seen')).take k := by
          rw [first, Hit.take_insertAll_take ranked ranked']
      _ = (Hit.ranking (seen ++ seen')).take k := by rw [same]
  · rw [List.length_append, ← holds.total, ← holds'.total]
    rfl

/-- The collectors of several lists of hits merge to one that has seen all hits. -/
theorem Holds.foldl_merge (holds : t.Holds k seen) (parts : List (List (Hit R)))
    (once : ((seen ++ parts.flatten).map Hit.doc).Nodup) :
    ((parts.map fun hits => hits.foldl TopHits.collect (.empty k)).foldl TopHits.merge t).Holds k
      (seen ++ parts.flatten) := by
  induction parts generalizing seen t with
  | nil => rwa [List.flatten_nil, List.append_nil]
  | cons part parts ih =>
    rw [List.flatten_cons, ← List.append_assoc] at once ⊢
    have once' : ((seen ++ part).map Hit.doc).Nodup := by
      rw [List.map_append] at once
      exact (List.nodup_append.mp once).1
    have holds' : (part.foldl TopHits.collect (.empty k)).Holds k part :=
      (holds_empty k).foldl_collect part
    exact ih (holds.merge holds' (.refl _) (Hit.decided_of_nodup once')) once

omit [Std.TransCmp (Scalar.order : R → R → Ordering)] in
/-- Once a collector is full, the score of the last of the first `k` hits is the least one kept. -/
lemma Holds.leastScore? (holds : t.Holds k seen) :
    t.leastScore? = if 1 ≤ k ∧ k ≤ seen.length then ((Hit.ranking seen)[k - 1]?).map Hit.score
      else none := by
  have length : t.heap.length = min k seen.length := by
    rw [← length_hits, holds.hits, List.length_take, (Hit.ranking_perm seen).length_eq]
  have last : t.heap.head? = ((Hit.ranking seen).take k).getLast? := by
    rw [← holds.hits, TopHits.hits, List.getLast?_reverse]
  rw [TopHits.leastScore?, length, holds.capacity, last]
  by_cases room : seen.length < k
  · rw [if_pos (by omega), if_neg (by omega)]
  · rw [if_neg (by omega), List.getLast?_take]
    by_cases none : k = 0
    · rw [if_pos none, if_neg (by omega)]
      rfl
    · have inside : k - 1 < (Hit.ranking seen).length := by
        rw [(Hit.ranking_perm seen).length_eq]
        omega
      rw [if_neg none, if_pos (by omega), List.getElem?_eq_getElem inside]
      rfl

end TopHits

end Retrieval
