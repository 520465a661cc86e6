import Retrieval.Proofs.Window.Ordered
import Mathlib.Data.List.Perm.Subperm
import Mathlib.Data.List.Sort

/-!
# Unordered windows

The search for unordered windows sweeps over all positions in rising order. In each turn it looks at
the front position of every list (`Window.IsFront`) and passes the least of them
(`Window.Passes`). What has been passed lies before all that is left, so the front of a list is the
first of its positions that does not come before the least front: the least front starts a window
just if the greatest is near enough. Once a list has run out no later position can start one
(`Window.mem_unorderedStarts`). So the search loses no window, whatever the order of the lists
(`Window.find_unordered`).
-/

namespace Retrieval

namespace Window

variable {width least greatest m : Nat} {lists lists' : List (List Nat)}

/-! ## One turn -/

/-- The front positions of all lists lie between `least` and `greatest`, and both are among them. -/
structure IsFront (lists : List (List Nat)) (least greatest : Nat) : Prop where
  between : ∀ list ∈ lists, ∃ p, list.head? = some p ∧ least ≤ p ∧ p ≤ greatest
  first : ∃ list ∈ lists, list.head? = some least
  last : ∃ list ∈ lists, list.head? = some greatest

/-- One of the lists has lost its front position `least`; the others are as they were. -/
inductive Passes (least : Nat) : List (List Nat) → List (List Nat) → Prop where
  | here {list lists} : Passes least ((least :: list) :: lists) (list :: lists)
  | there {list lists lists'} :
    Passes least lists lists' →
    Passes least (list :: lists) (list :: lists')

/-- Some list is without a position if there are no fronts. -/
lemma nil_mem_of_fronts? (none : fronts? lists = none) : [] ∈ lists := by
  induction lists with
  | nil => cases none
  | cons list lists ih =>
    cases list with
    | nil => exact List.mem_cons_self
    | cons p list =>
      refine List.mem_cons_of_mem _ (ih ?_)
      cases rest : fronts? lists with
      | none => rfl
      | some fronts =>
        have all : fronts? ((p :: list) :: lists) = some (p :: fronts) := by
          rw [fronts?, List.mapM_cons]
          change (do return p :: (← fronts? lists)) = _
          rw [rest]
          rfl
        cases none.symm.trans all

/-- Fronts that are found are the front positions of all lists. -/
lemma exists_front {fronts : List Nat} (found : fronts? lists = some fronts) :
    ∀ list ∈ lists, ∃ p ∈ fronts, list.head? = some p := by
  induction lists generalizing fronts with
  | nil => exact List.forall_mem_nil _
  | cons list lists ih =>
    simp only [fronts?, List.mapM_cons, Option.bind_eq_bind, Option.bind_eq_some_iff] at found
    obtain ⟨p, head, rest, found, same⟩ := found
    cases same
    refine List.forall_mem_cons.mpr ⟨⟨p, List.mem_cons_self, head⟩, fun list' mem => ?_⟩
    obtain ⟨q, among, head'⟩ := ih found list' mem
    exact ⟨q, List.mem_cons_of_mem p among, head'⟩

lemma passes_dropLeast (first : ∃ list ∈ lists, list.head? = some least) :
    Passes least lists (dropLeast least lists) := by
  induction lists with
  | nil =>
    obtain ⟨_, mem, _⟩ := first
    cases mem
  | cons list lists ih =>
    obtain ⟨front, mem, head⟩ := first
    rw [dropLeast]
    split
    · next here =>
      obtain ⟨later, rfl⟩ := List.head?_eq_some_iff.mp here
      exact .here
    · next other =>
      refine .there (ih ⟨front, List.mem_of_ne_of_mem ?_ mem, head⟩)
      rintro rfl
      exact other head

/-- In a turn the least front is passed. -/
lemma turn_of_fronts? {fronts : List Nat} (found : fronts? lists = some fronts)
    (least_ : fronts.min? = some least) (greatest_ : fronts.max? = some greatest) :
    IsFront lists least greatest ∧ Passes least lists (dropLeast least lists) := by
  have first := exists_head_of_mem_fronts found (List.min?_mem least_)
  have last := exists_head_of_mem_fronts found (List.max?_mem greatest_)
  refine ⟨⟨fun list mem => ?_, first, last⟩, passes_dropLeast first⟩
  obtain ⟨p, among, head⟩ := exists_front found list mem
  exact ⟨p, head, (List.min?_eq_some_iff.mp least_).2 p among,
    (List.max?_eq_some_iff.mp greatest_).2 p among⟩

lemma IsFront.least_le (front : IsFront lists least greatest) : least ≤ greatest := by
  obtain ⟨list, mem, _⟩ := front.first
  obtain ⟨p, _, from_, until_⟩ := front.between list mem
  exact from_.trans until_

/-- Nothing is lost in a turn but the position that is passed. -/
lemma Passes.perm (passes : Passes least lists lists') :
    lists.flatten.Perm (least :: lists'.flatten) := by
  induction passes with
  | here => exact .refl _
  | there _ ih => exact (ih.append_left _).trans List.perm_middle

/-- A turn of the sweep, and what it adds to the starts. -/
structure Turn (width : Nat) (lists : List (List Nat)) (least greatest : Nat)
    (later : List (List Nat)) : Prop where
  front : IsFront lists least greatest
  passes : Passes least lists later
  starts : unorderedStarts width lists =
    if greatest - least < width then least :: unorderedStarts width later
    else unorderedStarts width later

/-- The sweep is over where a list has run out; otherwise it takes a turn. -/
lemma unorderedStarts_cases (width : Nat) (lists : List (List Nat)) :
    (lists = [] ∨ [] ∈ lists) ∧ unorderedStarts width lists = [] ∨
      ∃ least greatest later, Turn width lists least greatest later := by
  have starts := unorderedStarts.eq_def width lists
  split at starts
  · next none => exact .inl ⟨.inr (nil_mem_of_fronts? none), starts⟩
  · next fronts found =>
    split at starts
    · next least greatest least_ greatest_ =>
      obtain ⟨front, passes⟩ := turn_of_fronts? found least_ greatest_
      exact .inr ⟨least, greatest, _, front, passes, starts⟩
    · next none =>
      refine .inl ⟨.inl (List.eq_nil_iff_forall_not_mem.mpr fun list mem => ?_), starts⟩
      obtain ⟨p, among, _⟩ := exists_front found list mem
      cases fronts with
      | nil => cases among
      | cons q fronts => exact none _ _ List.min?_cons' List.max?_cons'

/-- What holds of lists of which one has run out, and holds before a turn if it holds after it, holds
of all lists. -/
@[elab_as_elim]
theorem sweep_induction {motive : List (List Nat) → Prop} (width : Nat)
    (finished : ∀ lists, lists = [] ∨ [] ∈ lists → unorderedStarts width lists = [] → motive lists)
    (turn : ∀ lists least greatest later, Turn width lists least greatest later →
      motive later → motive lists)
    (lists : List (List Nat)) : motive lists := by
  induction left : lists.flatten.length using Nat.strongRecOn generalizing lists with
  | ind n ih =>
    subst left
    obtain ⟨done, none⟩ | ⟨least, greatest, later, t⟩ := unorderedStarts_cases width lists
    · exact finished lists done none
    · have fewer : later.flatten.length < lists.flatten.length := by
        rw [t.passes.perm.length_eq, List.length_cons]
        exact Nat.lt_succ_self _
      exact turn lists least greatest later t (ih _ fewer later rfl)

/-! ## Fronts -/

/-- No list falls. -/
abbrev Ascend (lists : List (List Nat)) : Prop := ∀ list ∈ lists, list.Pairwise (· ≤ ·)

lemma Rise.ascend (rise : Rise lists) : Ascend lists :=
  fun list mem => (rise list mem).imp Nat.le_of_lt

/-- The first position of a list that does not fall is a least one. -/
lemma head_le {list : List Nat} {p q : Nat} (ascends : list.Pairwise (· ≤ ·))
    (head : list.head? = some p) (mem : q ∈ list) : p ≤ q := by
  obtain ⟨later, rfl⟩ := List.head?_eq_some_iff.mp head
  exact first_le ascends mem

/-- Every list has one of the `width` positions from `m` on. -/
def Reaches (width : Nat) (lists : List (List Nat)) (m : Nat) : Prop :=
  ∀ list ∈ lists, ∃ q ∈ list, m ≤ q ∧ q < m + width

lemma Reaches.mono {width' : Nat} (le : width ≤ width') (reaches : Reaches width lists m) :
    Reaches width' lists m := by
  intro list mem
  obtain ⟨q, mem, from_, until_⟩ := reaches list mem
  exact ⟨q, mem, from_, by omega⟩

namespace IsFront

variable (front : IsFront lists least greatest)
include front

/-- Each list has its front. -/
lemma nil_not_mem : ¬(lists = [] ∨ [] ∈ lists) := by
  rintro (rfl | mem)
  · obtain ⟨_, mem, _⟩ := front.first
    cases mem
  · obtain ⟨p, head, _⟩ := front.between [] mem
    cases head

/-- Nothing that is left lies before the least front. -/
lemma le (ascend : Ascend lists) (mem : m ∈ lists.flatten) : least ≤ m := by
  obtain ⟨list, among, mem⟩ := List.mem_flatten.mp mem
  obtain ⟨p, head, le, _⟩ := front.between list among
  exact le.trans (head_le (ascend list among) head mem)

/-- The least front starts a window just if the greatest is near enough. -/
lemma reaches_iff (ascend : Ascend lists) :
    Reaches width lists least ↔ greatest - least < width := by
  constructor
  · intro reaches
    obtain ⟨list, among, head⟩ := front.last
    obtain ⟨q, mem, _, until_⟩ := reaches list among
    have := head_le (ascend list among) head mem
    omega
  · intro near list among
    obtain ⟨p, head, from_, until_⟩ := front.between list among
    exact ⟨p, List.mem_of_head? head, from_, by omega⟩

end IsFront

/-! ## What a turn leaves -/

namespace Passes

variable (passes : Passes least lists lists')
include passes

lemma ascend (ascend : Ascend lists) : Ascend lists' := by
  induction passes with
  | here =>
    obtain ⟨first, rest⟩ := List.forall_mem_cons.mp ascend
    exact List.forall_mem_cons.mpr ⟨(List.pairwise_cons.mp first).2, rest⟩
  | there _ ih =>
    obtain ⟨first, rest⟩ := List.forall_mem_cons.mp ascend
    exact List.forall_mem_cons.mpr ⟨first, ih rest⟩

/-- A position that is passed is of no use to the windows of later starts. -/
lemma reaches_iff (later : least < m) : Reaches width lists m ↔ Reaches width lists' m := by
  unfold Reaches
  induction passes with
  | here =>
    rw [List.forall_mem_cons, List.forall_mem_cons, List.exists_mem_cons_iff, or_iff_right]
    rintro ⟨from_, _⟩
    omega
  | there _ ih => rw [List.forall_mem_cons, List.forall_mem_cons, ih]

end Passes

/-! ## Windows that are found -/

/-- Starts are positions of the lists, none taken more often than it occurs there. -/
lemma unorderedStarts_subperm (width : Nat) (lists : List (List Nat)) :
    (unorderedStarts width lists).Subperm lists.flatten := by
  induction lists using sweep_induction width with
  | finished lists _ none => exact none ▸ List.nil_subperm
  | turn lists least greatest later t ih =>
    have more : (least :: unorderedStarts width later).Subperm lists.flatten :=
      ((List.subperm_cons least).mpr ih).trans t.passes.perm.symm.subperm
    rw [t.starts]
    split
    · exact more
    · exact List.subperm_cons_self.trans more

/-- Starts are found in an order that does not fall. -/
lemma unorderedStarts_ascend (ascend : Ascend lists) :
    (unorderedStarts width lists).Pairwise (· ≤ ·) := by
  induction lists using sweep_induction width with
  | finished lists _ none => exact none ▸ .nil
  | turn lists least greatest later t ih =>
    have rest := ih (t.passes.ascend ascend)
    rw [t.starts]
    split
    · refine List.pairwise_cons.mpr ⟨fun m mem => t.front.le ascend ?_, rest⟩
      have left := (unorderedStarts_subperm width later).subset mem
      exact t.passes.perm.symm.subset (List.mem_cons_of_mem least left)
    · exact rest

/-- Where no position is in two lists, windows start at the positions from which every list is
reached. -/
lemma mem_unorderedStarts (ascend : Ascend lists) (once : lists.flatten.Nodup) :
    m ∈ unorderedStarts width lists ↔ m ∈ lists.flatten ∧ Reaches width lists m := by
  induction lists using sweep_induction width with
  | finished lists done none =>
    rw [none]
    refine ⟨nofun, fun ⟨mem, reaches⟩ => ?_⟩
    rcases done with rfl | empty
    · cases mem
    · obtain ⟨_, mem, _⟩ := reaches [] empty
      cases mem
  | turn lists least greatest later t ih =>
    have once' := t.passes.perm.nodup_iff.mp once
    obtain ⟨passed, once'⟩ := List.nodup_cons.mp once'
    have found : m ∈ unorderedStarts width lists ↔
        m = least ∧ greatest - least < width ∨ m ∈ unorderedStarts width later := by
      rw [t.starts]
      split
      · next near => simp [near]
      · next far => simp [far]
    rw [found, ih (t.passes.ascend ascend) once', t.passes.perm.mem_iff, List.mem_cons, or_and_right]
    refine or_congr (and_congr_right ?_) (and_congr_right fun mem => ?_)
    · rintro rfl
      exact (t.front.reaches_iff ascend).symm
    · -- what is left comes after the position that is passed
      have le := t.front.le ascend (t.passes.perm.symm.subset (List.mem_cons_of_mem least mem))
      have other : least ≠ m := fun same => passed (same ▸ mem)
      exact (t.passes.reaches_iff (Nat.lt_of_le_of_ne le other)).symm

/-- Lists that rise and have no position in common have none twice. -/
lemma Rise.nodup_flatten (rise : Rise lists) (apart : lists.Pairwise List.Disjoint) :
    lists.flatten.Nodup :=
  List.nodup_flatten.mpr ⟨fun list mem => (rise list mem).nodup, apart⟩

/-- Starts rise where no position is in two lists. -/
lemma unorderedStarts_rising (ascend : Ascend lists) (once : lists.flatten.Nodup) :
    (unorderedStarts width lists).Pairwise (· < ·) := by
  obtain ⟨list, perm, sublist⟩ := unorderedStarts_subperm width lists
  have nodup := perm.nodup (once.sublist sublist)
  exact (unorderedStarts_ascend ascend).imp₂ (fun _ _ le ne => Nat.lt_of_le_of_ne le ne) nodup

/-! ## Turns and differences

Each turn passes a position, so there are no more turns than positions and one to find that the
sweep is over. A turn only subtracts the least front from the greatest.
-/

/-- The starts that the sweep finds, unless it takes more than so many turns or a difference cannot
be told. -/
def unorderedStarts? (width : Nat) : (turns : Nat) → List (List Nat) → Option (List Nat)
  | 0, _ => none
  | turns + 1, lists =>
    match fronts? lists with
    | none => some []
    | some fronts =>
      match fronts.min?, fronts.max? with
      | some least, some greatest => do
        let apart ← difference? greatest least
        let later ← unorderedStarts? width turns (dropLeast least lists)
        return if apart < width then least :: later else later
      | _, _ => some []

lemma unorderedStarts?_eq {turns : Nat} (enough : lists.flatten.length < turns) :
    unorderedStarts? width turns lists = some (unorderedStarts width lists) := by
  induction turns generalizing lists with
  | zero => exact absurd enough (Nat.not_lt_zero _)
  | succ turns ih =>
    have starts := unorderedStarts.eq_def width lists
    rw [unorderedStarts?]
    split at starts
    · next none => rw [none, starts]
    · next fronts found =>
      rw [found]
      split at starts
      · next least greatest least_ greatest_ =>
        obtain ⟨front, passes⟩ := turn_of_fronts? found least_ greatest_
        have fewer : (dropLeast least lists).flatten.length < turns := by
          have one := passes.perm.length_eq
          rw [List.length_cons] at one
          omega
        have told : difference? greatest least = some (greatest - least) := if_pos front.least_le
        simp only [least_, greatest_, told, starts, ih fewer]
        rfl
      · next none =>
        rw [starts]
        cases fronts with
        | nil => rfl
        | cons p fronts => exact absurd List.max?_cons' (none _ _ List.min?_cons')

/-- Nothing is found where a list is empty. -/
lemma find_of_empty {kind : Window} (empty : [] ∈ lists) : kind.find lists = [] := by
  have none : lists.any List.isEmpty = true := List.any_eq_true.mpr ⟨[], empty, rfl⟩
  cases lists with
  | nil => cases empty
  | cons first rest => simp only [find, none, if_true]

lemma any_isEmpty_of_full (full : [] ∉ lists) : lists.any List.isEmpty = false := by
  rw [List.any_eq_false]
  rintro list mem empty
  exact full (List.isEmpty_iff.mp empty ▸ mem)

lemma find_unordered_eq (width : Nat) (some_ : lists ≠ []) (full : [] ∉ lists) :
    (unordered width).find lists = unorderedStarts width lists := by
  cases lists with
  | nil => exact absurd rfl some_
  | cons first rest => simp only [find, any_isEmpty_of_full full, Bool.false_eq_true, if_false]

/-- Unordered windows are found exactly. The sweep comes to an end without subtracting a later
position from an earlier one. Windows start, in rising order and each once, at those positions of
the lists from which every list has a position within `width`; so the order of the lists does not
matter, and a larger width loses no window. -/
theorem find_unordered (width : Nat) (some_ : lists ≠ []) (full : [] ∉ lists) (rise : Rise lists)
    (apart : lists.Pairwise List.Disjoint) :
    let starts := (unordered width).find lists
    unorderedStarts? width (lists.flatten.length + 1) lists = some starts ∧
      starts.Pairwise (· < ·) ∧
      (∀ m, m ∈ starts ↔
        (∃ list ∈ lists, m ∈ list) ∧ ∀ list ∈ lists, ∃ q ∈ list, m ≤ q ∧ q < m + width) ∧
      (∀ lists', lists'.Perm lists → (unordered width).find lists' = starts) ∧
      ∀ width', width ≤ width' → starts.Sublist ((unordered width').find lists) := by
  intro starts
  have ascend := rise.ascend
  have once := rise.nodup_flatten apart
  have starts_ : starts = unorderedStarts width lists := find_unordered_eq width some_ full
  have rising (width : Nat) : (unorderedStarts width lists).Pairwise (· < ·) :=
    unorderedStarts_rising ascend once
  rw [starts_]
  refine ⟨unorderedStarts?_eq (Nat.lt_succ_self _), rising width, fun m => ?_,
    fun lists' perm => ?_, fun width' le => ?_⟩
  · rw [mem_unorderedStarts ascend once, List.mem_flatten]
    rfl
  · have some_' : lists' ≠ [] := fun none => some_ (none ▸ perm).nil_eq.symm
    rw [find_unordered_eq width some_' (mt perm.mem_iff.mp full)]
    have ascend' : Ascend lists' := fun list mem => ascend list (perm.subset mem)
    have once' : lists'.flatten.Nodup := perm.flatten.nodup_iff.mpr once
    refine (unorderedStarts_rising ascend' once').eq_of_mem_iff (rising width) fun m => ?_
    rw [mem_unorderedStarts ascend once, mem_unorderedStarts ascend' once', perm.flatten.mem_iff]
    exact and_congr_right fun _ => forall_congr' fun list => imp_congr_left perm.mem_iff
  · rw [find_unordered_eq width' some_ full]
    have more : unorderedStarts width lists ⊆ unorderedStarts width' lists := by
      intro m mem
      obtain ⟨mem, reaches⟩ := (mem_unorderedStarts ascend once).mp mem
      exact (mem_unorderedStarts ascend once).mpr ⟨mem, reaches.mono le⟩
    exact List.sublist_of_subperm_of_pairwise ((rising width).nodup.subperm more) (rising width)
      (rising width')

/-- Two lists that take turns: the first window is in the order of the lists and the last is not,
and between them two positions are too far from the next one of the other list. -/
theorem find_unordered_turns :
    let lists := [[0, 9, 10], [1, 5, 8]]
    lists ≠ [] ∧ [] ∉ lists ∧ Rise lists ∧ lists.Pairwise List.Disjoint ∧
      (unordered 2).find lists = [0, 8] ∧
      ∀ m, m ∈ [0, 8] ↔
        (∃ list ∈ lists, m ∈ list) ∧ ∀ list ∈ lists, ∃ q ∈ list, m ≤ q ∧ q < m + 2 := by
  intro lists
  have some_ : lists ≠ [] := List.cons_ne_nil _ _
  have full : [] ∉ lists := by simp [lists]
  have rise : Rise lists := by simp [Rise, lists]
  have apart : lists.Pairwise List.Disjoint := by simp [lists]
  obtain ⟨starts, _, mem_starts, _⟩ := find_unordered 2 some_ full rise apart
  have swept : unorderedStarts? 2 (lists.flatten.length + 1) lists = some [0, 8] := by rfl
  have found : (unordered 2).find lists = [0, 8] := Option.some.inj (starts.symm.trans swept)
  refine ⟨some_, full, rise, apart, found, ?_⟩
  rw [← found]
  exact mem_starts

end Window

end Retrieval
