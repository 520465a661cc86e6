import Retrieval.Window
import Retrieval.Proofs.Collection.Rising
import Mathlib.Data.List.Forall2

/-!
# Ordered windows

The search for ordered windows follows a chain from each start and keeps, of every list, what lies
from the chain's link on. A window is a chain that runs through all lists, and it uses up its links.
So the windows that are found are real, and no two of them share a position of a list
(`Window.orderedStarts_genuine`). What the search passes over no later chain needs
(`Window.follow_keeps`); where links have to be adjacent, a chain has no choice, and the search
finds just the phrases (`Window.find_phrase`).
-/

namespace Retrieval

namespace Window

variable {step last start : Nat} {positions window : List Nat} {lists lists' : List (List Nat)}

/-- Every list rises. -/
def Rise (lists : List (List Nat)) : Prop := ∀ positions ∈ lists, positions.Pairwise (· < ·)

lemma rise_cons : Rise (positions :: lists) ↔ positions.Pairwise (· < ·) ∧ Rise lists :=
  List.forall_mem_cons

/-- A window has its positions in the lists, one in each. -/
abbrev Within (window : List Nat) (lists : List (List Nat)) : Prop :=
  List.Forall₂ (· ∈ ·) window lists

/-- A window: one position of each list, each after the one before and at most `step` from it. -/
structure IsWindow (step : Nat) (lists : List (List Nat)) (window : List Nat) : Prop where
  within : Within window lists
  near : window.IsChain fun p q => p < q ∧ q - p ≤ step

/-! ## What is left of the lists -/

/-- What is not after a position comes before the next number. -/
lemma dropWhile_le_eq (last : Nat) (positions : List Nat) :
    positions.dropWhile (· ≤ last) = positions.dropWhile (· < last + 1) := by
  have same : (fun q : Nat => decide (q ≤ last)) = fun q => decide (q < last + 1) :=
    funext fun q => decide_eq_decide.mpr Nat.lt_succ_iff.symm
  rw [same]

/-- Passing over a rising list drops what is not after a position. -/
lemma mem_dropWhile_le (rising : positions.Pairwise (· < ·)) {p : Nat} :
    p ∈ positions.dropWhile (· ≤ last) ↔ last < p ∧ p ∈ positions := by
  rw [dropWhile_le_eq]
  exact mem_dropWhile_lt (rising.imp Nat.le_of_lt)

/-- The next position in a rising list is the first after the last one. -/
lemma least_of_dropWhile {next : Nat} {later : List Nat} (rising : positions.Pairwise (· < ·))
    (found : positions.dropWhile (· ≤ last) = next :: later) :
    last < next ∧ next ∈ positions ∧ ∀ p ∈ positions, last < p → next ≤ p := by
  rw [dropWhile_le_eq] at found
  exact least_of_dropWhile_lt (rising.imp Nat.le_of_lt) found

/-- What is left of some lists. -/
abbrev Left (lists' lists : List (List Nat)) : Prop := List.Forall₂ (· <:+ ·) lists' lists

lemma Left.refl (lists : List (List Nat)) : Left lists lists :=
  List.forall₂_same.mpr fun _ _ => List.suffix_rfl

lemma Left.rise (left : Left lists' lists) (rise : Rise lists) : Rise lists' := by
  induction left with
  | nil => exact List.forall_mem_nil _
  | cons suffix _ ih =>
    obtain ⟨rising, rise⟩ := rise_cons.mp rise
    exact rise_cons.mpr ⟨rising.sublist suffix.sublist, ih rise⟩

lemma Left.within (left : Left lists' lists) (within : Within window lists') :
    Within window lists := by
  induction left generalizing window with
  | nil => exact within
  | cons suffix _ ih =>
    cases within with
    | cons mem within => exact .cons (suffix.subset mem) (ih within)

/-- Using up the first position of each list leaves the others. -/
lemma Left.tail (left : Left lists' lists) : Left (lists'.map List.tail) lists := by
  induction left with
  | nil => exact .nil
  | cons suffix _ ih => exact .cons ((List.tail_suffix _).trans suffix) ih

/-! ## Following a chain -/

/-- Following a chain only passes over positions. -/
lemma follow_left (step last : Nat) (lists : List (List Nat)) :
    Left (follow step last lists).2 lists := by
  induction lists generalizing last with
  | nil => exact .nil
  | cons positions lists ih =>
    have passed : positions.dropWhile (· ≤ last) <:+ positions := List.dropWhile_suffix _
    rw [follow]
    split
    · exact .cons List.nil_suffix (Left.refl lists)
    · next next later found =>
      rw [found] at passed
      split
      · exact .cons passed (Left.refl lists)
      · exact .cons passed (ih next)

/-- No position is passed over that a later chain needs, wherever its links are. -/
lemma follow_keeps (rise : Rise lists) (within : Within window lists)
    (later : (last :: window).Pairwise (· < ·)) : Within window (follow step last lists).2 := by
  induction within generalizing last with
  | nil => exact .nil
  | @cons q positions window lists mem within ih =>
    obtain ⟨rising, rise⟩ := rise_cons.mp rise
    obtain ⟨after, ascends⟩ := List.pairwise_cons.mp later
    have kept : q ∈ positions.dropWhile (· ≤ last) :=
      (mem_dropWhile_le rising).mpr ⟨after q List.mem_cons_self, mem⟩
    rw [follow]
    split
    · next none => exact absurd (none ▸ kept) List.not_mem_nil
    · next next later found =>
      rw [found] at kept
      split
      · exact .cons kept within
      · refine .cons kept (ih rise (List.pairwise_cons.mpr ?_))
        -- the search links to the first position there is, so the chain is never behind it
        have first := (least_of_dropWhile rising found).2.2 q mem (after q List.mem_cons_self)
        obtain ⟨beyond, ascends⟩ := List.pairwise_cons.mp ascends
        exact ⟨fun p mem => first.trans_lt (beyond p mem), ascends⟩

/-- A chain that is complete has its links at the front of what is left. -/
lemma exists_links (rise : Rise lists) (complete : (follow step last lists).1 = .complete) :
    ∃ links, List.Forall₂ (fun p list => list.head? = some p) links (follow step last lists).2 ∧
      (last :: links).IsChain fun p q => p < q ∧ q - p ≤ step := by
  induction lists generalizing last with
  | nil => exact ⟨[], .nil, .singleton _⟩
  | cons positions lists ih =>
    obtain ⟨rising, rise⟩ := rise_cons.mp rise
    rw [follow] at complete ⊢
    split at complete
    · cases complete
    · next next later found =>
      split at complete
      · cases complete
      · next near =>
        obtain ⟨links, heads, chain⟩ := ih rise complete
        have after := (least_of_dropWhile rising found).1
        refine ⟨next :: links, ?_, .cons_cons ⟨after, Nat.le_of_not_lt near⟩ chain⟩
        rw [if_neg near]
        exact .cons rfl heads

/-! ## Windows that are found -/

/-- A window that has its positions in what is left of some lists has them in the lists. -/
lemma IsWindow.of_left (real : IsWindow step lists' window) (left : Left lists' lists) :
    IsWindow step lists window :=
  ⟨left.within real.within, real.near⟩

/-- Positions that are left when the front of each list is used up are after it. -/
lemma within_tails (rise : Rise lists) {links : List Nat}
    (heads : List.Forall₂ (fun p list => list.head? = some p) links lists)
    (within : Within window (lists.map List.tail)) : List.Forall₂ (· < ·) links window := by
  induction heads generalizing window with
  | nil =>
    cases within
    exact .nil
  | @cons p list links lists head _ ih =>
    obtain ⟨rising, rise⟩ := rise_cons.mp rise
    cases within with
    | cons mem within =>
      refine .cons ?_ (ih rise within)
      cases list with
      | nil => cases head
      | cons _ later =>
        cases head
        exact (List.pairwise_cons.mp rising).1 _ mem

lemma within_of_heads {links : List Nat}
    (heads : List.Forall₂ (fun p list => list.head? = some p) links lists) : Within links lists :=
  heads.imp fun _ _ => List.mem_of_head?

/-- Each start that is found begins a window, and the windows use the positions of each list in
rising order. -/
lemma exists_windows (step : Nat) {starts : List Nat} (rising : starts.Pairwise (· < ·))
    (rise : Rise lists) :
    ∃ windows : List (List Nat),
      windows.map List.head? = (orderedStarts step starts lists).map some ∧
        (∀ w ∈ windows, IsWindow step (starts :: lists) w) ∧
          windows.Pairwise (List.Forall₂ (· < ·)) := by
  induction starts generalizing lists with
  | nil => exact ⟨[], rfl, List.forall_mem_nil _, .nil⟩
  | cons start starts ih =>
    obtain ⟨first, rising⟩ := List.pairwise_cons.mp rising
    have left := follow_left step start lists
    have more {lists' : List (List Nat)} (left : Left lists' lists) {w : List Nat}
        (real : IsWindow step (starts :: lists') w) : IsWindow step ((start :: starts) :: lists) w :=
      real.of_left (.cons (List.suffix_cons start starts) left)
    have rise' := left.rise rise
    rw [orderedStarts]
    split
    · next chain found =>
      rw [found] at left rise'
      have complete : (follow step start lists).1 = .complete := by rw [found]
      obtain ⟨links, heads, near⟩ := exists_links rise complete
      rw [found] at heads
      obtain ⟨windows, starts_, real, apart⟩ := ih rising (left.tail.rise rise)
      refine ⟨(start :: links) :: windows, congrArg (some start :: ·) starts_, ?_, ?_⟩
      · refine List.forall_mem_cons.mpr ⟨⟨?_, near⟩, fun w mem => more left.tail (real w mem)⟩
        exact .cons List.mem_cons_self (left.within (within_of_heads heads))
      · refine List.pairwise_cons.mpr ⟨fun w mem => ?_, apart⟩
        obtain ⟨within, _⟩ := real w mem
        cases within with
        | cons mem within => exact .cons (first _ mem) (within_tails rise' heads within)
    · next chain found =>
      rw [found] at left rise'
      obtain ⟨windows, starts_, real, apart⟩ := ih rising rise'
      exact ⟨windows, starts_, fun w mem => more left (real w mem), apart⟩
    · exact ⟨[], rfl, List.forall_mem_nil _, .nil⟩

/-- The starts that are found are among those that are tried, in their order. -/
lemma orderedStarts_sublist (step : Nat) (starts : List Nat) (lists : List (List Nat)) :
    (orderedStarts step starts lists).Sublist starts := by
  induction starts generalizing lists with
  | nil => exact .slnil
  | cons start starts ih =>
    rw [orderedStarts]
    split
    · exact (ih _).cons_cons start
    · exact (ih _).cons start
    · exact List.nil_sublist _

/-! ## Subtraction

Positions are numbers without a sign. The search subtracts positions of which the first is after the
second, so it does not matter that the difference of others could not be told.
-/

/-- The difference of two numbers, if it is one. -/
def difference? (p q : Nat) : Option Nat := if q ≤ p then some (p - q) else none

/-- Follows a chain, unless a difference cannot be told. -/
def follow? (step : Nat) : (last : Nat) → List (List Nat) → Option (Chain × List (List Nat))
  | _, [] => some (.complete, [])
  | last, positions :: lists =>
    match positions.dropWhile (· ≤ last) with
    | [] => some (.exhausted, [] :: lists)
    | next :: later => do
      if step < (← difference? next last) then return (.broken, (next :: later) :: lists)
      else
        let (chain, lists) ← follow? step next lists
        return (chain, (next :: later) :: lists)

/-- The starts of ordered windows, unless a difference cannot be told. -/
def orderedStarts? (step : Nat) : (starts : List Nat) → List (List Nat) → Option (List Nat)
  | [], _ => some []
  | start :: starts, lists => do
    match ← follow? step start lists with
    | (.complete, lists) => return start :: (← orderedStarts? step starts (lists.map List.tail))
    | (.broken, lists) => orderedStarts? step starts lists
    | (.exhausted, _) => return []

lemma follow?_eq (step last : Nat) (lists : List (List Nat)) :
    follow? step last lists = some (follow step last lists) := by
  induction lists generalizing last with
  | nil => rfl
  | cons positions lists ih =>
    rw [follow?, follow]
    cases found : positions.dropWhile (· ≤ last) with
    | nil => rfl
    | cons next later =>
      have after : ¬next ≤ last := by
        have stops := List.head?_dropWhile_not (fun p : Nat => decide (p ≤ last)) positions
        rw [found] at stops
        exact of_decide_eq_false stops
      have told : difference? next last = some (next - last) := if_pos (Nat.le_of_not_le after)
      dsimp only
      rw [told, ih]
      by_cases far : step < next - last
      · rw [if_pos far]
        exact if_pos far
      · rw [if_neg far]
        exact if_neg far

/-- Every difference that the search needs can be told. -/
lemma orderedStarts?_eq (step : Nat) (starts : List Nat) (lists : List (List Nat)) :
    orderedStarts? step starts lists = some (orderedStarts step starts lists) := by
  induction starts generalizing lists with
  | nil => rfl
  | cons start starts ih =>
    rw [orderedStarts?, orderedStarts, follow?_eq]
    cases follow step start lists with
    | mk chain left =>
      cases chain with
      | complete =>
        show (do return start :: (← orderedStarts? step starts (left.map List.tail))) = some _
        rw [ih]
        rfl
      | broken => exact ih left
      | exhausted => rfl

/-- Ordered windows are genuine and disjoint. The search never subtracts a later position from an
earlier one. It finds rising starts, each the first position of a window; in every list the windows
use rising positions, so that no position is used twice. -/
theorem orderedStarts_genuine (step : Nat) {first : List Nat} {rest : List (List Nat)}
    (rise : Rise (first :: rest)) :
    let starts := orderedStarts step first rest
    orderedStarts? step first rest = some starts ∧ starts.Pairwise (· < ·) ∧
      ∃ windows : List (List Nat), windows.map List.head? = starts.map some ∧
        (∀ w ∈ windows, IsWindow step (first :: rest) w) ∧
        windows.Pairwise (List.Forall₂ (· < ·)) ∧
        ∀ i < (first :: rest).length, (windows.map (·[i]?)).Nodup := by
  intro starts
  obtain ⟨rising, rise⟩ := rise_cons.mp rise
  obtain ⟨windows, heads, real, apart⟩ := exists_windows step rising rise
  refine ⟨orderedStarts?_eq .., rising.sublist (orderedStarts_sublist ..), windows, heads, real,
    apart, fun i inside => List.pairwise_map.mpr (apart.imp_of_mem fun mem mem' below => ?_)⟩
  have here {w : List Nat} (mem : w ∈ windows) : i < w.length :=
    (real w mem).within.length_eq.symm ▸ inside
  rw [List.getElem?_eq_getElem (here mem), List.getElem?_eq_getElem (here mem')]
  exact fun same => (below.get (here mem) (here mem')).ne (Option.some.inj same)

/-- The third list has no position left for the second start, near as it is. -/
theorem orderedStarts_genuine_three :
    let lists := [[0, 4], [1, 5], [2, 9]]
    Rise lists ∧ orderedStarts 1 [0, 4] [[1, 5], [2, 9]] = [0] ∧
      ∃ windows : List (List Nat), windows.map List.head? = [some 0] ∧
        (∀ w ∈ windows, IsWindow 1 lists w) ∧ windows.Pairwise (List.Forall₂ (· < ·)) ∧
        ∀ i < 3, (windows.map (·[i]?)).Nodup := by
  intro lists
  have rise : Rise lists := by simp [Rise, lists]
  exact ⟨rise, rfl, (orderedStarts_genuine 1 rise).2.2⟩

/-! ## Phrases -/

/-- A phrase runs through the lists from `s` on, from each position to the next number. -/
def IsPhrase (s : Nat) (lists : List (List Nat)) : Prop := Within (List.range' s lists.length) lists

lemma isPhrase_cons {s : Nat} :
    IsPhrase s (positions :: lists) ↔ s ∈ positions ∧ IsPhrase (s + 1) lists :=
  List.forall₂_cons

/-- A phrase from `s` takes the number `s + i` from the list with the number `i`. -/
lemma isPhrase_iff {s : Nat} : IsPhrase s lists ↔ ∀ i (h : i < lists.length), s + i ∈ lists[i] := by
  simp [IsPhrase, Within, List.forall₂_iff_get]

/-- Adjacent links are numbered one after the other. -/
lemma links_eq_range' {links : List Nat}
    (near : (last :: links).IsChain fun p q => p < q ∧ q - p ≤ 1) :
    links = List.range' (last + 1) links.length := by
  induction links generalizing last with
  | nil => rfl
  | cons link links ih =>
    obtain ⟨⟨after, close⟩, near⟩ := List.isChain_cons_cons.mp near
    have next : link = last + 1 := by omega
    rw [List.length_cons, List.range'_succ, ← next, ← ih near]

lemma range'_lt_range' {a b : Nat} (lt : a < b) (n : Nat) :
    List.Forall₂ (· < ·) (List.range' a n) (List.range' b n) := by
  induction n generalizing a b with
  | zero => exact .nil
  | succ n ih => exact .cons lt (ih (Nat.succ_lt_succ lt))

/-- Chains after one that used up the front of each list find what they need in the rest. -/
lemma within_tails_of_lt {links : List Nat}
    (heads : List.Forall₂ (fun p list => list.head? = some p) links lists)
    (after : List.Forall₂ (· < ·) links window) (within : Within window lists) :
    Within window (lists.map List.tail) := by
  induction heads generalizing window with
  | nil =>
    cases within
    exact .nil
  | @cons p list links lists head _ ih =>
    cases after with
    | cons lt after =>
      cases within with
      | cons mem within =>
        refine .cons ?_ (ih after within)
        cases mem with
        | head =>
          cases head
          exact absurd lt (Nat.lt_irrefl _)
        | tail _ mem => exact mem

/-- A chain whose links have to be adjacent is followed to its end if there is one. -/
lemma follow_of_isPhrase (rise : Rise lists) (phrase : IsPhrase (last + 1) lists) :
    (follow 1 last lists).1 = .complete := by
  induction lists generalizing last with
  | nil => rfl
  | cons positions lists ih =>
    obtain ⟨rising, rise⟩ := rise_cons.mp rise
    obtain ⟨mem, phrase⟩ := isPhrase_cons.mp phrase
    have kept : last + 1 ∈ positions.dropWhile (· ≤ last) :=
      (mem_dropWhile_le rising).mpr ⟨Nat.lt_succ_self last, mem⟩
    rw [follow]
    split
    · next none => exact absurd (none ▸ kept) List.not_mem_nil
    · next next later found =>
      obtain ⟨after, _, least⟩ := least_of_dropWhile rising found
      have next : next = last + 1 := (least _ mem (Nat.lt_succ_self last)).antisymm after
      rw [next, if_neg (by omega)]
      exact ih rise phrase

/-- Phrases in what is left of some lists are phrases in the lists. -/
lemma Left.isPhrase {s : Nat} (left : Left lists' lists) (phrase : IsPhrase s lists') :
    IsPhrase s lists := by
  rw [IsPhrase, ← left.length_eq]
  exact left.within phrase

/-- No position is passed over that a later phrase needs. -/
lemma follow_keeps_phrase {s : Nat} (rise : Rise lists) (later : last < s)
    (phrase : IsPhrase (s + 1) lists) : IsPhrase (s + 1) (follow 1 last lists).2 := by
  rw [IsPhrase, (follow_left 1 last lists).length_eq]
  refine follow_keeps rise phrase (List.pairwise_cons.mpr ⟨fun p mem => ?_, List.pairwise_lt_range'⟩)
  have := (List.mem_range'_1.mp mem).1
  omega

/-- A complete chain of adjacent links is a phrase, and using it up does no harm to later ones. -/
lemma isPhrase_of_complete (rise : Rise lists) (complete : (follow 1 last lists).1 = .complete) :
    IsPhrase (last + 1) lists ∧ ∀ s, last < s → IsPhrase (s + 1) lists →
      IsPhrase (s + 1) ((follow 1 last lists).2.map List.tail) := by
  have left := follow_left 1 last lists
  obtain ⟨links, heads, near⟩ := exists_links rise complete
  have adjacent : links = List.range' (last + 1) lists.length := by
    rw [← left.length_eq, ← heads.length_eq]
    exact links_eq_range' near
  constructor
  · rw [IsPhrase, ← adjacent]
    exact left.within (within_of_heads heads)
  · intro s later phrase
    have kept := follow_keeps_phrase rise later phrase
    rw [IsPhrase, left.length_eq] at kept
    rw [IsPhrase, left.tail.length_eq]
    refine within_tails_of_lt heads ?_ kept
    rw [adjacent]
    exact range'_lt_range' (Nat.succ_lt_succ later) lists.length

/-- Where a list is used up no chain is left. -/
lemma not_within_of_exhausted (exhausted : (follow step last lists).1 = .exhausted) :
    ¬Within window (follow step last lists).2 := by
  induction lists generalizing last window with
  | nil => cases exhausted
  | cons positions lists ih =>
    rw [follow] at exhausted ⊢
    split at exhausted
    · rintro ⟨⟩
      contradiction
    · next next later found =>
      split at exhausted
      · cases exhausted
      · next near =>
        rw [if_neg near]
        rintro ⟨⟩
        next within => exact ih exhausted within

/-- Windows of adjacent positions start just where phrases do. -/
lemma mem_orderedStarts {starts : List Nat} (rising : starts.Pairwise (· < ·)) (rise : Rise lists)
    {s : Nat} : s ∈ orderedStarts 1 starts lists ↔ s ∈ starts ∧ IsPhrase (s + 1) lists := by
  induction starts generalizing lists with
  | nil => exact ⟨nofun, nofun⟩
  | cons start starts ih =>
    obtain ⟨first, rising⟩ := List.pairwise_cons.mp rising
    have left := follow_left 1 start lists
    have keeps (mem : s ∈ starts) : IsPhrase (s + 1) lists → IsPhrase (s + 1) _ :=
      follow_keeps_phrase rise (first s mem)
    -- the start itself begins a phrase just if its chain is complete
    have ends {verdict : Chain} (verdict_ : (follow 1 start lists).1 = verdict)
        (other : verdict ≠ .complete) : ¬(s = start ∧ IsPhrase (s + 1) lists) := by
      rintro ⟨rfl, phrase⟩
      exact other (verdict_.symm.trans (follow_of_isPhrase rise phrase))
    rw [orderedStarts, List.mem_cons, or_and_right]
    split
    · next chain found =>
      obtain ⟨phrase, keeps⟩ := isPhrase_of_complete rise (congrArg Prod.fst found)
      rw [found] at left keeps
      rw [List.mem_cons, ih rising (left.tail.rise rise)]
      refine or_congr ⟨?_, And.left⟩ (and_congr_right fun mem => ?_)
      · rintro rfl
        exact ⟨rfl, phrase⟩
      · exact ⟨left.tail.isPhrase, keeps s (first s mem)⟩
    · next chain found =>
      rw [or_iff_right (ends (congrArg Prod.fst found) nofun)]
      rw [found] at left keeps
      rw [ih rising (left.rise rise)]
      exact and_congr_right fun mem => ⟨left.isPhrase, keeps mem⟩
    · next chain found =>
      have exhausted : (follow 1 start lists).1 = .exhausted := congrArg Prod.fst found
      rw [or_iff_right (ends exhausted nofun)]
      exact ⟨nofun, fun ⟨mem, phrase⟩ => absurd (keeps mem phrase) (not_within_of_exhausted exhausted)⟩

/-- Phrases are found exactly. Windows of adjacent positions start, in rising order and each once,
at the positions `s` of the first list such that every list has the position `s + i`, where `i` is
its place. -/
theorem find_phrase (some_ : lists ≠ []) (rise : Rise lists) :
    let starts := (ordered 1).find lists
    starts.Pairwise (· < ·) ∧ ∀ s, s ∈ starts ↔ ∀ i (h : i < lists.length), s + i ∈ lists[i] := by
  intro starts
  obtain ⟨first, rest, rfl⟩ := List.exists_cons_of_ne_nil some_
  obtain ⟨rising, rise'⟩ := rise_cons.mp rise
  by_cases empty : (first :: rest).any List.isEmpty = true
  · have none : starts = [] := if_pos empty
    obtain ⟨list, mem, nil⟩ := List.any_eq_true.mp empty
    obtain ⟨i, inside, rfl⟩ := List.getElem_of_mem mem
    rw [none]
    refine ⟨.nil, fun s => ⟨nofun, fun phrase => ?_⟩⟩
    have here : s + i ∈ (first :: rest)[i] := phrase i inside
    rw [List.isEmpty_iff.mp nil] at here
    exact absurd here List.not_mem_nil
  · have found : starts = orderedStarts 1 first rest := if_neg empty
    rw [found]
    refine ⟨rising.sublist (orderedStarts_sublist ..), fun s => ?_⟩
    rw [mem_orderedStarts rising rise', ← isPhrase_cons, isPhrase_iff]

/-- A term that is repeated in a phrase: it stands three times in a row, so the phrase stands twice,
and the second time shares a position with the first. -/
theorem find_phrase_repeated :
    let lists := [[0, 1, 2, 7], [0, 1, 2, 7]]
    lists ≠ [] ∧ Rise lists ∧ (ordered 1).find lists = [0, 1] ∧
      ∀ s, s ∈ [0, 1] ↔ ∀ i (h : i < lists.length), s + i ∈ lists[i] := by
  intro lists
  have rise : Rise lists := by simp [Rise, lists]
  have some_ : lists ≠ [] := List.cons_ne_nil _ _
  exact ⟨some_, rise, rfl, (find_phrase some_ rise).2⟩

end Window

end Retrieval
