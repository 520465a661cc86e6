/-!
# Windows

A window takes one position from each of several lists. `Window.find` returns where the windows of a
kind start, given one list of rising positions for each term. Ordered windows use no position twice;
unordered windows and proximity are decided for each start on its own.
-/

namespace Retrieval

/-- The largest position. -/
def maxPosition : Nat := 0xffffffff

/-- When positions form a window. -/
inductive Window where
  /-- In order, each at most `step` after the one before. -/
  | ordered (step : Nat)
  /-- In any order, within `width` consecutive positions. -/
  | unordered (width : Nat)
  /-- Every other one within `width` of the first. -/
  | prox (width : Nat)
  deriving Repr, DecidableEq

namespace Window

/-- The short name of a kind of window. -/
def name : Window → String
  | ordered _ => "ordered-window"
  | unordered _ => "unordered-window"
  | prox _ => "prox"

/-- A kind of window with its size. -/
def text : Window → String
  | ordered step => s!"Ordered \x7b step: {step} \x7d"
  | unordered width => s!"Unordered \x7b width: {width} \x7d"
  | prox width => s!"Prox \x7b width: {width} \x7d"

/-! ## Ordered windows -/

/-- How the search for a chain of positions ends. -/
inductive Chain where
  /-- Every list has a position near enough. -/
  | complete
  /-- Some list has its next position too far on. -/
  | broken
  /-- Some list has no position left. -/
  | exhausted
  deriving Repr, DecidableEq

/-- Follows a chain from position `last` through the lists, passing over positions that are not
after the link before. The lists are returned from their links on. -/
def follow (step : Nat) : (last : Nat) → List (List Nat) → Chain × List (List Nat)
  | _, [] => (.complete, [])
  | last, positions :: lists =>
    match positions.dropWhile (· ≤ last) with
    | [] => (.exhausted, [] :: lists)
    | next :: later =>
      if step < next - last then (.broken, (next :: later) :: lists)
      else
        let (chain, lists) := follow step next lists
        (chain, (next :: later) :: lists)

/-- The starts from which a chain runs through all lists. A complete chain uses up its links. -/
def orderedStarts (step : Nat) : (starts : List Nat) → List (List Nat) → List Nat
  | [], _ => []
  | start :: starts, lists =>
    match follow step start lists with
    | (.complete, lists) => start :: orderedStarts step starts (lists.map List.tail)
    | (.broken, lists) => orderedStarts step starts lists
    | (.exhausted, _) => []

/-! ## Unordered windows -/

/-- The first position of every list, if none is empty. -/
def fronts? (lists : List (List Nat)) : Option (List Nat) := lists.mapM List.head?

/-- Drops `least` from the first list that begins with it. -/
def dropLeast (least : Nat) : List (List Nat) → List (List Nat)
  | [] => []
  | positions :: lists =>
    if positions.head? = some least then positions.tail :: lists
    else positions :: dropLeast least lists

theorem length_dropLeast_lt {least : Nat} {lists : List (List Nat)}
    (h : ∃ ps ∈ lists, ps.head? = some least) :
    (dropLeast least lists).flatten.length < lists.flatten.length := by
  induction lists with
  | nil => obtain ⟨_, h, _⟩ := h; cases h
  | cons positions lists ih =>
    unfold dropLeast
    split
    · next hp =>
      cases positions with
      | nil => cases hp
      | cons p ps => simp
    · next hp =>
      obtain ⟨ps, hm, hps⟩ := h
      cases hm with
      | head => exact absurd hps hp
      | tail _ hm => simpa using ih ⟨ps, hm, hps⟩

theorem exists_head_of_mem_fronts {lists : List (List Nat)} {heads : List Nat} {p : Nat}
    (h : fronts? lists = some heads) (hp : p ∈ heads) : ∃ ps ∈ lists, ps.head? = some p := by
  induction lists generalizing heads with
  | nil => cases h; cases hp
  | cons positions lists ih =>
    simp only [fronts?, List.mapM_cons, Option.bind_eq_bind, Option.bind_eq_some_iff] at h
    obtain ⟨q, hq, qs, hqs, h⟩ := h
    cases h
    cases hp with
    | head => exact ⟨positions, by simp, hq⟩
    | tail _ hp =>
      obtain ⟨ps, hm, hps⟩ := ih hqs hp
      exact ⟨ps, by simp [hm], hps⟩

/-- Sweeps over all positions in rising order. The front positions of the lists form a window from
the least of them if the greatest is near enough; then the least is passed. -/
def unorderedStarts (width : Nat) (lists : List (List Nat)) : List Nat :=
  match _hf : fronts? lists with
  | none => []
  | some fronts =>
    match _hm : fronts.min?, fronts.max? with
    | some least, some greatest =>
      let later := unorderedStarts width (dropLeast least lists)
      if greatest - least < width then least :: later else later
    | _, _ => []
termination_by lists.flatten.length
decreasing_by
  exact length_dropLeast_lt (exists_head_of_mem_fronts _hf (List.min?_mem _hm))

/-! ## Proximity -/

/-- Whether some list position lies within `width` of `p`. Only the first that is not too early
needs a look. -/
def isNear (width p : Nat) (positions : List Nat) : Bool :=
  match positions.dropWhile (· < p - width) with
  | [] => false
  | q :: _ => q ≤ min (p + width) maxPosition

/-- The positions of the first list that every other list comes near. -/
def proxStarts (width : Nat) (starts : List Nat) (lists : List (List Nat)) : List Nat :=
  starts.filter fun p => lists.all (isNear width p)

/-- Where the windows of a kind start. There are none without lists or with an empty one. -/
def find (w : Window) (lists : List (List Nat)) : List Nat :=
  match lists with
  | [] => []
  | first :: rest =>
    if lists.any List.isEmpty then []
    else match w with
      | ordered step => orderedStarts step first rest
      | unordered width => unorderedStarts width lists
      | prox width => proxStarts width first rest

end Window

end Retrieval
