import Retrieval.Proofs.Candidates.Finding
import Retrieval.Proofs.Collection.Lossless
import Retrieval.Proofs.Evaluation.Adequacy
import Retrieval.Proofs.Evaluation.Soundness
import Retrieval.Proofs.Window.Unordered

/-!
# Positions come in order

The search for windows goes forward through lists of positions and never looks back, so it relies on
their order without checking it. The positions of a term rise in every document of an indexed
segment. Synonyms sort theirs, and ordered and proximity windows start at positions of their first
child. Only unordered windows may start twice at the same position, where lists have positions in
common, but their starts do not fall either. So the positions of any query come in order
(`Query.facts_inOrder`), and what a tree asks its nodes for positions comes in order wherever a
window is nested (`Query.positions_inOrder`).
-/

namespace Retrieval

/-! ## Terms -/

/-- The positions of a term in a stream rise. -/
lemma positionsIn_rising (term : String) (stream : List String) :
    (positionsIn term stream).Pairwise (· < ·) := by
  rw [positionsIn_eq]
  exact List.pairwise_lt_range.sublist List.filter_sublist

/-- In every posting of an indexed segment the positions rise. -/
lemma Segment.Indexed.positions_rising {s : Segment} {term field : String} {needed : Need}
    {p : Postings} (indexed : s.Indexed) (opened : s.cursor term field needed = .ok (some p)) :
    ∀ q ∈ p.rest, q.positions.Pairwise (· < ·) := by
  obtain ⟨docs, e⟩ := indexed.docs
  rw [e] at opened
  by_cases scores : needed = .scores
  · rw [Segment.cursor, if_pos scores] at opened
    cases opened
  · rw [Segment.cursor_ofDocuments scores] at opened
    split at opened
    · cases opened
    · cases opened
      intro q mem
      obtain ⟨d, _, _, same⟩ := mem_postingsOf.mp mem
      rw [same]
      exact positionsIn_rising term (d.stream field)

/-! ## Nodes -/

namespace Query

variable {R : Type}

mutual

/-- The positions of the query are starts of unordered windows: its own, or those of its first child
if it passes these on. -/
def startsUnordered : Query R → Bool
  | .join (.unorderedWindow _) _ => true
  | .join (.orderedWindow _) cs | .join (.prox _) cs => firstStartsUnordered cs
  | .modify .alwaysMatch c => startsUnordered c
  | .require _ v => startsUnordered v
  | _ => false

def firstStartsUnordered : List (Query R) → Bool
  | [] => false
  | c :: _ => startsUnordered c

end

end Query

/-- Positions do not fall, and they rise unless they may be repeated. -/
structure Facts.InOrder (repeats : Bool) (f : Facts) : Prop where
  ascend : f.positions.Pairwise (· ≤ ·)
  rising : repeats = false → f.positions.Pairwise (· < ·)

namespace Facts.InOrder

variable {repeats : Bool} {f : Facts}

/-- Positions that rise come in order. -/
lemma of_rising (rising : f.positions.Pairwise (· < ·)) : f.InOrder repeats :=
  ⟨rising.imp Nat.le_of_lt, fun _ => rising⟩

lemma of_nil (none : f.positions = []) : f.InOrder repeats := of_rising (none ▸ .nil)

lemma sublist {f' : Facts} (h : f.InOrder repeats) (fewer : f'.positions.Sublist f.positions) :
    f'.InOrder repeats :=
  ⟨h.ascend.sublist fewer, fun strict => (h.rising strict).sublist fewer⟩

end Facts.InOrder

namespace Leaf

variable {R : Type} {spot : Spot}

/-- What is found of a term in an indexed segment has rising positions. -/
lemma found_rising (indexed : spot.segment.Indexed) (term field : String) (needed : Need) :
    (Facts.ofPostings (found spot (spot.segment.cursor term field needed))).positions.Pairwise
      (· < ·) := by
  cases opened : spot.segment.cursor term field needed with
  | error e => exact .nil
  | ok p =>
    cases p with
    | none => exact .nil
    | some p =>
      change (Facts.ofPostings (p.at? spot.doc)).positions.Pairwise (· < ·)
      rw [Postings.at?]
      split
      · cases here : (p.advance spot.doc).rest with
        | nil =>
          simp only [Facts.ofPostings, here]
          exact .nil
        | cons q rest =>
          simp only [Facts.ofPostings, here]
          have mem : q ∈ (p.advance spot.doc).rest := here ▸ List.mem_cons_self
          exact indexed.positions_rising opened q ((List.dropWhile_sublist _).subset mem)
      · exact .nil

lemma facts_inOrder (indexed : spot.segment.Indexed) (l : Leaf R) (repeats : Bool) :
    (l.facts spot).InOrder repeats := by
  cases l with
  | term t =>
    rw [facts]
    cases t.countedField with
    | error e => exact .of_nil rfl
    | ok field => exact .of_rising (found_rising indexed t.text field .docs)
  | raw text =>
    rw [facts, Segment.rawCursor]
    split
    · exact .of_rising (found_rising indexed _ _ .docs)
    · exact .of_nil rfl
  | _ => exact .of_nil rfl

end Leaf

namespace Window

variable {lists : List (List Nat)}

/-- Only unordered windows start anywhere but at positions of the first list. -/
lemma find_sublist {kind : Window} (other : ∀ width, kind ≠ .unordered width) (first : List Nat) :
    (kind.find (first :: lists)).Sublist first := by
  rw [find.eq_def]
  dsimp only
  split
  · exact List.nil_sublist first
  · cases kind with
    | ordered step => exact orderedStarts_sublist step first lists
    | unordered width => exact absurd rfl (other width)
    | prox width => exact List.filter_sublist

/-- Unordered windows are found in an order that does not fall. -/
lemma find_unordered_ascend (width : Nat) (ascend : Ascend lists) :
    ((unordered width).find lists).Pairwise (· ≤ ·) := by
  rw [find.eq_def]
  split
  · exact .nil
  · split
    · exact .nil
    · exact unorderedStarts_ascend ascend

/-- A position that two lists have in common may start two windows. -/
example : (unordered 2).find [[1, 2], [1, 2]] = [1, 1, 2] := by decide +kernel

end Window

namespace Facts

variable {repeats : Bool}

/-- Ordered and proximity windows come in order if the positions of the first child do. -/
lemma inOrder_window (kind : Window) (other : ∀ width, kind ≠ .unordered width) {fs : List Facts}
    (first : ∀ f, fs.head? = some f → f.InOrder repeats) : (window kind fs).InOrder repeats := by
  cases fs with
  | nil => exact .of_nil rfl
  | cons f fs =>
    refine (first f rfl).sublist ?_
    rw [window]
    split
    · exact Window.find_sublist other f.positions
    · exact List.nil_sublist _

/-- Unordered windows do not fall if the positions of the children do not. -/
lemma inOrder_unordered (width : Nat) {fs : List Facts}
    (each : ∀ f ∈ fs, f.positions.Pairwise (· ≤ ·)) :
    (window (.unordered width) fs).InOrder true := by
  refine ⟨Window.find_unordered_ascend width ?_, nofun⟩
  split
  · exact List.forall_mem_map.mpr each
  · exact List.forall_mem_nil _

end Facts

namespace Query

variable {R : Type} {spot : Spot}

lemma first_inOrder {cs : List (Query R)} {fs : List Facts}
    (each : List.Forall₂ (fun c f => Facts.InOrder c.startsUnordered f) cs fs) :
    ∀ f, fs.head? = some f → f.InOrder (firstStartsUnordered cs) := by
  cases each with
  | nil => exact nofun
  | cons first _ =>
    rintro _ ⟨rfl⟩
    exact first

mutual

/-- The positions of a query in a document of an indexed segment come in order. -/
theorem facts_inOrder (indexed : spot.segment.Indexed) :
    (q : Query R) → (q.facts spot).InOrder q.startsUnordered
  | .leaf l => l.facts_inOrder indexed _
  | .modify m c => by
    cases m with
    | alwaysMatch =>
      obtain ⟨ascend, rising⟩ := facts_inOrder indexed c
      exact ⟨ascend, rising⟩
    | _ => exact .of_nil rfl
  | .join op cs => by
    have each := factsAll_inOrder indexed cs
    cases op with
    | synonym => exact .of_rising (sortedOnce_rising _).1
    | orderedWindow step => exact Facts.inOrder_window (.ordered step) nofun (first_inOrder each)
    | unorderedWindow width =>
      refine Facts.inOrder_unordered width fun f mem => ?_
      obtain ⟨c, _, inner⟩ := (exists_mem_of_forall₂ each).2 f mem
      exact inner.ascend
    | prox width => exact Facts.inOrder_window (.prox width) nofun (first_inOrder each)
    | _ => exact .of_nil rfl
  | .require c v => by
    rw [facts, Facts.require]
    split
    · obtain ⟨ascend, rising⟩ := facts_inOrder indexed v
      exact ⟨ascend, rising⟩
    · exact .of_nil rfl

theorem factsAll_inOrder (indexed : spot.segment.Indexed) : (cs : List (Query R)) →
    List.Forall₂ (fun c f => Facts.InOrder c.startsUnordered f) cs (factsAll spot cs)
  | [] => .nil
  | c :: cs => .cons (facts_inOrder indexed c) (factsAll_inOrder indexed cs)

end

end Query

/-! ## Compiled trees -/

namespace Query

variable {R : Type} [Scalar R]

/-- Positions always come in order, however deep windows are nested. Whatever was asked of a tree
before that inference has accepted, each of its nodes that is asked for positions, as the root may be
and every child of a window is, has positions that do not fall; and they rise unless they are starts
of an unordered window. Every node that is asked for positions has them in every document of the
segment, if nothing is in the words of the index. -/
theorem positions_inOrder {need : Need} {q q' : Query R} {segment : Segment} {defaultField : String}
    {share : Bool} {t : Tree R} (indexed : segment.Indexed) (inferred : q.infer need = .ok q')
    (compiled : Session.tree segment defaultField share q' = .ok t) {calls : List Tree.Call}
    {doc : Nat} (here : Tree.placeAfter none calls = some doc) {part : Query R} {p : Plan R}
    (demands : Demands need q' t.root .positions part p) :
    let node : Tree R := { t.after calls with root := p }
    (∀ positions, node.positions.1 = .ok positions → positions.Pairwise (· ≤ ·) ∧
      (part.startsUnordered = false → positions.Pairwise (· < ·))) ∧
    (NoRaw q → doc < segment.size → ∃ positions, node.positions.1 = .ok positions) := by
  intro node
  obtain ⟨σ, o, t', rfl, unbounded, _, tree_eq, compiled', stands⟩ | ⟨e, _, failed⟩ :=
    Session.tree_spec segment defaultField share q'
  · cases compiled.symm.trans tree_eq
    obtain ⟨compiled', stands'⟩ := compiled'.after stands calls
    rw [← t.after_root calls] at demands
    obtain ⟨b, meant, agree⟩ := (compiled'.below demands).agree
    rw [here] at stands'
    have stands'' : node.Stands o (some doc) := ⟨stands'.fits, stands'.doc, stands'.positioned⟩
    have answer : node.positions.1 = b.positions doc := (stands''.ask agree.positions).1
    rw [answer]
    constructor
    · intro positions told
      have tells : b.Tells doc _ _ :=
        Setting.meaning_tells (Overflow.ne_wraps unbounded) part meant
      rw [tells.positions positions told]
      have here : (σ.spot doc).segment.Indexed := indexed
      obtain ⟨ascend, rising⟩ := facts_inOrder here part
      exact ⟨ascend, rising⟩
    · intro noRaw inside
      have typed := demands.typed (infer_typed noRaw inferred)
      have gives : b.Gives False doc .positions :=
        Setting.meaning_gives_unless typed meant inside (Overflow.ne_stops unbounded)
      exact (gives.positions rfl).exists_ok id
  · cases compiled.symm.trans failed

/-- A phrase that goes on from an unordered window, in the second document of a segment. -/
theorem positions_inOrder_nested :
    let docs : List Document := [⟨"d0", [("body", "b")]⟩, ⟨"d1", [("body", "a b a b")]⟩]
    let segment := Segment.ofDocuments 0 docs
    let leaf (needed : Need) (text : String) : Query Float :=
      .leaf (.term { text, field := some "body", needed })
    let pair (needed : Need) : Query Float :=
      .join (.unorderedWindow 2) [leaf needed "a", leaf needed "b"]
    let q (needed : Need) : Query Float := .join (.orderedWindow 1) [pair needed, leaf needed "b"]
    segment.Indexed ∧ (q .docs).infer .positions = .ok (q .positions) ∧
      ∃ t p positions, Session.tree segment "body" true (q .positions) = .ok t ∧
        Demands .positions (q .positions) t.root .positions (pair .positions) p ∧
        ({ t.after [.moveTo 1, .matched] with root := p } : Tree Float).positions.1 = .ok positions ∧
        positions.Pairwise (· ≤ ·) := by
  intro docs segment leaf pair q
  have indexed : segment.Indexed := ⟨⟨docs, rfl⟩, by decide⟩
  have noRaw : (q .docs).NoRaw := by simp [q, pair, leaf, NoRaw, nodes, nodesAll]
  have inferred : (q .docs).infer .positions = .ok (q .positions) := by rfl
  have compiles : ((Session.tree segment "body" true (q .positions)).toOption.bind
      (·.root.children[0]?)).isSome = true := by decide +kernel
  obtain ⟨p, first⟩ := Option.isSome_iff_exists.mp compiles
  cases compiled : Session.tree segment "body" true (q .positions) with
  | error e =>
    rw [compiled] at first
    cases first
  | ok t =>
    rw [compiled] at first
    have demands : Demands .positions (q .positions) t.root .positions (pair .positions) p :=
      .child (i := 0) rfl first .root
    have here : Tree.placeAfter none [.moveTo 1, .matched] = some 1 := rfl
    obtain ⟨inOrder, told⟩ := positions_inOrder indexed inferred compiled here demands
    obtain ⟨positions, answer⟩ := told noRaw (by decide)
    exact ⟨indexed, inferred, t, p, positions, rfl, demands, answer, (inOrder positions answer).1⟩

end Query

end Retrieval
