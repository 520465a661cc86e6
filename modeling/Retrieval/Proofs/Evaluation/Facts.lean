import Retrieval.Proofs.Evaluation.Reading

/-!
# What is true of a query in a document

Whether a query matches a document, how often and where can be told from the query and the postings
of the document's segment, without needs, cursors or an order in which children are asked
(`Query.facts`). The same goes for its score, once it is said how a retrieval model scores a count
(`Query.score`). What a query answers, if it answers, is what is true of it
(`Setting.meaning_tells`). Whatever is counted in a document also matches it
(`Query.facts_counted`).
-/

namespace Retrieval

/-- A document of a segment, and the field of lengths that name none. -/
structure Spot where
  segment : Segment
  defaultField : String
  doc : Nat

/-! ## Facts -/

/-- The summary of counts that can be added without a bound. -/
def Summary.value : Summary → List Nat → Nat
  | smallest, counts => counts.min?.getD 0
  | ceiling, counts => addUp counts - (counts.length - 1)

/-- What can be asked of a query in a document, apart from its score. -/
structure Facts where
  matched : Bool
  count : Nat
  positions : List Nat

namespace Facts

/-- A node that only matches or not. -/
def boolean (hit : Bool) : Facts := ⟨hit, if hit then 1 else 0, []⟩

/-- A node that has a score but no count. -/
def scoring (hit : Bool) : Facts := ⟨hit, 0, []⟩

/-- A node that has a count but no positions. -/
def counting (hit : Bool) (count : Nat) : Facts := ⟨hit, count, []⟩

/-- A cursor that has been looked for on a document. -/
def ofPostings : Option Postings → Facts
  | some p => ⟨true, p.count, p.rest.head?.elim [] Posting.positions⟩
  | none => ⟨false, 0, []⟩

/-- Windows start only where all children match. -/
def window (kind : Window) (cs : List Facts) : Facts :=
  let starts := kind.find (if cs.all matched then cs.map positions else [])
  ⟨!starts.isEmpty, starts.length, starts⟩

def summary (kind : Summary) (cs : List Facts) : Facts :=
  .counting (cs.all matched) (if cs.all matched then kind.value (cs.map count) else 0)

/-- Values of `v` where `c` matches. -/
def require (c v : Facts) : Facts :=
  if c.matched then { v with matched := true } else ⟨false, 0, []⟩

end Facts

variable {R : Type}

namespace Leaf

/-- Where the postings of a term are on the document, if it occurs there. -/
def found (spot : Spot) (opened : Except Fault (Option Postings)) : Option Postings :=
  opened.toOption.join.bind (·.at? spot.doc)

def facts (spot : Spot) : Leaf R → Facts
  | .term t => .ofPostings
    (found spot (do spot.segment.cursor t.text (← t.countedField) .docs))
  | .lengths l => .counting true
    ((spot.segment.lengthOf spot.doc (l.field.getD spot.defaultField)).toOption.getD 0)
  | .constScore _ => .scoring false
  | .constCount n _ => .counting true n
  | .constBool b => .boolean b
  | .whitelist w =>
    .boolean (((Session.idsWithin spot.segment w).toOption.getD []).contains spot.doc)
  | .always => .boolean true
  | .never => .boolean false
  | .raw text => .ofPostings (found spot (spot.segment.rawCursor text))

end Leaf

def Modifier.facts (c : Facts) : Modifier R → Facts
  | .alwaysMatch => { c with matched := true }
  | .weight _ | .scorer .. | .countToScore | .boolToScore .. => .scoring c.matched
  | .countToBool gt => .boolean (c.matched && gt < c.count)

def Operator.facts (cs : List Facts) : Operator R → Facts
  | .and => .boolean (cs.all Facts.matched)
  | .or => .boolean (cs.any Facts.matched)
  | .combine _ | .mult => .scoring (cs.any Facts.matched)
  | .max => .counting (cs.any Facts.matched) ((cs.map Facts.count).foldl Max.max 0)
  | .synonym => ⟨cs.any Facts.matched, (cs.map Facts.count).foldl (· + ·) 0,
    Answers.sortedOnce (cs.map Facts.positions).flatten⟩
  | .orderedWindow step => .window (.ordered step) cs
  | .unorderedWindow width => .window (.unordered width) cs
  | .prox width => .window (.prox width) cs
  | .smallerCount => .summary .smallest cs
  | .windowCeiling _ => .summary .ceiling cs
  | .multi names =>
    .counting (cs.any Facts.matched) ((cs[Answers.primary names]?).elim 0 Facts.count)

namespace Query

mutual

/-- What is true of a query in a document. -/
def facts (spot : Spot) : Query R → Facts
  | .leaf l => l.facts spot
  | .modify m c => m.facts (facts spot c)
  | .join op cs => op.facts (factsAll spot cs)
  | .require c v => .require (facts spot c) (facts spot v)

def factsAll (spot : Spot) : List (Query R) → List Facts
  | [] => []
  | c :: cs => facts spot c :: factsAll spot cs

end

lemma factsAll_eq_map (spot : Spot) (cs : List (Query R)) :
    factsAll spot cs = cs.map (facts spot) := by
  induction cs with
  | nil => rfl
  | cons c cs ih => rw [factsAll, ih, List.map_cons]

end Query

/-! ## Sums of counts -/

/-- Whether a node adds up the counts of its children. -/
def Operator.adds : Operator R → Bool
  | .synonym | .windowCeiling _ => true
  | _ => false

/-- Wherever counts are added up for a query in a document, there is room for their sum. -/
def Query.SumsFit (spot : Spot) (q : Query R) : Prop :=
  ∀ op cs, .join op cs ∈ q.nodes → op.adds = true →
    addUp ((factsAll spot cs).map Facts.count) < countLimit

/-! ## What is counted matches -/

/-- A query that is counted in a document matches it. -/
def Facts.Counted (f : Facts) : Prop := 0 < f.count → f.matched = true

lemma Facts.counted_boolean (hit : Bool) : (boolean hit).Counted := by
  cases hit with
  | true => exact fun _ => rfl
  | false => exact fun some_ => absurd some_ (Nat.lt_irrefl 0)

lemma Facts.counted_scoring (hit : Bool) : (scoring hit).Counted :=
  fun some_ => absurd some_ (Nat.lt_irrefl 0)

lemma Facts.counted_ofPostings (p : Option Postings) : (ofPostings p).Counted := by
  cases p with
  | some p => exact fun _ => rfl
  | none => exact fun some_ => absurd some_ (Nat.lt_irrefl 0)

lemma Leaf.facts_counted (spot : Spot) (l : Leaf R) : (l.facts spot).Counted := by
  cases l with
  | term t => exact Facts.counted_ofPostings _
  | raw text => exact Facts.counted_ofPostings _
  | constScore x => exact Facts.counted_scoring _
  | constBool b => exact Facts.counted_boolean _
  | whitelist w => exact Facts.counted_boolean _
  | never => exact Facts.counted_boolean _
  | _ => exact fun _ => rfl

lemma Modifier.facts_counted (c : Facts) (m : Modifier R) : (m.facts c).Counted := by
  cases m with
  | alwaysMatch => exact fun _ => rfl
  | countToBool gt => exact Facts.counted_boolean _
  | _ => exact Facts.counted_scoring _

/-- Where nothing but zeros is put together, the result is zero. -/
lemma exists_pos_of_foldl {f : Nat → Nat → Nat} (zero : f 0 0 = 0) {ns : List Nat}
    (some_ : 0 < ns.foldl f 0) : ∃ n ∈ ns, 0 < n := by
  by_contra none
  have zeros : ∀ n ∈ ns, n = 0 := fun n mem => Nat.eq_zero_of_not_pos fun pos => none ⟨n, mem, pos⟩
  have nothing : ns.foldl f 0 = 0 := by
    clear some_ none
    induction ns with
    | nil => rfl
    | cons n ns ih =>
      obtain ⟨first, rest⟩ := List.forall_mem_cons.mp zeros
      rw [List.foldl_cons, first, zero, ih rest]
  omega

/-- A child that is counted matches, and so does what matches as soon as a child does. -/
lemma any_matched_of_count {cs : List Facts} (counted : ∀ c ∈ cs, c.Counted)
    (some_ : ∃ n ∈ cs.map Facts.count, 0 < n) : cs.any Facts.matched = true := by
  obtain ⟨_, among, pos⟩ := some_
  obtain ⟨c, mem, rfl⟩ := List.mem_map.mp among
  exact List.any_eq_true.mpr ⟨c, mem, counted c mem pos⟩

lemma Facts.counted_window (kind : Window) (cs : List Facts) : (window kind cs).Counted := by
  intro some_
  have starts : (window kind cs).positions ≠ [] := List.ne_nil_of_length_pos some_
  change (!(window kind cs).positions.isEmpty) = true
  simpa using starts

lemma Facts.counted_summary (kind : Summary) (cs : List Facts) : (summary kind cs).Counted := by
  intro some_
  change 0 < (if cs.all matched then _ else 0) at some_
  split at some_
  · next all => exact all
  · exact absurd some_ (Nat.lt_irrefl 0)

lemma Operator.facts_counted {cs : List Facts} (counted : ∀ c ∈ cs, c.Counted) (op : Operator R) :
    (op.facts cs).Counted := by
  cases op with
  | and => exact Facts.counted_boolean _
  | or => exact Facts.counted_boolean _
  | combine ws => exact Facts.counted_scoring _
  | mult => exact Facts.counted_scoring _
  | max => exact fun some_ => any_matched_of_count counted (exists_pos_of_foldl rfl some_)
  | synonym => exact fun some_ => any_matched_of_count counted (exists_pos_of_foldl rfl some_)
  | orderedWindow step => exact Facts.counted_window _ _
  | unorderedWindow width => exact Facts.counted_window _ _
  | prox width => exact Facts.counted_window _ _
  | smallerCount => exact Facts.counted_summary _ _
  | windowCeiling n => exact Facts.counted_summary _ _
  | multi names =>
    intro some_
    change 0 < (cs[Answers.primary names]?).elim 0 Facts.count at some_
    cases primary : cs[Answers.primary names]? with
    | none =>
      rw [primary] at some_
      exact absurd some_ (Nat.lt_irrefl 0)
    | some c =>
      rw [primary] at some_
      exact any_matched_of_count counted
        ⟨_, List.mem_map_of_mem (List.mem_of_getElem? primary), some_⟩

lemma Facts.counted_require (c : Facts) (v : Facts) : (require c v).Counted := by
  intro some_
  unfold require at some_ ⊢
  split
  · rfl
  · next not =>
    rw [if_neg not] at some_
    exact absurd some_ (Nat.lt_irrefl 0)

namespace Query

mutual

/-- Whatever is counted in a document matches it. -/
theorem facts_counted (spot : Spot) : (q : Query R) → (q.facts spot).Counted
  | .leaf l => l.facts_counted spot
  | .modify m c => m.facts_counted (c.facts spot)
  | .join op cs => op.facts_counted (factsAll_counted spot cs)
  | .require c v => Facts.counted_require (c.facts spot) (v.facts spot)

theorem factsAll_counted (spot : Spot) : (cs : List (Query R)) → ∀ f ∈ factsAll spot cs, f.Counted
  | [] => List.forall_mem_nil _
  | c :: cs => List.forall_mem_cons.mpr ⟨facts_counted spot c, factsAll_counted spot cs⟩

end

end Query

/-! ## Scores -/

/-- How a retrieval model with its statistics scores a count in a document, normalised by the
lengths of a field. -/
abbrev Rating (R : Type) := Model R → Option Statistics → Option String → Nat → Nat → R

variable [Scalar R]

def Leaf.score (spot : Spot) : Leaf R → R
  | .constScore x => x
  | l => Scalar.ofBool (l.facts spot).matched

/-- The score of a modified query, whose child is `c` and scores `inner`. -/
def Modifier.score (rate : Rating R) (spot : Spot) (c : Query R) (inner : R) : Modifier R → R
  | .alwaysMatch => inner
  | .weight w => w * inner
  | .scorer model stats => rate model stats (Session.scorerField spot.defaultField c).toOption
    (c.facts spot).count spot.doc
  | .countToScore => Scalar.ofNat (c.facts spot).count
  | .boolToScore t f => if (c.facts spot).matched then t else f
  | .countToBool gt => Scalar.ofBool ((c.facts spot).matched && gt < (c.facts spot).count)

/-- The score of a node whose children are `cs` and score `inner`. -/
def Operator.score (cs : List Facts) (inner : List R) (op : Operator R) : R :=
  match op with
  | .combine ws => (inner.zip ws).foldl (fun sum p => sum + p.2 * p.1) Scalar.zero
  | .max => inner.foldl Scalar.larger Scalar.bottom
  | .mult => inner.foldl (· * ·) Scalar.one
  | .multi names => inner[Answers.primary names]?.getD Scalar.zero
  | op => Scalar.ofBool (op.facts cs).matched

namespace Query

mutual

/-- The score of a query in a document, where it has one. -/
def score (rate : Rating R) (spot : Spot) : Query R → R
  | .leaf l => l.score spot
  | .modify m c => m.score rate spot c (score rate spot c)
  | .join op cs => op.score (factsAll spot cs) (scoreAll rate spot cs)
  | .require c v => if (c.facts spot).matched then score rate spot v else Scalar.miss

def scoreAll (rate : Rating R) (spot : Spot) : List (Query R) → List R
  | [] => []
  | c :: cs => score rate spot c :: scoreAll rate spot cs

end

lemma scoreAll_eq_map (rate : Rating R) (spot : Spot) (cs : List (Query R)) :
    scoreAll rate spot cs = cs.map (score rate spot) := by
  induction cs with
  | nil => rfl
  | cons c cs ih => rw [scoreAll, ih, List.map_cons]

end Query

end Retrieval
