import Retrieval.Proofs.Candidates.Widening
import Retrieval.Proofs.Evaluation.Success
import Retrieval.Proofs.Query.Nodes

/-!
# Candidate queries are complete

Where a query has a meaning its candidate query can be run, and it finds every document that the
meaning matches (`Setting.meaning_offered`), provided that no operator in the query matches only for
want of children: a conjunction of nothing matches every document, but its candidates are none.
-/

namespace Retrieval

/-! ## Readings that say yes -/

namespace Answers

variable {R : Type} {bs : List (Answers R Reading)} {d : Nat}

lemma forall_of_allMatched (h : allMatched bs d = .ok true) : ∀ b ∈ bs, b.matched d = .ok true :=
  Reading.forall_of_allM h

lemma exists_of_anyMatched (h : anyMatched bs d = .ok true) :
    ∃ b ∈ bs, b.matched d = .ok true := by
  obtain ⟨b, mem, yes⟩ := Reading.exists_of_anyM h
  exact ⟨b, List.mem_mergeSort.mp mem, yes⟩

/-- Positions can be gathered only where all children match. -/
lemma forall_of_gather {lists : List (List Nat)} (h : gather bs d = .ok (some lists)) :
    lists.length = bs.length ∧ ∀ b ∈ bs, b.matched d = .ok true := by
  induction bs generalizing lists with
  | nil =>
    cases h
    exact ⟨rfl, nofun⟩
  | cons b bs ih =>
    obtain ⟨hit, first, rest⟩ := bind_eq_ok (show (b.matched d >>= _) = _ from h)
    cases hit with
    | true =>
      obtain ⟨positions, _, rest⟩ := bind_eq_ok (show (b.positions d >>= _) = _ from rest)
      obtain ⟨found, gathered, rest⟩ := bind_eq_ok (show (gather bs d >>= _) = _ from rest)
      cases found with
      | none => cases rest
      | some lists' =>
        cases rest
        obtain ⟨length, all⟩ := ih gathered
        exact ⟨congrArg (· + 1) length, List.forall_mem_cons.mpr ⟨first, all⟩⟩
    | false => cases rest

/-- A window matches only where all its children do, and it needs at least one. -/
lemma forall_of_window [Scalar R] {kind : Window}
    (yes : (window (R := R) id kind bs).matched d = .ok true) :
    bs ≠ [] ∧ ∀ b ∈ bs, b.matched d = .ok true := by
  obtain ⟨starts, found, rest⟩ := bind_eq_ok (show (windowStarts kind bs d >>= _) = _ from yes)
  obtain ⟨lists, gathered, found⟩ := bind_eq_ok (show (gather bs d >>= _) = _ from found)
  -- where nothing is gathered the window starts nowhere
  rcases lists with _ | _ | ⟨first, more⟩
  · cases found
    cases rest
  · cases found
    cases rest
  · obtain ⟨enough, all⟩ := forall_of_gather gathered
    refine ⟨fun nil => ?_, all⟩
    rw [nil] at enough
    cases enough

end Answers

/-! ## Nodes without children -/

/-- Operators that match everywhere if they have no children. -/
def Operator.isVacuous {R : Type} : Operator R → Bool
  | .and | .smallerCount | .windowCeiling _ => true
  | _ => false

namespace Query

variable {R : Type}

/-- No operator matches for want of children. -/
def Filled (q : Query R) : Prop := ∀ op : Operator R, op.isVacuous → .join op [] ∉ q.nodes

lemma Filled.child {q c : Query R} (h : q.Filled) (mem : c ∈ q.children) : c.Filled :=
  fun op vacuous empty => h op vacuous (nodes_subset mem empty)

lemma Filled.ne_nil {op : Operator R} {cs : List (Query R)} (h : Filled (.join op cs))
    (vacuous : op.isVacuous) : cs ≠ [] :=
  fun nil => h op vacuous (nil ▸ List.mem_cons_self)

/-- Every node of a typed query is typed. -/
lemma Typed.of_mem_nodes {need : Need} {q c : Query R} (typed : Typed need q) (mem : c ∈ q.nodes) :
    ∃ n, Typed n c := by
  induction typed with
  | leaf admits marked written =>
    cases List.mem_singleton.mp mem
    exact ⟨_, .leaf admits marked written⟩
  | modify admits typed ih =>
    cases mem with
    | head => exact ⟨_, .modify admits typed⟩
    | tail _ mem => exact ih mem
  | @join _ op cs admits two typed ih =>
    cases mem with
    | head => exact ⟨_, .join admits two typed⟩
    | tail _ mem =>
      obtain ⟨c', within, mem⟩ := mem_nodesAll.mp mem
      exact ih c' within mem
  | require admits typed typed' ihc ihv =>
    cases mem with
    | head => exact ⟨_, .require admits typed typed'⟩
    | tail _ mem =>
      rcases List.mem_append.mp mem with mem | mem
      · exact ihc mem
      · exact ihv mem

/-- In a typed query only conjunctions could lack children. -/
lemma Typed.filled {need : Need} {q : Query R} (typed : Typed need q) (whole : q.NoEmptyAnd) :
    q.Filled := by
  intro op vacuous empty
  cases op with
  | and => exact whole empty
  | smallerCount | windowCeiling =>
    obtain ⟨_, typed⟩ := typed.of_mem_nodes empty
    cases typed with
    | join _ two _ => exact absurd (two rfl) (Nat.not_succ_le_zero 1)
  | _ => cases vacuous

end Query

/-! ## Documents that match are offered -/

/-- The candidates of a query can be run. Every document that the answers match is among them,
unless an operator of the query matches for want of children. -/
structure Offered {R : Type} [Scalar R] (segment : Segment) (q : Query R) (b : Answers R Reading) :
    Prop where
  runs : Query.Runs segment q.candidates
  finds : q.Filled → ∀ d < segment.size, b.matched d = .ok true →
    Query.Finds segment q.candidates d

namespace Offered

open Query

variable {R : Type} [Scalar R] {segment : Segment} {q : Query R} {b : Answers R Reading}
  {op : Operator R} {cs : List (Query R)} {bs : List (Answers R Reading)}

/-- Where every document is a candidate nothing is missed. -/
lemma always (e : q.candidates = Query.always) : Offered segment q b where
  runs := e ▸ runs_always
  finds _ _ inside _ := e ▸ finds_always.mpr inside

/-- What never matches needs no candidates. -/
lemma never (e : q.candidates = Query.never) (not : ∀ d, b.matched d ≠ .ok true) :
    Offered segment q b where
  runs := e ▸ runs_never
  finds _ d _ yes := absurd yes (not d)

/-- The candidates of a node where all children have to match. -/
lemma conjunction (indexed : segment.Indexed)
    (e : candidates (.join op cs) = and (candidatesAll cs))
    (inner : ∀ c ∈ cs, ∃ d ∈ bs, Offered segment c d)
    (some_ : Filled (.join op cs) → ∀ d, b.matched d = .ok true → cs ≠ [])
    (all : ∀ d, b.matched d = .ok true → ∀ x ∈ bs, x.matched d = .ok true) :
    Offered segment (.join op cs) b := by
  rw [candidatesAll_eq_map] at e
  constructor
  · rw [e]
    refine (runs_join (j := .and)).mpr (List.forall_mem_map.mpr fun c mem => ?_)
    obtain ⟨_, _, offered⟩ := inner c mem
    exact offered.runs
  · intro filled d inside yes
    have ne := some_ filled d yes
    rw [e, finds_and indexed]
    refine ⟨fun nil => ne (List.map_eq_nil_iff.mp nil), List.forall_mem_map.mpr fun c mem => ?_⟩
    obtain ⟨x, mem', offered⟩ := inner c mem
    exact offered.finds (filled.child mem) d inside (all d yes x mem')

/-- The candidates of a node where one child has to match. -/
lemma disjunction (indexed : segment.Indexed)
    (e : candidates (.join op cs) = or (candidatesAll cs))
    (inner : ∀ c ∈ cs, ∃ d ∈ bs, Offered segment c d)
    (inner' : ∀ x ∈ bs, ∃ c ∈ cs, Offered segment c x)
    (any : ∀ d, b.matched d = .ok true → ∃ x ∈ bs, x.matched d = .ok true) :
    Offered segment (.join op cs) b := by
  rw [candidatesAll_eq_map] at e
  have runs : ∀ c ∈ cs.map candidates, Runs segment c := by
    refine List.forall_mem_map.mpr fun c mem => ?_
    obtain ⟨_, _, offered⟩ := inner c mem
    exact offered.runs
  constructor
  · rw [e]
    exact (runs_join (j := .or)).mpr runs
  · intro filled d inside yes
    obtain ⟨x, mem, yes⟩ := any d yes
    obtain ⟨c, mem', offered⟩ := inner' x mem
    rw [e, finds_or indexed]
    exact ⟨runs, _, List.mem_map_of_mem mem', offered.finds (filled.child mem') d inside yes⟩

end Offered

namespace Setting

open Query

variable {R : Type} [Scalar R] {σ : Setting} {b : Answers R Reading}

/-- A term matches where it has a posting. -/
lemma occurring_matched {label : String} {needed : Need} {found : Option Postings} {d : Nat}
    (real : d < noMoreDocs) (yes : (occurring (R := R) label needed found).matched d = .ok true) :
    ∃ p q, found = some p ∧ q ∈ p.rest ∧ q.doc = d := by
  cases found with
  | none => cases yes
  | some p =>
    obtain ⟨q, mem, same⟩ := Postings.mem_of_isSome_at? real (Except.ok.inj yes)
    exact ⟨p, q, rfl, mem, same⟩

/-- A walk over the postings of a term offers the documents in which it occurs. -/
lemma occurring_offered {l : Leaf R} {label : String} {needed : Need} {found : Option Postings}
    (fits : σ.segment.size ≤ noMoreDocs)
    (made : Walk.ofQuery σ.segment (candidates (.leaf l)) =
      .ok (Walk.ofPostings (found.map ({ · with needed := .docs })))) :
    Offered σ.segment (.leaf l) (occurring label needed found) := by
  refine ⟨⟨_, made⟩, fun _ d inside yes => (finds_iff made).mpr ?_⟩
  obtain ⟨p, q, rfl, mem, e⟩ := occurring_matched (inside.trans_le fits) yes
  exact Walk.offers_term.mpr ⟨q, mem, e⟩

/-- The candidates of a leaf are its documents, or all. -/
lemma leaf_offered (indexed : σ.segment.Indexed) {l : Leaf R} (meant : σ.leaf l = .ok b) :
    Offered σ.segment (.leaf l) b := by
  cases l with
  | term t =>
    obtain ⟨field, counted, meant⟩ := bind_eq_ok meant
    obtain ⟨found, opened, meant⟩ := bind_eq_ok meant
    cases meant
    have opened' := Segment.cursor_docs opened
    apply occurring_offered indexed.fits
    change (do return Walk.ofPostings (← σ.segment.cursor t.text (← t.countedField) .docs)) = _
    rw [counted]
    change (do return Walk.ofPostings (← σ.segment.cursor t.text field .docs)) = _
    rw [opened']
    rfl
  | lengths l => exact .always rfl
  | constScore x =>
    cases meant
    exact .never rfl fun _ => nofun
  | constCount n l => exact .always rfl
  | constBool v =>
    cases meant
    cases v with
    | true => exact .always rfl
    | false => exact .never rfl fun _ => nofun
  | whitelist w =>
    obtain ⟨ids, within, meant⟩ := bind_eq_ok meant
    cases meant
    have made : Walk.ofQuery σ.segment (candidates (R := R) (.leaf (.whitelist w))) =
        .ok (Walk.ofList ids) := by
      change (Session.idsWithin σ.segment w >>= _) = _
      rw [within]
      rfl
    refine ⟨⟨_, made⟩, fun _ d _ yes => (finds_iff made).mpr (Walk.offers_ofList.mpr ?_)⟩
    replace yes : Except.ok (ids.contains d) = Except.ok true := yes
    exact List.contains_iff_mem.mp (Except.ok.inj yes)
  | always => exact .always rfl
  | never =>
    cases meant
    exact .never rfl fun _ => nofun
  | raw text =>
    obtain ⟨found, opened, meant⟩ := bind_eq_ok meant
    have made : Walk.ofQuery σ.segment (candidates (R := R) (.leaf (.raw text))) =
        .ok (Walk.ofPostings found) := by
      change (do return Walk.ofPostings (← σ.segment.rawCursor text)) = _
      rw [opened]
      rfl
    cases found with
    | none =>
      cases meant
      exact ⟨⟨_, made⟩, fun _ _ _ => nofun⟩
    | some p =>
      cases meant
      have docs : p.needed = .docs := Segment.needed_of_rawCursor opened
      apply occurring_offered indexed.fits
      rw [made, Option.map_some, ← docs]

/-- The candidates of a modified query are those of the query, or all. -/
lemma modifier_offered {m : Modifier R} {c : Query R} {x : Answers R Reading}
    {change : Answers R Reading → Answers R Reading} (meant : σ.modifier m c = .ok change)
    (inner : Offered σ.segment c x) : Offered σ.segment (.modify m c) (change x) := by
  have below : Filled (.modify m c) → c.Filled :=
    fun filled => filled.child (List.mem_singleton_self c)
  cases m with
  | alwaysMatch => exact .always rfl
  | countToBool gt =>
    cases meant
    refine ⟨inner.runs, fun filled d inside yes => inner.finds (below filled) d inside ?_⟩
    obtain ⟨hit, first, rest⟩ := bind_eq_ok (show (x.matched d >>= _) = _ from yes)
    cases hit with
    | true => exact first
    | false => cases rest
  | scorer model stats =>
    obtain ⟨scorer, _, meant⟩ := bind_eq_ok meant
    obtain ⟨field, _, meant⟩ := bind_eq_ok meant
    cases meant
    exact ⟨inner.runs, fun filled => inner.finds (below filled)⟩
  | _ =>
    cases meant
    exact ⟨inner.runs, fun filled => inner.finds (below filled)⟩

/-- The candidates of a node with several children are those that all or some of them have. -/
lemma operator_offered (indexed : σ.segment.Indexed) {op : Operator R} {cs : List (Query R)}
    {bs : List (Answers R Reading)} (meant : σ.operator bs op = .ok b)
    (length : bs.length = cs.length) (inner : ∀ c ∈ cs, ∃ x ∈ bs, Offered σ.segment c x)
    (inner' : ∀ x ∈ bs, ∃ c ∈ cs, Offered σ.segment c x) : Offered σ.segment (.join op cs) b := by
  have any : ∀ d, Answers.anyMatched bs d = .ok true → ∃ x ∈ bs, x.matched d = .ok true :=
    fun _ => Answers.exists_of_anyMatched
  have ne_nil : bs ≠ [] → cs ≠ [] := by
    rw [← List.length_pos_iff, ← List.length_pos_iff, length]
    exact id
  have window : ∀ kind d, (Answers.window (R := R) id kind bs).matched d = .ok true →
      bs ≠ [] ∧ ∀ x ∈ bs, x.matched d = .ok true :=
    fun _ _ => Answers.forall_of_window
  cases op with
  | and =>
    cases meant
    refine .conjunction indexed rfl inner (fun filled _ _ => filled.ne_nil rfl) fun d yes x mem => ?_
    exact Answers.forall_of_allMatched yes x (List.mem_mergeSort.mpr mem)
  | orderedWindow | unorderedWindow | prox =>
    cases meant
    exact .conjunction indexed rfl inner (fun _ d yes => ne_nil (window _ d yes).1)
      fun d yes => (window _ d yes).2
  | smallerCount | windowCeiling =>
    cases meant
    exact .conjunction indexed rfl inner (fun filled _ _ => filled.ne_nil rfl)
      fun d => Answers.forall_of_allMatched
  | multi names =>
    obtain ⟨_, _, rfl⟩ := named_of_operator meant
    exact .disjunction indexed rfl inner inner' any
  | _ =>
    cases meant
    exact .disjunction indexed rfl inner inner' any

mutual

/-- Wherever a query has a meaning its candidates can be run, and no document that it matches is
missing from them. -/
theorem meaning_offered (indexed : σ.segment.Indexed) {b : Answers R Reading} :
    (q : Query R) → σ.meaning q = .ok b → Offered σ.segment q b
  | .leaf l, meant => leaf_offered indexed meant
  | .modify m c, meant => by
    obtain ⟨change, modified, meant⟩ := bind_eq_ok meant
    obtain ⟨x, inner, meant⟩ := bind_eq_ok meant
    cases meant
    exact modifier_offered modified (meaning_offered indexed c inner)
  | .join op cs, meant => by
    obtain ⟨_, _, meant⟩ := bind_eq_ok meant
    obtain ⟨bs, inner, meant⟩ := bind_eq_ok meant
    obtain ⟨length, answered, asked⟩ := mem_meanings inner
    have each := meanings_offered indexed cs
    refine operator_offered indexed meant length (fun c mem => ?_) fun x mem => ?_
    · obtain ⟨x, mem', meant⟩ := answered c mem
      exact ⟨x, mem', each c mem x meant⟩
    · obtain ⟨c, mem', meant⟩ := asked x mem
      exact ⟨c, mem', each c mem' x meant⟩
  | .require c v, meant => by
    obtain ⟨x, cond, meant⟩ := bind_eq_ok meant
    obtain ⟨y, _, meant⟩ := bind_eq_ok meant
    cases meant
    have offered := meaning_offered indexed c cond
    refine ⟨runs_require.mpr ⟨offered.runs, runs_always⟩, fun filled d inside yes => ?_⟩
    have below : c.Filled := filled.child List.mem_cons_self
    exact (finds_require indexed).mpr ⟨offered.finds below d inside yes, finds_always.mpr inside⟩

theorem meanings_offered (indexed : σ.segment.Indexed) :
    (cs : List (Query R)) → ∀ c ∈ cs, ∀ x, σ.meaning c = .ok x → Offered σ.segment c x
  | [] => nofun
  | c :: cs => List.forall_mem_cons.mpr
    ⟨fun _ => meaning_offered indexed c, meanings_offered indexed cs⟩

end

end Setting

end Retrieval
