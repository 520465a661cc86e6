import Retrieval.Proofs.Candidates.Widening
import Retrieval.Proofs.Collection.Inversion
import Retrieval.Proofs.Evaluation.Adequacy

/-!
# A query in a document

What is true of a query in a document, and how the query scores it, depends on the document and on
its number in the collection, but not on the segment that it is found in (`Query.facts_of_shows`,
`Query.score_of_shows`). The same goes for whether a candidate query finds it (`Query.finds_of_shows`).
-/

namespace Retrieval

namespace Postings

/-- Where a rising list has a posting, a cursor on that document is on it. -/
lemma exists_at?_ofList {list : List Posting} (needed : Need) {p : Posting}
    (rising : list.Pairwise fun q r => q.doc < r.doc) (mem : p ∈ list) :
    ∃ rest, (ofList list needed).at? p.doc = some ⟨p :: rest, list.length, needed⟩ := by
  obtain ⟨before, after, rfl⟩ := List.append_of_mem mem
  have earlier : ∀ q ∈ before, decide (q.doc < p.doc) = true := fun q within =>
    decide_eq_true ((List.pairwise_append.mp rising).2.2 q within p List.mem_cons_self)
  have advanced : (before ++ p :: after).dropWhile (fun q => decide (q.doc < p.doc)) = p :: after := by
    rw [List.dropWhile_append_of_pos earlier, List.dropWhile_cons_of_neg (by simp)]
  refine ⟨after, ?_⟩
  rw [at?, advance, ofList]
  dsimp only
  rw [advanced]
  exact if_pos rfl

/-- Where a list has no posting, no cursor on that document is found. -/
lemma at?_ofList_eq_none {list : List Posting} {needed : Need} {doc : Nat}
    (other : ∀ p ∈ list, p.doc ≠ doc) (real : doc < noMoreDocs) :
    (ofList list needed).at? doc = none := by
  refine Option.not_isSome_iff_eq_none.mp fun found => ?_
  obtain ⟨q, mem, same⟩ := mem_of_isSome_at? real found
  exact other q mem same

end Postings

/-! ## Facts -/

/-- What is true of a term that has these positions in a document. -/
def Facts.occurring (positions : List Nat) : Facts :=
  ⟨decide (positions ≠ []), positions.length, positions⟩

/-- The spot is on a document that has a number in the collection. -/
structure Spot.Shows (spot : Spot) (number : Nat) (d : Document) : Prop where
  indexed : ∃ docs, spot.segment = .ofDocuments spot.segment.base docs ∧ docs[spot.doc]? = some d
  real : spot.doc < noMoreDocs
  number : spot.segment.base + spot.doc = number

namespace Spot.Shows

variable {spot spot' : Spot} {number : Nat} {d : Document}

lemma inside (shows : spot.Shows number d) : spot.doc < spot.segment.size := by
  obtain ⟨docs, indexed, here⟩ := shows.indexed
  rw [indexed]
  exact (List.getElem?_eq_some_iff.mp here).1

/-- A term occurs where it does in the document. -/
lemma occurs (shows : spot.Shows number d) (text field : String) :
    Facts.ofPostings (Leaf.found spot (spot.segment.cursor text field .docs)) =
      .occurring (d.positions field text) := by
  obtain ⟨⟨docs, indexed, here⟩, real, _⟩ := shows
  rw [indexed, Segment.cursor_ofDocuments (by decide)]
  by_cases positions : d.positions field text = []
  · have other : ∀ p ∈ postingsOf field text docs, p.doc ≠ spot.doc := by
      intro p mem same
      obtain ⟨d', here', some_, _⟩ := mem_postingsOf.mp mem
      rw [same] at here'
      cases here.symm.trans here'
      exact some_ positions
    rw [positions]
    split
    · rfl
    · change Facts.ofPostings ((Postings.ofList _ .docs).at? spot.doc) = _
      rw [Postings.at?_ofList_eq_none other real]
      rfl
  · have mem : ⟨spot.doc, d.positions field text⟩ ∈ postingsOf field text docs :=
      mem_postingsOf.mpr ⟨d, here, positions, rfl⟩
    obtain ⟨rest, at_⟩ := Postings.exists_at?_ofList .docs (postingsOf_rising _ _ _) mem
    rw [if_neg (List.ne_nil_of_mem mem)]
    change Facts.ofPostings ((Postings.ofList _ .docs).at? spot.doc) = _
    rw [at_, Facts.occurring, decide_eq_true positions]
    rfl

/-- The length of a field is that of the document's stream. -/
lemma lengthOf (shows : spot.Shows number d) (field : String) :
    spot.segment.lengthOf spot.doc field = .ok (d.stream field).length := by
  obtain ⟨docs, indexed, here⟩ := shows.indexed
  rw [indexed]
  exact Segment.lengthOf_ofDocuments here

/-- A whitelist has the document if it has its number. -/
lemma contains (shows : spot.Shows number d) (w : Whitelist) :
    ((Session.idsWithin spot.segment w).toOption.getD []).contains spot.doc =
      (w.ids.getD []).contains number := by
  have inside := shows.inside
  obtain ⟨_, _, rfl⟩ := shows
  cases numbers : w.ids with
  | none =>
    rw [Session.idsWithin, numbers]
    rfl
  | some all =>
    obtain ⟨ids, within⟩ :=
      (exists_idsWithin_iff spot.segment w).mpr (Option.isSome_of_eq_some numbers)
    rw [within, Bool.eq_iff_iff, List.contains_iff_mem, List.contains_iff_mem]
    exact (mem_idsWithin numbers within).trans (and_iff_right inside)

end Spot.Shows

section Congruence

variable {R : Type} {spot spot' : Spot} {number : Nat} {d : Document}

/-- What is true of a leaf in a document does not depend on the segment. -/
lemma Leaf.facts_of_shows (shows : spot.Shows number d) (shows' : spot'.Shows number d)
    (same : spot.defaultField = spot'.defaultField) (l : Leaf R) : l.facts spot = l.facts spot' := by
  cases l with
  | term t =>
    rw [facts, facts]
    cases t.countedField with
    | error e => rfl
    | ok field => exact (shows.occurs t.text field).trans (shows'.occurs t.text field).symm
  | lengths l => rw [facts, facts, same, shows.lengthOf, shows'.lengthOf]
  | whitelist w => rw [facts, facts, shows.contains, shows'.contains]
  | raw text =>
    rw [facts, facts, Segment.rawCursor, Segment.rawCursor]
    cases Segment.splitRaw text with
    | none => rfl
    | some parts => exact (shows.occurs parts.2 parts.1).trans (shows'.occurs parts.2 parts.1).symm
  | _ => rfl

namespace Query

mutual

/-- What is true of a query in a document does not depend on the segment. -/
theorem facts_of_shows (shows : spot.Shows number d) (shows' : spot'.Shows number d)
    (same : spot.defaultField = spot'.defaultField) :
    (q : Query R) → q.facts spot = q.facts spot'
  | .leaf l => by rw [facts, facts, l.facts_of_shows shows shows' same]
  | .modify m c => by rw [facts, facts, facts_of_shows shows shows' same c]
  | .join op cs => by rw [facts, facts, factsAll_of_shows shows shows' same cs]
  | .require c v => by
    rw [facts, facts, facts_of_shows shows shows' same c, facts_of_shows shows shows' same v]

theorem factsAll_of_shows (shows : spot.Shows number d) (shows' : spot'.Shows number d)
    (same : spot.defaultField = spot'.defaultField) :
    (cs : List (Query R)) → factsAll spot cs = factsAll spot' cs
  | [] => rfl
  | c :: cs => by
    rw [factsAll, factsAll, facts_of_shows shows shows' same c, factsAll_of_shows shows shows' same cs]

end

end Query

variable [Scalar R]

/-- How a model rates a count in a document does not depend on the segment. -/
lemma Spot.Shows.rate (shows : spot.Shows number d) (shows' : spot'.Shows number d)
    (model : Model R) (stats : Option Statistics) (field : Option String) (count : Nat) :
    spot.rate model stats field count spot.doc = spot'.rate model stats field count spot'.doc := by
  unfold Spot.rate
  cases Session.scorer (.leaf .never) model stats with
  | error e => rfl
  | ok s =>
    cases field with
    | none => rfl
    | some field =>
      dsimp only
      rw [shows.lengthOf, shows'.lengthOf]

lemma Leaf.score_of_shows (shows : spot.Shows number d) (shows' : spot'.Shows number d)
    (same : spot.defaultField = spot'.defaultField) (l : Leaf R) : l.score spot = l.score spot' := by
  have facts := l.facts_of_shows shows shows' same
  cases l <;> first | rfl | exact congrArg (fun f : Facts => (Scalar.ofBool f.matched : R)) facts

namespace Query

lemma modifier_score_of_shows (shows : spot.Shows number d) (shows' : spot'.Shows number d)
    (same : spot.defaultField = spot'.defaultField) (m : Modifier R) (c : Query R) (inner : R) :
    m.score spot.rate spot c inner = m.score spot'.rate spot' c inner := by
  have facts := c.facts_of_shows shows shows' same
  cases m with
  | scorer model stats =>
    rw [Modifier.score, Modifier.score, facts, same]
    exact shows.rate shows' model stats _ _
  | _ => simp only [Modifier.score, facts]

mutual

/-- How a query scores a document does not depend on the segment. -/
theorem score_of_shows (shows : spot.Shows number d) (shows' : spot'.Shows number d)
    (same : spot.defaultField = spot'.defaultField) :
    (q : Query R) → q.score spot.rate spot = q.score spot'.rate spot'
  | .leaf l => by rw [score, score, l.score_of_shows shows shows' same]
  | .modify m c => by
    rw [score, score, score_of_shows shows shows' same c, modifier_score_of_shows shows shows' same]
  | .join op cs => by
    rw [score, score, factsAll_of_shows shows shows' same cs, scoreAll_of_shows shows shows' same cs]
  | .require c v => by
    rw [score, score, facts_of_shows shows shows' same c, score_of_shows shows shows' same v]

theorem scoreAll_of_shows (shows : spot.Shows number d) (shows' : spot'.Shows number d)
    (same : spot.defaultField = spot'.defaultField) :
    (cs : List (Query R)) → scoreAll spot.rate spot cs = scoreAll spot'.rate spot' cs
  | [] => rfl
  | c :: cs => by
    rw [scoreAll, scoreAll, score_of_shows shows shows' same c, scoreAll_of_shows shows shows' same cs]

end

end Query

/-! ## Candidates -/

omit [Scalar R] in
/-- A walk over the postings of a term offers a document in which it occurs. -/
lemma Spot.Shows.offers (shows : spot.Shows number d) {text field : String}
    {found : Option Postings} (opened : spot.segment.cursor text field .docs = .ok found) :
    (Walk.ofPostings found).Offers spot.doc ↔ d.positions field text ≠ [] := by
  obtain ⟨⟨docs, indexed, here⟩, _, _⟩ := shows
  have occurs : (∃ p ∈ postingsOf field text docs, p.doc = spot.doc) ↔
      d.positions field text ≠ [] := by
    constructor
    · rintro ⟨p, mem, same⟩
      obtain ⟨d', here', some_, _⟩ := mem_postingsOf.mp mem
      rw [same] at here'
      cases here.symm.trans here'
      exact some_
    · intro some_
      exact ⟨⟨spot.doc, d.positions field text⟩, mem_postingsOf.mpr ⟨d, here, some_, rfl⟩, rfl⟩
  rw [indexed, Segment.cursor_ofDocuments (by decide)] at opened
  rw [← occurs]
  split at opened
  · next none =>
    cases opened
    rw [none]
    exact ⟨nofun, nofun⟩
  · cases opened
    exact Walk.offers_term

namespace Query

omit [Scalar R] in
/-- A term can be opened elsewhere, and its walk offers the document there if it does here. -/
lemma cursor_of_shows (shows : spot.Shows number d) (shows' : spot'.Shows number d)
    {text field : String} {found : Option Postings}
    (opened : spot.segment.cursor text field .docs = .ok found) : ∃ found',
      spot'.segment.cursor text field .docs = .ok found' ∧
        ((Walk.ofPostings found).Offers spot.doc → (Walk.ofPostings found').Offers spot'.doc) := by
  obtain ⟨found', opened'⟩ : ∃ found', spot'.segment.cursor text field .docs = .ok found' :=
    ⟨_, if_neg (by decide)⟩
  exact ⟨found', opened', fun o => (shows'.offers opened').mpr ((shows.offers opened).mp o)⟩

/-- A leaf that can be run where a document is found can be run elsewhere, and offers the document
there if it does here. -/
lemma ofLeaf_of_shows (shows : spot.Shows number d) (shows' : spot'.Shows number d) {l : Leaf R}
    {w : Walk} (made : Walk.ofLeaf spot.segment l = .ok w) : ∃ w',
      Walk.ofLeaf spot'.segment l = .ok w' ∧ (w.Offers spot.doc → w'.Offers spot'.doc) := by
  cases l with
  | term t =>
    obtain ⟨field, counted, made⟩ := bind_eq_ok made
    obtain ⟨found, opened, made⟩ := bind_eq_ok made
    cases made
    obtain ⟨found', opened', offers⟩ := cursor_of_shows shows shows' opened
    refine ⟨.ofPostings found', ?_, offers⟩
    rw [Walk.ofLeaf, counted]
    change (do return Walk.ofPostings (← spot'.segment.cursor t.text field .docs)) = _
    rw [opened']
    rfl
  | raw text =>
    obtain ⟨found, opened, made⟩ := bind_eq_ok made
    cases made
    rw [Segment.rawCursor] at opened
    split at opened
    · next field term split =>
      obtain ⟨found', opened', offers⟩ := cursor_of_shows shows shows' opened
      refine ⟨.ofPostings found', ?_, offers⟩
      rw [Walk.ofLeaf, Segment.rawCursor, split]
      change (do return Walk.ofPostings (← spot'.segment.cursor term field .docs)) = _
      rw [opened']
      rfl
    · cases opened
  | whitelist list =>
    obtain ⟨ids, within, made⟩ := bind_eq_ok made
    cases made
    have here := shows.contains list
    have there := shows'.contains list
    have numbers := (exists_idsWithin_iff spot.segment list).mp ⟨ids, within⟩
    obtain ⟨ids', within'⟩ := (exists_idsWithin_iff spot'.segment list).mpr numbers
    rw [within] at here
    rw [within'] at there
    refine ⟨.ofList ids', ?_, fun o => Walk.offers_ofList.mpr ?_⟩
    · rw [Walk.ofLeaf, within']
      rfl
    · rw [← List.contains_iff_mem]
      exact there.trans (here.symm.trans (List.contains_iff_mem.mpr (Walk.offers_ofList.mp o)))
  | always =>
    cases made
    exact ⟨_, rfl, fun _ => Walk.offers_ofSize.mpr shows'.inside⟩
  | never =>
    cases made
    refine ⟨_, rfl, fun o => ?_⟩
    cases o
  | constBool b =>
    cases made
    cases b with
    | true => exact ⟨_, rfl, fun _ => Walk.offers_ofSize.mpr shows'.inside⟩
    | false =>
      refine ⟨_, rfl, fun o => ?_⟩
      cases o
  | _ => cases made

/-- The query can be run, and finds the document, in the second segment if in the first one. -/
structure Carried (spot spot' : Spot) (q : Query R) : Prop where
  runs : Runs spot.segment q → Runs spot'.segment q
  finds : Finds spot.segment q spot.doc → Finds spot'.segment q spot'.doc

mutual

/-- A candidate query that can be run where a document is found can be run elsewhere, and finds the
document there if it does here. -/
theorem carried (indexed : spot.segment.Indexed) (indexed' : spot'.segment.Indexed)
    (shows : spot.Shows number d) (shows' : spot'.Shows number d) :
    (q : Query R) → q.Carried spot spot'
  | .leaf l => by
    refine ⟨fun ⟨w, made⟩ => ?_, fun ⟨w, made, o⟩ => ?_⟩
    · obtain ⟨w', made', _⟩ := ofLeaf_of_shows shows shows' made
      exact ⟨w', made'⟩
    · obtain ⟨w', made', offers⟩ := ofLeaf_of_shows shows shows' made
      exact ⟨w', made', offers o⟩
  | .modify m c => ⟨fun runs => absurd runs not_runs_modify,
      fun finds => absurd finds.runs not_runs_modify⟩
  | .join op cs => by
    have each := carriedAll indexed indexed' shows shows' cs
    rcases Junction.operator_cases op with ⟨j, rfl⟩ | other
    · refine ⟨fun runs => runs_join.mpr fun c mem => (each c mem).runs (runs_join.mp runs c mem),
        fun finds => ?_⟩
      cases j with
      | and =>
        obtain ⟨some_, all⟩ := (finds_and indexed).mp finds
        exact (finds_and indexed').mpr ⟨some_, fun c mem => (each c mem).finds (all c mem)⟩
      | or =>
        obtain ⟨runs, c, mem, found⟩ := (finds_or indexed).mp finds
        exact (finds_or indexed').mpr
          ⟨fun c mem => (each c mem).runs (runs c mem), c, mem, (each c mem).finds found⟩
    · exact ⟨fun runs => absurd runs (not_runs_join other),
        fun finds => absurd finds.runs (not_runs_join other)⟩
  | .require c v => by
    have cond := carried indexed indexed' shows shows' c
    have value := carried indexed indexed' shows shows' v
    constructor
    · intro runs
      obtain ⟨runs, runs'⟩ := runs_require.mp runs
      exact runs_require.mpr ⟨cond.runs runs, value.runs runs'⟩
    · intro finds
      obtain ⟨found, found'⟩ := (finds_require indexed).mp finds
      exact (finds_require indexed').mpr ⟨cond.finds found, value.finds found'⟩

theorem carriedAll (indexed : spot.segment.Indexed) (indexed' : spot'.segment.Indexed)
    (shows : spot.Shows number d) (shows' : spot'.Shows number d) :
    (cs : List (Query R)) → ∀ c ∈ cs, c.Carried spot spot'
  | [] => List.forall_mem_nil _
  | c :: cs => List.forall_mem_cons.mpr ⟨carried indexed indexed' shows shows' c,
      carriedAll indexed indexed' shows shows' cs⟩

end

/-- Whether a candidate query finds a document does not depend on the segment. -/
theorem finds_of_shows (indexed : spot.segment.Indexed) (indexed' : spot'.segment.Indexed)
    (shows : spot.Shows number d) (shows' : spot'.Shows number d) (q : Query R) :
    Finds spot.segment q spot.doc ↔ Finds spot'.segment q spot'.doc :=
  ⟨(carried indexed indexed' shows shows' q).finds, (carried indexed' indexed shows' shows q).finds⟩

end Query

end Congruence

/-! ## Faults -/

/-- Both computations succeed, or both fail with the same fault. -/
inductive FailAlike {α β : Type} : Except Fault α → Except Fault β → Prop where
  | ok {a b} : FailAlike (.ok a) (.ok b)
  | error {e} : FailAlike (.error e) (.error e)

namespace FailAlike

variable {α β γ δ : Type} {x : Except Fault α} {y : Except Fault β}

lemma refl (x : Except Fault α) : FailAlike x x := by
  cases x with
  | ok a => exact .ok
  | error e => exact .error

/-- Computations that fail alike go on failing alike. -/
lemma bind {next : α → Except Fault γ} {next' : β → Except Fault δ} (first : FailAlike x y)
    (rest : ∀ a b, x = .ok a → y = .ok b → FailAlike (next a) (next' b)) :
    FailAlike (x >>= next) (y >>= next') := by
  cases first with
  | ok => exact rest _ _ rfl rfl
  | error => exact .error

/-- What comes after computations that fail alike, whatever they give, is the same. -/
lemma bind_const (alike : FailAlike x y) (next : Except Fault γ) :
    (x >>= fun _ => next) = (y >>= fun _ => next) := by
  cases alike <;> rfl

end FailAlike

/-- No segment makes a cursor fail that another one lets be opened. -/
lemma Segment.cursor_alike (segment segment' : Segment) (text field : String) (needed : Need) :
    FailAlike (segment.cursor text field needed) (segment'.cursor text field needed) := by
  rw [cursor, cursor]
  split
  · exact .error
  · exact .ok

lemma Segment.rawCursor_alike (segment segment' : Segment) (text : String) :
    FailAlike (segment.rawCursor text) (segment'.rawCursor text) := by
  rw [rawCursor, rawCursor]
  split
  · exact cursor_alike ..
  · exact .error

namespace Setting

variable {R : Type} [Scalar R] (σ : Setting) (segment : Segment)

/-- The setting in another segment. -/
def elsewhere : Setting := { σ with segment }

/-- Leaves have meanings in all segments or in none. -/
lemma leaf_alike (l : Leaf R) : FailAlike (σ.leaf l) ((σ.elsewhere segment).leaf l) := by
  cases l with
  | term t =>
    refine (FailAlike.refl _).bind fun field field' counted counted' => ?_
    cases counted.symm.trans counted'
    exact (Segment.cursor_alike ..).bind fun _ _ _ _ => .ok
  | whitelist w =>
    refine FailAlike.bind ?_ fun _ _ _ _ => .ok
    rw [Session.idsWithin, Session.idsWithin]
    split
    · exact .error
    · exact .ok
  | raw text =>
    refine (Segment.rawCursor_alike ..).bind fun found found' _ _ => ?_
    cases found <;> cases found' <;> exact .ok
  | _ => exact .ok

/-- Modifiers have meanings in all segments or in none. -/
lemma modifier_alike (m : Modifier R) (c : Query R) :
    FailAlike (σ.modifier m c) ((σ.elsewhere segment).modifier m c) := by
  cases m with
  | scorer model stats =>
    exact (FailAlike.refl _).bind fun _ _ _ _ => (FailAlike.refl _).bind fun _ _ _ _ => .ok
  | _ => exact .ok

/-- Whether an operator has a meaning depends only on the number of its children. -/
lemma operator_alike {bs bs' : List (Answers R Reading)} (same : bs.length = bs'.length)
    (op : Operator R) : FailAlike (σ.operator bs op) ((σ.elsewhere segment).operator bs' op) := by
  cases op with
  | multi names =>
    rw [operator, operator, same]
    split
    · exact .ok
    · exact .error
  | _ => exact .ok

mutual

/-- A query has a meaning in all segments or in none, and is refused with the same fault. -/
theorem meaning_alike : (q : Query R) → FailAlike (σ.meaning q) ((σ.elsewhere segment).meaning q)
  | .leaf l => leaf_alike σ segment l
  | .modify m c => (modifier_alike σ segment m c).bind fun _ _ _ _ =>
      (meaning_alike c).bind fun _ _ _ _ => .ok
  | .join op cs => (FailAlike.refl _).bind fun _ _ _ _ =>
      (meanings_alike cs).bind fun _ _ meant meant' => by
        refine operator_alike σ segment ?_ op
        rw [(mem_meanings meant).1, (mem_meanings meant').1]
  | .require c v => (meaning_alike c).bind fun _ _ _ _ =>
      (meaning_alike v).bind fun _ _ _ _ => .ok

theorem meanings_alike : (cs : List (Query R)) →
    FailAlike (σ.meanings cs) ((σ.elsewhere segment).meanings cs)
  | [] => .ok
  | c :: cs => (meaning_alike c).bind fun _ _ _ _ =>
      (meanings_alike cs).bind fun _ _ _ _ => .ok

end

end Setting

/-- A query has a meaning in all segments or in none, and is refused with the same fault. -/
theorem Query.meaning_alike {R : Type} [Scalar R] (segment segment' : Segment)
    (defaultField : String) (q : Query R) :
    FailAlike (q.meaning segment defaultField) (q.meaning segment' defaultField) := by
  refine (FailAlike.refl _).bind fun registered registered' known known' => ?_
  cases known.symm.trans known'
  exact Setting.meaning_alike ⟨segment, defaultField, registered, .never⟩ segment' q

end Retrieval
