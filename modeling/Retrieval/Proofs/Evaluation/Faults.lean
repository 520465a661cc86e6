import Retrieval.Proofs.Evaluation.Freshness
import Retrieval.Proofs.Evaluation.Success
import Retrieval.Proofs.Query.Runnable

/-!
# Faults of compilation

A query whose nodes lack nothing is compiled in every segment, unless a part in the words of the
index cannot be read (`Session.tree_error`). Such a part has no colon between a field and a term, so
it cannot be read in any segment. No other queries are compiled (`Session.exists_tree_iff`).
-/

namespace Retrieval

/-- One of the texts that were `written` in the words of the index cannot be read. -/
def Fault.IsUnreadable (written : String → Prop) (e : Fault) : Prop :=
  ∃ text, written text ∧ Segment.splitRaw text = none ∧ e = .notFieldAndTerm (Text.quoted text)

/-- A cursor can be opened for anything but scores. -/
lemma Segment.exists_cursor (segment : Segment) (text field : String) {needed : Need}
    (other : needed ≠ .scores) : ∃ found, segment.cursor text field needed = .ok found :=
  ⟨_, if_neg other⟩

/-! ## What terms are opened for -/

/-- No term is known to need scores. -/
def Unscored (known : List (TermKey × Need)) : Prop :=
  ∀ key n, known.lookup key = some n → n ≠ .scores

lemma Unscored.raise {known : List (TermKey × Need)} (unscored : Unscored known) (key : TermKey)
    {needed : Need} (other : needed ≠ .scores) : Unscored (Session.raise key needed known) := by
  intro key' n found
  rw [Session.lookup_raise] at found
  split at found
  · cases found
    refine Need.max_ne_scores ?_ other
    cases before : known.lookup key with
    | none => exact nofun
    | some m => exact unscored key m before
  · exact unscored key' n found

lemma Unscored.opened {σ : Setting} (unscored : Unscored σ.registered) (key : TermKey)
    {needed : Need} (other : needed ≠ .scores) : σ.opened key needed ≠ .scores := by
  rw [Setting.opened]
  cases found : σ.registered.lookup key with
  | none => exact other
  | some n => exact Need.max_ne_scores (unscored key n found) other

namespace Query

variable {R : Type}

/-- The terms of a query can be registered if all of them have a field. -/
lemma exists_registered {terms : List Term} {before : List (TermKey × Need)}
    (each : ∀ t ∈ terms, t.field.isSome ∧ t.needed ≠ .scores) (unscored : Unscored before) :
    ∃ known, terms.foldlM (fun known t => do
      return Session.raise (t.text, ← t.countedField) t.needed known) before = Except.ok known ∧
        Unscored known := by
  induction terms generalizing before with
  | nil => exact ⟨before, rfl, unscored⟩
  | cons t terms ih =>
    obtain ⟨⟨named, other⟩, rest⟩ := List.forall_mem_cons.mp each
    obtain ⟨field, named⟩ := Option.isSome_iff_exists.mp named
    rw [List.foldlM_cons, countedField_eq_ok.mpr named]
    exact ih rest (unscored.raise (t.text, field) other)

end Query

/-! ## Meanings -/

section Meaning

variable {R : Type} [Scalar R] {written : String → Prop}

/-- A model with parameters and statistics makes a scorer. -/
lemma Session.exists_scorer {model : Model R} (set : model.IsSet) (q : Query R) (s : Statistics) :
    ∃ scorer, Session.scorer q model (some s) = .ok scorer := by
  cases model with
  | dirichlet mu =>
    obtain ⟨x, rfl⟩ := Option.isSome_iff_exists.mp set
    exact ⟨_, rfl⟩
  | absoluteDiscounting delta =>
    obtain ⟨x, rfl⟩ := Option.isSome_iff_exists.mp set
    exact ⟨_, rfl⟩
  | bm25 b k =>
    obtain ⟨x, rfl⟩ := Option.isSome_iff_exists.mp set.1
    obtain ⟨y, rfl⟩ := Option.isSome_iff_exists.mp set.2
    exact ⟨_, rfl⟩

namespace Setting

variable {σ : Setting} {e : Fault}

/-- A leaf that lacks nothing has a meaning, unless it cannot be read. -/
lemma leaf_error {l : Leaf R} (unscored : Unscored σ.registered)
    (ready : Query.IsReady written (.leaf l)) (failed : σ.leaf l = .error e) :
    e.IsUnreadable written := by
  cases l with
  | term t =>
    obtain ⟨named, other⟩ := ready
    obtain ⟨field, named⟩ := Option.isSome_iff_exists.mp named
    obtain ⟨found, opened⟩ :=
      σ.segment.exists_cursor t.text field (unscored.opened (t.text, field) other)
    rw [leaf, Query.countedField_eq_ok.mpr named] at failed
    change (do return occurring _ _ (← σ.segment.cursor t.text field _)) = _ at failed
    rw [opened] at failed
    cases failed
  | whitelist w =>
    obtain ⟨ids, listed⟩ := Option.isSome_iff_exists.mp (show w.ids.isSome from ready)
    rw [leaf, Session.idsWithin, listed] at failed
    cases failed
  | raw text =>
    refine ⟨text, ready, ?_⟩
    rw [leaf, Segment.rawCursor] at failed
    cases split : Segment.splitRaw text with
    | none =>
      rw [split] at failed
      cases failed
      exact ⟨rfl, rfl⟩
    | some parts =>
      have low : Need.docs ≠ .scores := by decide
      obtain ⟨found, opened⟩ := σ.segment.exists_cursor parts.2 parts.1 low
      rw [split] at failed
      dsimp only at failed
      rw [opened] at failed
      cases found <;> cases failed
  | _ => cases failed

/-- A modifier that lacks nothing changes the answers of its child. -/
lemma exists_modifier {m : Modifier R} {c : Query R} (ready : Query.IsReady written (.modify m c)) :
    ∃ change, σ.modifier m c = .ok change := by
  cases m with
  | scorer model stats =>
    obtain ⟨set, known, one⟩ := ready
    obtain ⟨s, rfl⟩ := Option.isSome_iff_exists.mp known
    obtain ⟨scorer, made⟩ := Session.exists_scorer set (.modify (.scorer model (some s)) c) s
    obtain ⟨field, named⟩ := one.exists_scorerField σ.defaultField
    refine ⟨.scored scorer (.lengths read σ.segment field), ?_⟩
    rw [modifier, made]
    change (Session.scorerField σ.defaultField c >>= _) = _
    rw [named]
    rfl
  | _ => exact ⟨_, rfl⟩

/-- An operator that lacks nothing is found to have its weights. -/
lemma checkOperator_eq_ok {op : Operator R} {cs : List (Query R)}
    (ready : Query.IsReady written (.join op cs)) :
    Session.checkOperator (.join op cs) op cs.length = .ok () := by
  cases op with
  | combine ws => exact if_pos ready
  | _ => rfl

/-- An operator that lacks nothing joins the answers of its children. -/
lemma exists_operator {op : Operator R} {cs : List (Query R)} {bs : List (Answers R Reading)}
    (ready : Query.IsReady written (.join op cs)) (same : bs.length = cs.length) :
    ∃ b, σ.operator bs op = .ok b := by
  cases op with
  | multi names =>
    obtain ⟨even, some_⟩ := ready
    have enough : names.length = bs.length ∧ bs.length ≠ 0 :=
      ⟨even.trans same.symm, fun none => some_ (List.length_eq_zero_iff.mp (by omega))⟩
    exact ⟨_, if_pos enough⟩
  | _ => exact ⟨_, rfl⟩

/-- A query whose nodes lack nothing has a meaning, unless a part of it cannot be read. -/
theorem meaning_error {need : Need} {q : Query R} (unscored : Unscored σ.registered)
    (ready : Query.Everywhere (fun _ => Query.IsReady written) need q)
    (failed : σ.meaning q = .error e) : e.IsUnreadable written := by
  induction ready generalizing e with
  | leaf ready => exact leaf_error unscored ready failed
  | modify ready _ ih =>
    obtain ⟨change, made⟩ := exists_modifier (σ := σ) ready
    rcases bind_eq_error failed with failed | ⟨_, _, failed⟩
    · cases failed.symm.trans made
    · rcases bind_eq_error failed with failed | ⟨b, _, failed⟩
      · exact ih failed
      · cases failed
  | join ready _ ih =>
    rcases bind_eq_error failed with failed | ⟨_, _, failed⟩
    · cases failed.symm.trans (checkOperator_eq_ok ready)
    · rcases bind_eq_error failed with failed | ⟨bs, inner, failed⟩
      · rw [meanings_eq_mapM] at failed
        obtain ⟨c, mem, failed⟩ := exists_mapM_eq_error failed
        exact ih c mem failed
      · obtain ⟨b, joined⟩ := exists_operator (σ := σ) ready (mem_meanings inner).1
        cases failed.symm.trans joined
  | require _ _ _ ihc ihv =>
    rcases bind_eq_error failed with failed | ⟨b, _, failed⟩
    · exact ihc failed
    · rcases bind_eq_error failed with failed | ⟨b', _, failed⟩
      · exact ihv failed
      · cases failed

end Setting

/-- A query whose nodes lack nothing is compiled in every segment, unless a part of it cannot be
read. -/
theorem Session.tree_error {segment : Segment} {defaultField : String} {share : Bool} {need : Need}
    {q : Query R} {e : Fault} (ready : Query.Everywhere (fun _ => Query.IsReady written) need q)
    (failed : tree segment defaultField share q = .error e) : e.IsUnreadable written := by
  have terms : ∀ t ∈ q.terms, t.field.isSome ∧ t.needed ≠ .scores :=
    fun t mem => ready.of_mem_nodes ((Query.mem_terms q).mp mem)
  have none : Unscored [] := by
    intro _ _ found
    cases found
  obtain ⟨known, registered, unscored⟩ := Query.exists_registered terms none
  obtain ⟨_, _, t, _, _, _, compiled, _, _⟩ | ⟨e', meant, failed'⟩ :=
    tree_spec segment defaultField share q
  · cases failed.symm.trans compiled
  · cases failed.symm.trans failed'
    rcases bind_eq_error meant with meant | ⟨known', registered', meant⟩
    · cases meant.symm.trans registered
    · cases registered'.symm.trans registered
      exact Setting.meaning_error unscored ready meant

/-! ## What compilation wants -/

/-- A text in the words of the index that can be read. -/
def Segment.Readable (text : String) : Prop := (splitRaw text).isSome

lemma Session.set_of_scorer {model : Model R} {stats : Option Statistics} {q : Query R}
    {scorer : Scorer R} (made : Session.scorer q model stats = .ok scorer) :
    model.IsSet ∧ stats.isSome := by
  have set {x : Option R} {name : String} {y : R} (found : parameter q name x = .ok y) :
      x.isSome := by
    cases x with
    | none => cases found
    | some x => rfl
  cases stats with
  | none => cases made
  | some s =>
    refine ⟨?_, rfl⟩
    obtain ⟨_, _, made⟩ := bind_eq_ok made
    cases model with
    | dirichlet mu =>
      obtain ⟨_, found, _⟩ := bind_eq_ok made
      exact set found
    | absoluteDiscounting delta =>
      obtain ⟨_, found, _⟩ := bind_eq_ok made
      exact set found
    | bm25 b k =>
      obtain ⟨_, found, made⟩ := bind_eq_ok made
      obtain ⟨_, found', _⟩ := bind_eq_ok made
      exact ⟨set found, set found'⟩

/-- A scorer is normalised by some field only over terms of one field. -/
lemma Query.oneField_of_scorerField {fallback field : String} {q : Query R}
    (named : Session.scorerField fallback q = .ok field) : q.OneField := by
  rcases scorerField_eq_ok.mp named with ⟨stats, rfl⟩ | ⟨_, each, _⟩
  · exact ⟨field, List.forall_mem_nil _⟩
  · exact ⟨field, each⟩

namespace Setting

variable {σ : Setting} {b : Answers R Reading}

lemma leaf_ready {l : Leaf R} (meant : σ.leaf l = .ok b) :
    Query.IsReady Segment.Readable (.leaf l) := by
  cases l with
  | term t =>
    obtain ⟨field, named, meant⟩ := bind_eq_ok meant
    obtain ⟨found, opened, _⟩ := bind_eq_ok meant
    refine ⟨Option.isSome_of_eq_some (Query.countedField_eq_ok.mp named), fun scores => ?_⟩
    have le := σ.le_opened (t.text, field) t.needed
    rw [Segment.cursor] at opened
    split at opened
    · cases opened
    · next other =>
      rw [scores] at le other
      revert le other
      cases σ.opened (t.text, field) .scores <;> decide
  | whitelist w =>
    obtain ⟨ids, listed, _⟩ := bind_eq_ok meant
    rw [Session.idsWithin] at listed
    split at listed
    · cases listed
    · next ids listed' => exact Option.isSome_of_eq_some listed'
  | raw text =>
    obtain ⟨found, opened, _⟩ := bind_eq_ok meant
    rw [Segment.rawCursor] at opened
    split at opened
    · next read => exact Option.isSome_of_eq_some read
    · cases opened
  | _ => trivial

lemma modifier_ready {m : Modifier R} {c : Query R} {change : Answers R Reading → Answers R Reading}
    (meant : σ.modifier m c = .ok change) : Query.IsReady Segment.Readable (.modify m c) := by
  cases m with
  | scorer model stats =>
    obtain ⟨scorer, made, meant⟩ := bind_eq_ok meant
    obtain ⟨field, named, _⟩ := bind_eq_ok meant
    obtain ⟨set, known⟩ := Session.set_of_scorer made
    exact ⟨set, known, Query.oneField_of_scorerField named⟩
  | _ => trivial

lemma operator_ready {op : Operator R} {cs : List (Query R)} {bs : List (Answers R Reading)}
    (checked : Session.checkOperator (.join op cs) op cs.length = .ok ())
    (same : bs.length = cs.length) (meant : σ.operator bs op = .ok b) :
    Query.IsReady Segment.Readable (.join op cs) := by
  cases op with
  | combine ws =>
    rw [Session.checkOperator] at checked
    split at checked
    · assumption
    · cases checked
  | multi names =>
    obtain ⟨even, some_, _⟩ := named_of_operator meant
    refine ⟨even.trans same, fun none => some_ ?_⟩
    rw [← even, none, List.length_nil]
  | _ => trivial

mutual

/-- Nothing is lacking in a query that has a meaning. -/
theorem ready_of_meaning {need : Need} {b : Answers R Reading} : (q : Query R) →
    σ.meaning q = .ok b → Query.Everywhere (fun _ => Query.IsReady Segment.Readable) need q
  | .leaf l, meant => .leaf (leaf_ready meant)
  | .modify m c, meant => by
    obtain ⟨change, modified, meant⟩ := bind_eq_ok meant
    obtain ⟨x, inner, _⟩ := bind_eq_ok meant
    exact .modify (modifier_ready modified) (ready_of_meaning c inner)
  | .join op cs, meant => by
    obtain ⟨_, checked, meant⟩ := bind_eq_ok meant
    obtain ⟨bs, inner, meant⟩ := bind_eq_ok meant
    exact .join (operator_ready checked (mem_meanings inner).1 meant) (ready_of_meanings cs inner)
  | .require c v, meant => by
    obtain ⟨x, cond, meant⟩ := bind_eq_ok meant
    obtain ⟨y, value, _⟩ := bind_eq_ok meant
    exact .require trivial (ready_of_meaning c cond) (ready_of_meaning v value)

theorem ready_of_meanings {need : Need} {bs : List (Answers R Reading)} : (cs : List (Query R)) →
    σ.meanings cs = .ok bs →
      ∀ c ∈ cs, Query.Everywhere (fun _ => Query.IsReady Segment.Readable) need c
  | [], _ => List.forall_mem_nil _
  | c :: cs, meant => by
    obtain ⟨x, first, meant⟩ := bind_eq_ok meant
    obtain ⟨xs, rest, _⟩ := bind_eq_ok meant
    exact List.forall_mem_cons.mpr ⟨ready_of_meaning c first, ready_of_meanings cs rest⟩

end

end Setting

/-- Those queries are compiled whose nodes lack nothing and whose parts in the words of the index
can be read, whatever the segment. -/
theorem Session.exists_tree_iff {segment : Segment} {defaultField : String} {share : Bool}
    {need : Need} {q : Query R} : (∃ t, tree segment defaultField share q = .ok t) ↔
      Query.Everywhere (fun _ => Query.IsReady Segment.Readable) need q := by
  constructor
  · rintro ⟨t, compiled⟩
    obtain ⟨σ, o, t', _, _, _, tree_eq, compiled', _⟩ | ⟨e, _, failed⟩ :=
      tree_spec segment defaultField share q
    · obtain ⟨b, meant, _⟩ := compiled'.agree
      exact Setting.ready_of_meaning q meant
    · cases compiled.symm.trans failed
  · intro ready
    cases compiled : tree segment defaultField share q with
    | ok t => exact ⟨t, rfl⟩
    | error e =>
      obtain ⟨text, readable, unreadable, _⟩ := tree_error ready compiled
      rw [Segment.Readable, unreadable] at readable
      cases readable

end Meaning

end Retrieval
