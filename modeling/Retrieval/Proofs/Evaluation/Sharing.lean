import Retrieval.Proofs.Evaluation.History
import Retrieval.Proofs.Evaluation.Success

/-!
# Shared leaves

A session that shares its leaves keeps the leaf that it makes for the first request of a term, and
hands it out to every later one, whatever that asks for. So the first request settles what the term
is opened for (`Session.openedFor`): what it asks, or what was registered by then if that is more
(`Session.le_openedFor`). A leaf supports a later request exactly where this is enough
(`Session.term_supports_iff`), and it is not always enough: a term that was opened for documents has
no counts, however often they are asked for or registered afterwards.
-/

namespace Retrieval

/-! ## Requests -/

namespace Session

/-- What can be asked of a session. -/
inductive Request (R : Type) where
  /-- To know what a query needs of its terms. -/
  | register (q : Query R)
  /-- The leaf of a term. -/
  | term (text field : String) (needed : Need)
  /-- The lengths of a field. -/
  | lengths (field : String)
  /-- The plan of a query, whether or not its needs were registered. -/
  | plan (q : Query R)

variable {R : Type}

/-- The terms whose leaves a request asks for, in their order. -/
def Request.terms : Request R → List Term
  | .term text field needed => [{ text, field := some field, needed }]
  | .plan q => q.terms
  | .register _ | .lengths _ => []

/-- What the first occurrence of a term asks for. -/
def firstNeed (key : TermKey) (terms : List Term) : Option Need :=
  (terms.find? fun t => t.text = key.1 ∧ t.field = some key.2).map (·.needed)

/-- What a session reads its queries in. -/
def setting (s : Session R) : Setting := ⟨s.segment, s.defaultField, s.registered, .never⟩

variable [Scalar R]

/-- The session after a request, which may have failed. -/
def serve (s : Session R) : Request R → Session R
  | .register q => (run (recordNeeds q) s).2
  | .term text field needed => (run (term text field needed) s).2
  | .lengths field => (run (leaf (.lengths { field := some field })) s).2
  | .plan q => (run (plan q) s).2

/-- The session after requests one after the other. -/
def after (s : Session R) (requests : List (Request R)) : Session R := requests.foldl serve s

/-- What a term is opened for while requests are served: what is asked by the first of them that
leaves the session with a leaf of the term, or what was registered before it, if that is more. -/
def openedFor (s : Session R) (key : TermKey) : List (Request R) → Option Need
  | [] => none
  | r :: rs =>
    match (s.serve r).shared.lookup key with
    | some _ => (firstNeed key r.terms).map (s.setting.opened key)
    | none => openedFor (s.serve r) key rs

lemma after_append (s : Session R) (requests later : List (Request R)) :
    s.after (requests ++ later) = (s.after requests).after later := List.foldl_append

omit [Scalar R] in
/-- The first occurrence is found in the first list that has one. -/
lemma firstNeed_append (key : TermKey) (ts ts' : List Term) :
    firstNeed key (ts ++ ts') = (firstNeed key ts).or (firstNeed key ts') := by
  rw [firstNeed, List.find?_append, Option.map_or, firstNeed, firstNeed]

omit [Scalar R] in
lemma firstNeed_singleton {t : Term} {field : String} (named : t.field = some field)
    (key : TermKey) :
    firstNeed key [t] = if (t.text, field) = key then some t.needed else none := by
  obtain ⟨text, field'⟩ := key
  simp only [firstNeed, List.find?_singleton, named, Option.some.injEq, Prod.mk.injEq]
  split <;> simp_all

/-! ## What requests do to a session -/

/-- The leaf answers as a term that is opened for `n`, however many cursors come after and whatever
becomes of sums of counts. -/
def OpenedAt (segment : Segment) (cursors : Array Postings) (key : TermKey) (n : Need)
    (leaf : Plan R) : Prop :=
  ∃ source label postings, leaf = .leaf source ∧
    segment.cursor key.1 key.2 n = .ok postings ∧
    ∀ overflow more, Extends cursors more →
      source.answers (Reading.access overflow more) segment = Setting.occurring label n postings

lemma OpenedAt.mono {segment : Segment} {cursors cursors' : Array Postings} {key : TermKey} {n : Need}
    {leaf : Plan R} (opened : OpenedAt segment cursors key n leaf)
    (grown : Extends cursors cursors') : OpenedAt segment cursors' key n leaf := by
  obtain ⟨source, label, postings, rfl, found, reads⟩ := opened
  exact ⟨source, label, postings, rfl, found,
    fun overflow more kept => reads overflow more (grown.trans kept)⟩

/-- Nothing that a session holds is lost or changed. -/
structure Grows (s s' : Session R) : Prop where
  segment : s'.segment = s.segment
  share : s'.share = s.share
  doc : s'.state.doc = s.state.doc
  positioned : s'.state.positioned = s.state.positioned
  cursors : Extends s.state.cursors s'.state.cursors
  leaves : ∀ key leaf, s.shared.lookup key = some leaf → s'.shared.lookup key = some leaf

namespace Grows

omit [Scalar R]

lemma refl (s : Session R) : Grows s s := ⟨rfl, rfl, rfl, rfl, .refl _, fun _ _ held => held⟩

lemma trans {s s' s'' : Session R} (left : Grows s s') (right : Grows s' s'') : Grows s s'' where
  segment := right.segment.trans left.segment
  share := right.share.trans left.share
  doc := right.doc.trans left.doc
  positioned := right.positioned.trans left.positioned
  cursors := left.cursors.trans right.cursors
  leaves key leaf held := right.leaves key leaf (left.leaves key leaf held)

end Grows

/-- How a step may end that asks a session for the leaves of these terms: a leaf that is new was
opened for its first occurrence, and if the step has succeeded, a leaf of each term is held. -/
structure AskedFor {α : Type} (terms : List Term) (s : Session R) (outcome : Except Fault α × Session R) :
    Prop where
  grows : Grows s outcome.2
  registered : outcome.2.registered = s.registered
  opened : ∀ key leaf, s.shared.lookup key = none → outcome.2.shared.lookup key = some leaf →
    ∃ n, firstNeed key terms = some n ∧
      OpenedAt s.segment outcome.2.state.cursors key (s.setting.opened key n) leaf
  held : ∀ a, outcome.1 = .ok a → ∀ key, firstNeed key terms ≠ none →
    outcome.2.shared.lookup key ≠ none

namespace AskedFor

variable {α β : Type} {terms terms' : List Term} {s s' : Session R}

/-- A step that makes no leaf may have asked for terms only if it has failed, or if it holds them. -/
lemma idle {result : Except Fault α}
    (held : ∀ a, result = .ok a → ∀ key, firstNeed key terms ≠ none → s.shared.lookup key ≠ none) :
    AskedFor terms s (result, s) :=
  ⟨.refl s, rfl, fun _ _ unheld made => (nomatch unheld.symm.trans made), held⟩

/-- A step may allot cursors and windows without asking for a term. -/
lemma allot {result : Except Fault α} {state : EvalState} (doc : state.doc = s.state.doc)
    (positioned : state.positioned = s.state.positioned)
    (grown : Extends s.state.cursors state.cursors) : AskedFor [] s (result, { s with state }) :=
  ⟨⟨rfl, rfl, doc, positioned, grown, fun _ _ held => held⟩, rfl,
    fun _ _ unheld made => (nomatch unheld.symm.trans made), fun _ _ _ asked => (asked rfl).elim⟩

/-- What comes after a step that has failed does not matter. -/
lemma failed {e : Fault} (first : AskedFor terms s ((.error e : Except Fault α), s')) :
    AskedFor (terms ++ terms') s ((.error e : Except Fault β), s') where
  grows := first.grows
  registered := first.registered
  opened key leaf unheld made := by
    obtain ⟨n, asked, opened⟩ := first.opened key leaf unheld made
    exact ⟨n, by rw [firstNeed_append, asked, Option.some_or], opened⟩
  held := nofun

/-- After a step that has succeeded, no leaf is made for a term that it has asked for. -/
lemma trans {a : α} {outcome : Except Fault β × Session R} (first : AskedFor terms s (.ok a, s'))
    (next : AskedFor terms' s' outcome) : AskedFor (terms ++ terms') s outcome where
  grows := first.grows.trans next.grows
  registered := next.registered.trans first.registered
  opened key leaf unheld made := by
    rw [firstNeed_append]
    cases between : s'.shared.lookup key with
    | some leaf' =>
      obtain ⟨n, asked, opened⟩ := first.opened key leaf' unheld between
      cases (next.grows.leaves key leaf' between).symm.trans made
      exact ⟨n, by rw [asked, Option.some_or], opened.mono next.grows.cursors⟩
    | none =>
      obtain ⟨n, asked, opened⟩ := next.opened key leaf between made
      have unasked : firstNeed key terms = none :=
        not_not.mp fun asked => first.held a rfl key asked between
      have same : s'.setting.opened key n = s.setting.opened key n := by
        rw [Setting.opened, Setting.opened, setting, setting, first.registered]
      rw [same, first.grows.segment] at opened
      exact ⟨n, by rw [unasked, Option.none_or, asked], opened⟩
  held b succeeded key asked := by
    rw [firstNeed_append] at asked
    cases before : firstNeed key terms with
    | none =>
      rw [before, Option.none_or] at asked
      exact next.held b succeeded key asked
    | some n =>
      have there := first.held a rfl key (before ▸ Option.some_ne_none n)
      obtain ⟨leaf, found⟩ := Option.ne_none_iff_exists'.mp there
      rw [next.grows.leaves key leaf found]
      exact Option.some_ne_none leaf

end AskedFor

/-- A step asks a session for the leaves of these terms. -/
def AsksFor {α : Type} (s : Session R) (step : Compile R α) (terms : List Term) : Prop :=
  AskedFor terms s (run step s)

namespace AsksFor

variable {α β : Type} {terms terms' : List Term} {s : Session R}

lemma pure (a : α) : AsksFor s (Pure.pure a) [] := .idle fun _ _ _ asked => (asked rfl).elim

lemma throw (e : Fault) : AsksFor s (MonadExcept.throw e : Compile R α) terms := .idle nofun

lemma get_bind {next : Session R → Compile R α} (rest : AsksFor s (next s) terms) :
    AsksFor s (get >>= next) terms := rest

lemma ofExcept_bind {result : Except Fault β} {next : β → Compile R α}
    (rest : ∀ b, result = .ok b → AsksFor s (next b) terms) :
    AsksFor s (ofExcept result >>= next) terms := by
  cases result with
  | error e => exact throw e
  | ok b => exact rest b rfl

/-- Steps ask for their terms one after the other. -/
lemma bind {step : Compile R β} {next : β → Compile R α} (first : AsksFor s step terms)
    (rest : ∀ b s', s'.share = s.share → AsksFor s' (next b) terms') :
    AsksFor s (step >>= next) (terms ++ terms') := by
  rw [AsksFor] at first ⊢
  rcases ran : run step s with ⟨e | b, s'⟩
  · rw [ran] at first
    rw [show run (step >>= next) s = _ from runState_bind_error ran]
    exact first.failed
  · rw [ran] at first
    rw [show run (step >>= next) s = run (next b) s' from runState_bind_ok ran]
    exact first.trans (rest b s' first.grows.share)

/-- A step whose result is only wrapped up asks for the same terms. -/
lemma bind_pure {step : Compile R β} {wrap : β → α} (first : AsksFor s step terms) :
    AsksFor s (step >>= fun b => Pure.pure (wrap b)) terms := by
  rw [← List.append_nil terms]
  exact bind first fun b _ _ => pure (wrap b)

end AsksFor

/-! ## Steps of compilation -/

omit [Scalar R] in
/-- Where leaves are shared, a term is handed out if a leaf of it is held; otherwise it is opened, and
its leaf is kept. -/
lemma term_run {s : Session R} (share : s.share = true) (text field : String) (needed : Need) :
    run (term text field needed) s = run (match s.shared.lookup (text, field) with
      | some leaf => return leaf
      | none => do
        let opened := s.setting.opened (text, field) needed
        let postings ← ofExcept (s.segment.cursor text field opened)
        let leaf ← newTerm s!"{field}:{text}" opened postings
        modify fun s => { s with shared := ((text, field), leaf) :: s.shared }
        return leaf) s := by
  have read (next : Session R → Compile R (Plan R)) : run (get >>= next) s = run (next s) s := rfl
  rw [term, read]
  simp only [share, if_true]
  rfl

/-- A term is found, or is not opened because scores were asked of it, or is held from now on. -/
lemma term_cases {s : Session R} (share : s.share = true) (text field : String) (needed : Need) :
    (∃ leaf, s.shared.lookup (text, field) = some leaf ∧
      run (term text field needed) s = (.ok leaf, s)) ∨
    (s.setting.opened (text, field) needed = .scores ∧
      run (term text field needed) s = (.error (.cannotOpen field text Need.scores.text), s)) ∨
    ∃ leaf cursors, s.shared.lookup (text, field) = none ∧ Extends s.state.cursors cursors ∧
      OpenedAt s.segment cursors (text, field) (s.setting.opened (text, field) needed) leaf ∧
      run (term text field needed) s = (.ok leaf, { s with
        shared := ((text, field), leaf) :: s.shared, state := { s.state with cursors } }) := by
  rw [term_run share]
  cases found : s.shared.lookup (text, field) with
  | some leaf => exact .inl ⟨leaf, rfl, rfl⟩
  | none =>
    dsimp only
    by_cases scores : s.setting.opened (text, field) needed = .scores
    · refine .inr (.inl ⟨scores, ?_⟩)
      rw [scores, Segment.cursor, if_pos rfl]
      rfl
    · obtain ⟨postings, opened⟩ : ∃ postings, s.segment.cursor text field
          (s.setting.opened (text, field) needed) = .ok postings := ⟨_, if_neg scores⟩
      obtain ⟨source, cursors, ran, grown, reads⟩ := run_newTerm s s!"{field}:{text}"
        (s.setting.opened (text, field) needed) postings
      refine .inr (.inr ⟨.leaf source, cursors, rfl, grown,
        ⟨source, _, postings, rfl, opened, fun overflow => reads overflow s.segment⟩, ?_⟩)
      rw [opened]
      exact runState_bind_ok ran

/-- A leaf that is given out is held. -/
lemma term_held {s s' : Session R} (share : s.share = true) {text field : String} {needed : Need}
    {leaf : Plan R} (given : run (term text field needed) s = (.ok leaf, s')) :
    s'.shared.lookup (text, field) = some leaf := by
  obtain ⟨_, found, ran⟩ | ⟨_, ran⟩ | ⟨_, _, _, _, _, ran⟩ := term_cases share text field needed
  · cases ran.symm.trans given
    exact found
  · cases ran.symm.trans given
  · cases ran.symm.trans given
    exact List.lookup_cons_self

/-- A term asks for its own leaf. -/
lemma term_asks {s : Session R} (share : s.share = true) {t : Term} {field : String}
    (named : t.field = some field) : AsksFor s (term t.text field t.needed) [t] := by
  have isKey {key : TermKey} (asked : firstNeed key [t] ≠ none) : key = (t.text, field) := by
    rw [firstNeed_singleton named] at asked
    exact (of_not_not fun other => asked (if_neg other)).symm
  rw [AsksFor]
  obtain ⟨leaf, found, ran⟩ | ⟨_, ran⟩ | ⟨leaf, cursors, unheld, grown, opened, ran⟩ :=
    term_cases share t.text field t.needed
  · rw [ran]
    refine .idle fun _ _ key asked => ?_
    rw [isKey asked, found]
    exact Option.some_ne_none leaf
  · rw [ran]
    exact .idle nofun
  · rw [ran]
    refine ⟨⟨rfl, rfl, rfl, rfl, grown, fun key leaf' held => ?_⟩, rfl,
      fun key leaf' unheld' made => ?_, fun _ _ key asked => ?_⟩
    · have other : key ≠ (t.text, field) := by
        rintro rfl
        cases unheld.symm.trans held
      change ((_, _) :: s.shared).lookup key = _
      rw [List.lookup_cons, beq_eq_false_iff_ne.mpr other]
      exact held
    · change ((_, _) :: s.shared).lookup key = _ at made
      rw [List.lookup_cons] at made
      split at made
      · next same =>
        cases made
        cases eq_of_beq same
        exact ⟨t.needed, by rw [firstNeed_singleton named, if_pos rfl], opened⟩
      · cases unheld'.symm.trans made
    · rw [isKey asked, List.lookup_cons_self]
      exact Option.some_ne_none leaf

/-- A leaf that is not a term's asks for none. -/
lemma leaf_asks {s : Session R} (share : s.share = true) (l : Leaf R) :
    AsksFor s (leaf l) (Query.leaf l).terms := by
  apply AsksFor.get_bind
  cases l with
  | term t =>
    refine .ofExcept_bind fun field counted => term_asks share ?_
    rw [Term.countedField] at counted
    split at counted
    · next named =>
      cases counted
      exact named
    · cases counted
  | whitelist w => exact .ofExcept_bind fun _ _ => .pure _
  | raw q =>
    apply AsksFor.ofExcept_bind
    intro postings _
    cases postings with
    | none => exact .pure _
    | some p => exact .allot rfl rfl (.push _ p)
  | _ => exact .pure _

lemma adapter_asks (s : Session R) (m : Modifier R) (child : Query R) :
    AsksFor s (adapter m child) [] := by
  cases m with
  | scorer model stats =>
    exact .ofExcept_bind fun _ _ => .get_bind <| .ofExcept_bind fun _ _ => .pure _
  | _ => exact .pure _

lemma joint_asks (s : Session R) (op : Operator R) (children : Nat) :
    AsksFor s (joint op children) [] := by
  have window (kind : Window) :
      AsksFor s (do return Joint.window (R := R) (← newWindow) kind) [] :=
    .allot rfl rfl (.refl _)
  cases op with
  | orderedWindow step => exact window (.ordered step)
  | unorderedWindow width => exact window (.unordered width)
  | prox width => exact window (.prox width)
  | multi names =>
    rw [joint]
    split
    · exact .pure _
    · exact .throw _
  | _ => exact .pure _

mutual

/-- A plan asks for the leaves of all terms of its query, from left to right. -/
theorem plan_asks {s : Session R} (share : s.share = true) :
    (q : Query R) → AsksFor s (plan q) q.terms
  | .leaf l => leaf_asks share l
  | .modify m c => by
    refine .bind (adapter_asks s m c) fun a s' same => ?_
    exact .bind_pure (plan_asks (same.trans share) c)
  | .join op cs => by
    apply AsksFor.ofExcept_bind
    intro _ _
    rw [Query.terms, ← List.append_nil (Query.termsAll cs)]
    exact .bind (plans_ask share cs) fun _ s' _ => .bind_pure (joint_asks s' op cs.length)
  | .require c v => by
    refine .bind (plan_asks share c) fun p s' same => ?_
    exact .bind_pure (plan_asks (same.trans share) v)

theorem plans_ask {s : Session R} (share : s.share = true) :
    (cs : List (Query R)) → AsksFor s (plans cs) (Query.termsAll cs)
  | [] => .pure _
  | c :: cs => by
    refine .bind (plan_asks share c) fun p s' same => ?_
    exact .bind_pure (plans_ask (same.trans share) cs)

end

/-! ## Runs of requests -/

/-- A query may fail to be registered; then what was known before is still covered. -/
lemma serve_register (s : Session R) (q : Query R) : ∃ known,
    s.serve (.register q) = { s with registered := known } ∧
      ∀ key needed, Covers s.registered key needed → Covers known key needed := by
  obtain ⟨known, registered, ran⟩ | ⟨e, known, _, ran, keep⟩ := recordNeeds_run q s
  · exact ⟨known, congrArg Prod.snd ran, (Query.covers_of_foldlM registered).2⟩
  · exact ⟨known, congrArg Prod.snd ran, keep⟩

/-- A request asks for the leaves of its terms, and for no more than the session knew. -/
lemma serve_outcome {s : Session R} (share : s.share = true) (r : Request R) :
    Grows s (s.serve r) ∧ ∀ key leaf, s.shared.lookup key = none →
      (s.serve r).shared.lookup key = some leaf → ∃ n, firstNeed key r.terms = some n ∧
        OpenedAt s.segment (s.serve r).state.cursors key (s.setting.opened key n) leaf := by
  cases r with
  | register q =>
    obtain ⟨known, ran, _⟩ := serve_register s q
    rw [ran]
    exact ⟨⟨rfl, rfl, rfl, rfl, .refl _, fun _ _ held => held⟩,
      fun _ _ unheld made => nomatch unheld.symm.trans made⟩
  | term text field needed =>
    have asks := term_asks share (t := { text, field := some field, needed }) rfl
    exact ⟨asks.grows, asks.opened⟩
  | lengths field =>
    have asks := leaf_asks share (.lengths { field := some field })
    exact ⟨asks.grows, asks.opened⟩
  | plan q =>
    have asks := plan_asks share q
    exact ⟨asks.grows, asks.opened⟩

/-- Requests only add to what a session holds. -/
lemma after_grows {s : Session R} (share : s.share = true) (requests : List (Request R)) :
    Grows s (s.after requests) := by
  induction requests generalizing s with
  | nil => exact .refl s
  | cons r rs ih =>
    have grows := (serve_outcome share r).1
    exact grows.trans (ih (grows.share.trans share))

/-- A leaf that came to be held while requests were served was opened for what the first request of
its term came to. -/
lemma exists_openedFor {s : Session R} (share : s.share = true) {key : TermKey} {leaf : Plan R}
    (unheld : s.shared.lookup key = none) {requests : List (Request R)}
    (held : (s.after requests).shared.lookup key = some leaf) :
    ∃ n, s.openedFor key requests = some n ∧
      OpenedAt s.segment (s.after requests).state.cursors key n leaf := by
  induction requests generalizing s with
  | nil => cases unheld.symm.trans held
  | cons r rs ih =>
    obtain ⟨grows, opened⟩ := serve_outcome share r
    have share' := grows.share.trans share
    rw [openedFor]
    cases made : (s.serve r).shared.lookup key with
    | none =>
      obtain ⟨n, first, openedAt⟩ := ih share' made held
      rw [grows.segment] at openedAt
      exact ⟨n, first, openedAt⟩
    | some leaf' =>
      have later := after_grows share' rs
      cases (later.leaves key leaf' made).symm.trans held
      obtain ⟨n, asked, openedAt⟩ := opened key leaf unheld made
      exact ⟨_, by rw [asked, Option.map_some], openedAt.mono later.cursors⟩

/-- What a session knows of a term stays covered while it serves requests. -/
lemma serve_covers {s : Session R} (share : s.share = true) (r : Request R) {key : TermKey}
    {needed : Need} (covers : Covers s.registered key needed) :
    Covers (s.serve r).registered key needed := by
  cases r with
  | register q =>
    obtain ⟨known, ran, keep⟩ := serve_register s q
    rw [ran]
    exact keep key needed covers
  | term text field needed =>
    have asks := term_asks share (t := { text, field := some field, needed }) rfl
    exact asks.registered.symm ▸ covers
  | lengths field => exact covers
  | plan q => exact (plan_asks share q).registered.symm ▸ covers

/-- A term whose need is registered before a leaf of it is made is opened for at least that. -/
theorem le_openedFor {s : Session R} (share : s.share = true) {key : TermKey} {needed n : Need}
    (covers : Covers s.registered key needed) {requests : List (Request R)}
    (opened : s.openedFor key requests = some n) : needed ≤ n := by
  induction requests generalizing s with
  | nil => cases opened
  | cons r rs ih =>
    rw [openedFor] at opened
    split at opened
    · obtain ⟨asked, _, rfl⟩ := Option.map_eq_some_iff.mp opened
      exact Covers.le_opened (σ := s.setting) covers asked
    · have grows := (serve_outcome share r).1
      exact ih (grows.share.trans share) (serve_covers share r covers) opened

end Session

/-! ## What a leaf supports -/

namespace Need

/-- Short of scores, what is at least counts is counts or positions. -/
lemma counted_of_le {n : Need} (le : .counts ≤ n) (unscored : n ≠ .scores) :
    n = .counts ∨ n = .positions := by
  cases n with
  | docs => exact absurd le (by decide)
  | counts => exact .inl rfl
  | positions => exact .inr rfl
  | scores => exact absurd rfl unscored

lemma placed_of_le {n : Need} (le : .positions ≤ n) (unscored : n ≠ .scores) : n = .positions := by
  obtain rfl | rfl := counted_of_le (Need.le_trans (by decide) le) unscored
  · exact absurd le (by decide)
  · rfl

end Need

namespace Setting

variable {R : Type} [Scalar R] {label : String} {n needed : Need}

/-- Only where scores were registered is a term to be opened for scores that others ask of it. -/
lemma registered_of_opened (σ : Setting) {key : TermKey} (unscored : needed ≠ .scores)
    (opened : σ.opened key needed = .scores) : σ.registered.lookup key = some .scores := by
  rw [Setting.opened] at opened
  cases known : σ.registered.lookup key with
  | none =>
    rw [known] at opened
    exact absurd opened unscored
  | some n =>
    rw [known] at opened
    by_contra other
    exact Need.max_ne_scores (fun same => other (congrArg some same)) unscored opened

/-- A term that was opened for less than counts refuses to be counted. -/
lemma occurring_count_of_lt {p : Postings} (low : n < .counts) (doc : Nat) :
    (occurring (R := R) label n (some p)).count doc = .error (.openedTooLow "count" label n.text) := by
  rw [occurring, Answers.term, if_pos low]
  rfl

/-- A term that was opened for less than positions refuses to be placed. -/
lemma occurring_positions_of_lt {p : Postings} (low : n < .positions) (doc : Nat) :
    (occurring (R := R) label n (some p)).positions doc
      = .error (.openedTooLow "positions" label n.text) := by
  rw [occurring, Answers.term, if_pos low]
  rfl

/-- A term that has all that is asked of it was opened for as much. -/
lemma le_of_occurring {p : Postings} {doc : Nat} (unscored : needed ≠ .scores)
    (counted : .counts ≤ needed → ∃ k, (occurring (R := R) label n (some p)).count doc = .ok k)
    (placed : .positions ≤ needed →
      ∃ ps, (occurring (R := R) label n (some p)).positions doc = .ok ps) : needed ≤ n := by
  refine Nat.le_of_not_lt fun low => ?_
  cases needed with
  | docs => exact Nat.not_lt_zero _ low
  | counts =>
    obtain ⟨k, answer⟩ := counted (Need.le_refl _)
    cases (occurring_count_of_lt low doc).symm.trans answer
  | positions =>
    obtain ⟨ps, answer⟩ := placed (Need.le_refl _)
    cases (occurring_positions_of_lt low doc).symm.trans answer
  | scores => exact unscored rfl

/-- A term that was opened for as much as is asked, or does not occur, has all of it. -/
lemma occurring_answers {postings : Option Postings} (unscored : needed ≠ .scores)
    (held : ∀ p, postings = some p → p.needed = n) (enough : postings = none ∨ needed ≤ n)
    (doc : Nat) :
    (.counts ≤ needed → ∃ k, (occurring (R := R) label n postings).count doc = .ok k) ∧
      (.positions ≤ needed →
        ∃ ps, (occurring (R := R) label n postings).positions doc = .ok ps) := by
  have gives : (occurring (R := R) label n postings).Gives False doc needed := by
    obtain rfl | le := enough
    · change (occurring label needed none).Gives False doc needed
      refine occurring_gives label (Need.le_refl needed) unscored fun p found => ?_
      cases found
    · exact occurring_gives label le unscored held
  exact ⟨fun asked => (gives.count (Need.counted_of_le asked unscored)).exists_ok id,
    fun asked => (gives.positions (Need.placed_of_le asked unscored)).exists_ok id⟩

end Setting

namespace Tree

variable {R : Type} [Scalar R]

/-- The tree has in the current document what was asked of its root. -/
structure Supports (t : Tree R) (needed : Need) : Prop where
  count : .counts ≤ needed → ∃ n, t.count.1 = .ok n
  positions : .positions ≤ needed → ∃ ps, t.positions.1 = .ok ps

end Tree

namespace Session

variable {R : Type} [Scalar R]

/-- A leaf that was opened for a need has what is asked of it exactly if that is not more, unless the
term does not occur. -/
lemma OpenedAt.supports_iff {segment : Segment} {cursors : Array Postings} {text field : String}
    {n needed : Need} {t : Tree R} {place : Option Nat} {overflow : Overflow}
    (unscored : needed ≠ .scores) (opened : OpenedAt segment cursors (text, field) n t.root)
    (same : t.segment = segment) (stands : t.Stands ⟨cursors, [], overflow⟩ place)
    (calls : List Tree.Call) :
    (t.after calls).Supports needed ↔ segment.cursor text field n = .ok none ∨ needed ≤ n := by
  obtain ⟨source, label, postings, root, found, reads⟩ := opened
  let o : Origin := ⟨cursors, [], overflow⟩
  have agree : Answers.Agree o t.behaviour (Setting.occurring label n postings) := by
    rw [← reads overflow cursors (.refl _), Tree.behaviour, root, same]
    have once : (o.searches.map Prod.fst).Nodup := List.nodup_nil
    exact (Plan.leaf source).agree segment once (List.nil_subset _)
  -- what the tree answers is what the term answers in the document where the tree has come to stand
  have stands := stands.after agree calls
  rw [← t.after_behaviour calls] at agree
  have count := (stands.ask agree.count).1
  have positions := (stands.ask agree.positions).1
  generalize (Tree.placeAfter place calls).getD 0 = doc at count positions
  have held : ∀ p, postings = some p → p.needed = n :=
    fun p some => Segment.needed_of_cursor (some ▸ found)
  constructor
  · rintro ⟨counted, placed⟩
    rw [Tree.count, count] at counted
    rw [Tree.positions, positions] at placed
    cases postings with
    | none => exact .inl found
    | some p => exact .inr (Setting.le_of_occurring unscored counted placed)
  · intro enough
    have enough : postings = none ∨ needed ≤ n :=
      enough.imp_left fun missing => Except.ok.inj (found.symm.trans missing)
    obtain ⟨counted, placed⟩ :=
      Setting.occurring_answers (R := R) unscored held enough doc
    exact ⟨count ▸ counted, positions ▸ placed⟩

/-- A leaf that was given out for a term supports what was asked of it exactly where the term does
not occur or was opened for as much. -/
lemma supports_iff_of_given {segment : Segment} {defaultField : String} {history : List (Request R)}
    {text field : String} {needed : Need} {leaf : Plan R} {s : Session R}
    (unscored : needed ≠ .scores)
    (given : run (term text field needed)
      ((ofSegment segment defaultField true).after history) = (.ok leaf, s)) :
    ∃ n, (ofSegment segment defaultField true).openedFor (text, field)
        (history ++ [.term text field needed]) = some n ∧
      ∀ later calls, ((⟨segment, leaf, (s.after later).state⟩ : Tree R).after calls).Supports needed ↔
        segment.cursor text field n = .ok none ∨ needed ≤ n := by
  let fresh : Session R := ofSegment segment defaultField true
  let requests := history ++ [.term text field needed]
  have share : fresh.share = true := rfl
  have served : fresh.after requests = s := by
    rw [after_append]
    exact congrArg Prod.snd given
  have held : (fresh.after requests).shared.lookup (text, field) = some leaf := by
    rw [served]
    exact term_held (after_grows share history).share given
  obtain ⟨n, opened, openedAt⟩ := exists_openedFor share rfl held
  refine ⟨n, opened, fun later calls => ?_⟩
  have more := after_grows ((after_grows share requests).share.trans share) later
  -- no request moves the session, so the leaf is put to use where its cursors begin
  have grows := after_grows share (requests ++ later)
  rw [after_append] at grows
  rw [served] at grows more openedAt
  let t : Tree R := ⟨segment, leaf, (s.after later).state⟩
  have stands : t.Stands ⟨t.state.cursors, [], t.state.overflow⟩ none :=
    ⟨⟨fun _ _ _ => rfl, nofun, rfl⟩, grows.doc, grows.positioned⟩
  exact (openedAt.mono more.cursors).supports_iff unscored rfl stands calls

/-- Whatever a session was asked before, it gives out a leaf for a term, unless scores were registered
for the term. After all requests and calls to come, the leaf supports what was asked of it exactly
where the term does not occur or was opened for as much. -/
theorem term_supports_iff (segment : Segment) (defaultField : String) (history : List (Request R))
    (text field : String) {needed : Need} (unscored : needed ≠ .scores) :
    let fresh : Session R := ofSegment segment defaultField true
    let s := fresh.after history
    (∃ leaf s' n, run (term text field needed) s = (.ok leaf, s') ∧
      fresh.openedFor (text, field) (history ++ [.term text field needed]) = some n ∧
      ∀ later calls, ((⟨segment, leaf, (s'.after later).state⟩ : Tree R).after calls).Supports needed ↔
        segment.cursor text field n = .ok none ∨ needed ≤ n) ∨
    (s.registered.lookup (text, field) = some .scores ∧
      run (term text field needed) s = (.error (.cannotOpen field text Need.scores.text), s)) := by
  intro fresh s
  have share : s.share = true := (after_grows rfl history).share
  obtain ⟨leaf, _, ran⟩ | ⟨opened, ran⟩ | ⟨leaf, _, _, _, _, ran⟩ :=
    term_cases share text field needed
  · obtain ⟨n, opened, supports⟩ := supports_iff_of_given unscored ran
    exact .inl ⟨leaf, _, n, ran, opened, supports⟩
  · exact .inr ⟨s.setting.registered_of_opened unscored opened, ran⟩
  · obtain ⟨n, opened, supports⟩ := supports_iff_of_given unscored ran
    exact .inl ⟨leaf, _, n, ran, opened, supports⟩

/-- Positions that were registered before a query opened the term for documents. -/
theorem term_supports_iff_registered :
    let segment := Segment.ofDocuments 0 [⟨"d0", [("body", "a")]⟩]
    let leaf (needed : Need) : Query Float := .leaf (.term { text := "a", field := some "body", needed })
    let history : List (Request Float) := [.register (leaf .positions), .plan (leaf .docs)]
    ∃ p s, run (term "a" "body" .positions) ((ofSegment segment "body" true).after history)
        = (.ok p, s) ∧
      ∀ later calls,
        ((⟨segment, p, (s.after later).state⟩ : Tree Float).after calls).Supports .positions := by
  intro segment leaf history
  have indexed : segment = ⟨0, 1, [("body", ⟨#[1], [("a", [⟨0, [0]⟩])]⟩)]⟩ := by decide +kernel
  have unscored : Need.positions ≠ .scores := by decide
  have registered : (ofSegment segment "body" true).openedFor ("a", "body")
      (history ++ [.term "a" "body" .positions]) = some .positions := by
    rw [indexed]
    rfl
  obtain ⟨p, s, n, given, opened, supports⟩ | ⟨scores, _⟩ :=
    term_supports_iff segment "body" history "a" "body" unscored
  · cases registered.symm.trans opened
    exact ⟨p, s, given, fun later calls => (supports later calls).mpr (.inr (Need.le_refl _))⟩
  · rw [indexed] at scores
    cases scores

/-- A term that was opened for documents is handed out where counts are asked for, and refuses them.
-/
theorem term_opened_lower :
    let segment := Segment.ofDocuments 0 [⟨"d0", [("body", "a")]⟩]
    let history : List (Request Float) := [.term "a" "body" .docs]
    ∃ p s, run (term "a" "body" .counts) ((ofSegment segment "body" true).after history)
        = (.ok p, s) ∧
      (⟨segment, p, s.state⟩ : Tree Float).count.1 = .error (.openedTooLow "count" "body:a" "DOCS") ∧
      ¬(⟨segment, p, s.state⟩ : Tree Float).Supports .counts := by
  intro segment history
  have indexed : segment = ⟨0, 1, [("body", ⟨#[1], [("a", [⟨0, [0]⟩])]⟩)]⟩ := by decide +kernel
  rw [indexed]
  refine ⟨_, _, rfl, rfl, fun supports => ?_⟩
  obtain ⟨n, counted⟩ := supports.count (Need.le_refl _)
  cases counted

end Session

end Retrieval
