import Retrieval.Proofs.Evaluation.Freshness
import Retrieval.Scalar.Binary64

/-!
# Histories of calls

Whatever was asked of a tree before, it answers as a fresh tree that is put on the current document
and asked nothing else. `Tree.run` makes one call after the other on a tree; `Tree.history` has
every question answered by a fresh tree and only keeps track of the place. The two give the same
replies, also when the fresh tree shares its cursors and the other does not
(`Session.run_eq_history`).
-/

namespace Retrieval

namespace Tree

/-- A call on a tree. -/
inductive Call where
  | moveTo (doc : Nat)
  | matched
  | count
  | positions
  | score
  | explain
  deriving Repr, DecidableEq

/-- What a call gives back. -/
inductive Reply (R : Type) where
  | moved (result : Except Fault Unit)
  | matched (answer : Except Fault Bool)
  | count (answer : Except Fault Nat)
  | positions (answer : Except Fault (List Nat))
  | score (answer : Except Fault R)
  | explained (answer : Except Fault (Explanation R))

variable {R : Type} [Scalar R]

/-- Makes a call; a tree that cannot be moved stays as it is. -/
def call (t : Tree R) : Call → Reply R × Tree R
  | .moveTo doc =>
    match t.moveTo doc with
    | .ok t' => (.moved (.ok ()), t')
    | .error e => (.moved (.error e), t)
  | .matched => t.matched.map .matched id
  | .count => t.count.map .count id
  | .positions => t.positions.map .positions id
  | .score => t.score.map .score id
  | .explain => t.explain.map .explained id

/-- Makes calls one after the other. -/
def run (t : Tree R) : List Call → List (Reply R)
  | [] => []
  | c :: calls => (t.call c).1 :: run (t.call c).2 calls

/-- Where a tree is after a call; `none` before the first document is chosen. -/
def Call.next (place : Option Nat) : Call → Option Nat
  | .moveTo doc => if place.all (· ≤ doc) then some doc else place
  | _ => place

/-- What a fresh tree replies that is put on the current document first; it starts at document zero.
Only the order of documents depends on more than that. -/
def replyAt (fresh : Tree R) (place : Option Nat) : Call → Reply R
  | .moveTo doc =>
    .moved (if place.all (· ≤ doc) then .ok () else .error (.outOfOrder doc (place.getD 0)))
  | question =>
    match fresh.moveTo (place.getD 0) with
    | .ok t => (t.call question).1
    | .error e => .moved (.error e)

/-- The replies to calls, each question being put to the fresh tree. -/
def history (fresh : Tree R) (place : Option Nat) : List Call → List (Reply R)
  | [] => []
  | c :: calls => fresh.replyAt place c :: history fresh (c.next place) calls

/-- The tree after calls one after the other. -/
def after (t : Tree R) : List Call → Tree R
  | [] => t
  | c :: calls => after (t.call c).2 calls

/-- The place that calls lead to. -/
def placeAfter (place : Option Nat) (calls : List Call) : Option Nat :=
  calls.foldl (fun place c => c.next place) place

/-! ## One call -/

/-- What a meaning replies in a place. -/
def Call.meant (b : Answers R Reading) (place : Option Nat) : Call → Reply R
  | .moveTo doc =>
    .moved (if place.all (· ≤ doc) then .ok () else .error (.outOfOrder doc (place.getD 0)))
  | .matched => .matched (b.matched (place.getD 0))
  | .count => .count (b.count (place.getD 0))
  | .positions => .positions (b.positions (place.getD 0))
  | .score => .score (b.score (place.getD 0))
  | .explain => .explained (b.explain (place.getD 0))

/-- A call changes nothing of a tree but its state. -/
lemma call_same (t : Tree R) (c : Call) :
    (t.call c).2.root = t.root ∧ (t.call c).2.segment = t.segment := by
  cases c with
  | moveTo doc =>
    rw [call, moveTo]
    cases t.state.moveTo doc <;> exact ⟨rfl, rfl⟩
  | _ => exact ⟨rfl, rfl⟩

/-- Calls change nothing of a tree but its state. -/
lemma after_same (t : Tree R) (calls : List Call) :
    (t.after calls).root = t.root ∧ (t.after calls).segment = t.segment := by
  induction calls generalizing t with
  | nil => exact ⟨rfl, rfl⟩
  | cons c calls ih =>
    obtain ⟨root, segment⟩ := t.call_same c
    obtain ⟨root', segment'⟩ := ih (t.call c).2
    exact ⟨root'.trans root, segment'.trans segment⟩

/-- Calls leave the root of a tree as it is. -/
lemma after_root (t : Tree R) (calls : List Call) : (t.after calls).root = t.root :=
  (t.after_same calls).1

/-- Calls do not change how a tree answers. -/
lemma after_behaviour (t : Tree R) (calls : List Call) : (t.after calls).behaviour = t.behaviour := by
  obtain ⟨root, segment⟩ := t.after_same calls
  rw [behaviour, root, segment, behaviour]

namespace Stands

variable {o : Origin} {b : Answers R Reading} {place : Option Nat} {t : Tree R}

/-- A question is answered as the reading says, and leaves the tree standing where it was. -/
lemma ask {α : Type} {question : Behaviour R → Eval α} {reading : Reading α}
    (stands : t.Stands o place) (agree : Agrees o (question t.behaviour) reading) :
    (t.ask question).1 = reading (place.getD 0) ∧ (t.ask question).2.Stands o place := by
  obtain ⟨fits, doc, positioned⟩ := stands
  obtain ⟨answer, kept⟩ := agree t.state fits
  rw [doc] at answer
  exact ⟨answer, kept.fits, kept.doc.trans doc, kept.positioned.trans positioned⟩

/-- A tree can be moved to any document that is not before its own. -/
lemma moveTo_ok (stands : t.Stands o place) {doc : Nat} (le : place.all (· ≤ doc) = true) :
    ∃ t', t.moveTo doc = .ok t' ∧ t'.behaviour = t.behaviour ∧ t'.Stands o (some doc) := by
  obtain ⟨fits, here, positioned⟩ := stands
  have from_ : t.state.doc ≤ doc := by
    cases place with
    | none => simp [here]
    | some current => simpa [here] using le
  have order : ¬(t.state.positioned && doc < t.state.doc) = true := by
    rw [Bool.and_eq_true, decide_eq_true_eq]
    omega
  refine ⟨{ t with state := { t.state with doc, positioned := true } }, ?_, rfl, ?_, rfl, rfl⟩
  · rw [Tree.moveTo, EvalState.moveTo, if_neg order]
    rfl
  · exact ⟨fun slot target further => fits.ahead slot target (Nat.le_trans from_ further),
      fits.remembered, fits.overflow⟩

omit [Scalar R] in
/-- No tree can be moved back. -/
lemma moveTo_error (stands : t.Stands o place) {doc : Nat} (lt : ¬place.all (· ≤ doc) = true) :
    t.moveTo doc = .error (.outOfOrder doc (place.getD 0)) := by
  cases place with
  | none => exact absurd rfl lt
  | some current =>
    have here : t.state.doc = current := stands.doc
    have order : (t.state.positioned && doc < t.state.doc) = true := by
      rw [stands.positioned, here]
      simpa using lt
    rw [Tree.moveTo, EvalState.moveTo, if_pos order, here]
    rfl

/-- A call has the reply that the meaning gives, and leaves the tree where the call leads. -/
lemma call (stands : t.Stands o place) (agree : Answers.Agree o t.behaviour b) (c : Call) :
    (t.call c).1 = c.meant b place ∧ (t.call c).2.Stands o (c.next place) := by
  cases c with
  | moveTo doc =>
    rw [Tree.call, Call.meant, Call.next]
    by_cases le : place.all (· ≤ doc) = true
    · obtain ⟨t', moved, _, stands'⟩ := stands.moveTo_ok le
      rw [moved, if_pos le, if_pos le]
      exact ⟨rfl, stands'⟩
    · rw [stands.moveTo_error le, if_neg le, if_neg le]
      exact ⟨rfl, stands⟩
  | matched =>
    obtain ⟨answer, stands'⟩ := stands.ask agree.matched
    exact ⟨congrArg Reply.matched answer, stands'⟩
  | count =>
    obtain ⟨answer, stands'⟩ := stands.ask agree.count
    exact ⟨congrArg Reply.count answer, stands'⟩
  | positions =>
    obtain ⟨answer, stands'⟩ := stands.ask agree.positions
    exact ⟨congrArg Reply.positions answer, stands'⟩
  | score =>
    obtain ⟨answer, stands'⟩ := stands.ask agree.score
    exact ⟨congrArg Reply.score answer, stands'⟩
  | explain =>
    obtain ⟨answer, stands'⟩ := stands.ask agree.explain
    exact ⟨congrArg Reply.explained answer, stands'⟩

/-- Calls leave a tree where they lead. -/
lemma after (stands : t.Stands o place) (agree : Answers.Agree o t.behaviour b)
    (calls : List Call) : (t.after calls).Stands o (placeAfter place calls) := by
  induction calls generalizing t place with
  | nil => exact stands
  | cons c calls ih =>
    have same := t.after_behaviour [c]
    exact ih (stands.call agree c).2 (same ▸ agree)

end Stands

/-! ## Runs of calls -/

namespace Compiled

variable {σ : Setting} {o : Origin} {q : Query R} {place : Option Nat} {t : Tree R}

/-- Being compiled depends on nothing that a call changes. -/
lemma of_same {t' : Tree R} (compiled : t.Compiled σ o q) (root : t'.root = t.root)
    (segment : t'.segment = t.segment) : t'.Compiled σ o q :=
  ⟨segment.trans compiled.segment, compiled.overflow, root ▸ compiled.root,
    by rw [root, segment]; exact compiled.known, compiled.once⟩

/-- A tree stays compiled whatever is asked of it. -/
lemma call (compiled : t.Compiled σ o q) (c : Call) : (t.call c).2.Compiled σ o q :=
  compiled.of_same (t.call_same c).1 (t.call_same c).2

/-- Calls leave a tree compiled, and where they lead. -/
lemma after (compiled : t.Compiled σ o q) (stands : t.Stands o place) (calls : List Call) :
    (t.after calls).Compiled σ o q ∧ (t.after calls).Stands o (placeAfter place calls) := by
  obtain ⟨root, segment⟩ := t.after_same calls
  obtain ⟨b, _, agree⟩ := compiled.agree
  exact ⟨compiled.of_same root segment, stands.after agree calls⟩

/-- A fresh tree replies in any place as its query means. -/
lemma replyAt {b : Answers R Reading} (compiled : t.Compiled σ o q) (stands : t.Stands o none)
    (meant : σ.meaning q = .ok b) (place : Option Nat) (c : Call) :
    t.replyAt place c = c.meant b place := by
  obtain ⟨b', meant', agree⟩ := compiled.agree
  cases meant.symm.trans meant'
  have free : (none : Option Nat).all (· ≤ place.getD 0) = true := rfl
  obtain ⟨t', moved, same, stands'⟩ := stands.moveTo_ok free
  cases c with
  | moveTo doc => rfl
  | _ =>
    rw [Tree.replyAt, moved]
    · exact (stands'.call (same ▸ agree) _).1
    · exact nofun

/-- A tree replies to calls as any fresh tree does whose query means the same. -/
lemma run {σ' : Setting} {o' : Origin} {q' : Query R} {fresh : Tree R}
    (compiled' : fresh.Compiled σ' o' q') (stands' : fresh.Stands o' none)
    (same : σ.meaning q = σ'.meaning q') (compiled : t.Compiled σ o q) (stands : t.Stands o place)
    (calls : List Call) : t.run calls = fresh.history place calls := by
  induction calls generalizing t place with
  | nil => rfl
  | cons c calls ih =>
    obtain ⟨b, meant, agree⟩ := compiled.agree
    obtain ⟨reply, next⟩ := stands.call agree c
    rw [Tree.run, history, reply, ih (compiled.call c) next,
      compiled'.replyAt stands' (same ▸ meant)]

end Compiled

end Tree

namespace Session

variable {R : Type} [Scalar R]

/-- Whatever was asked of a compiled tree before, it answers in the current document as its query
means. -/
lemma exists_meaning {segment : Segment} {defaultField : String} {share : Bool} {q : Query R}
    {t : Tree R} (compiled : tree segment defaultField share q = .ok t) :
    ∃ (σ : Setting) (b : Answers R Reading), σ.segment = segment ∧ σ.defaultField = defaultField ∧
      σ.overflow = .never ∧ σ.meaning q = .ok b ∧ ∀ calls doc, Tree.placeAfter none calls = some doc →
        (t.after calls).matched.1 = b.matched doc ∧ (t.after calls).count.1 = b.count doc ∧
          (t.after calls).positions.1 = b.positions doc := by
  obtain ⟨known, o, t', _, tree_eq, compiled', stands⟩ | ⟨e, _, failed⟩ :=
    tree_compiled segment defaultField share q
  · cases compiled.symm.trans tree_eq
    obtain ⟨b, meant, _⟩ := compiled'.agree
    refine ⟨_, b, rfl, rfl, rfl, meant, fun calls doc here => ?_⟩
    obtain ⟨compiled', stands'⟩ := compiled'.after stands calls
    obtain ⟨b', meant', agree⟩ := compiled'.agree
    cases meant.symm.trans meant'
    rw [here] at stands'
    exact ⟨(stands'.ask agree.matched).1, (stands'.ask agree.count).1,
      (stands'.ask agree.positions).1⟩
  · cases compiled.symm.trans failed

/-- What a tree answers depends only on its query and on the current document, not on earlier calls
nor on whether cursors are shared. -/
theorem run_eq_history {segment : Segment} {defaultField : String} {share : Bool} {q : Query R}
    {t : Tree R} (compiled : tree segment defaultField share q = .ok t) :
    ∃ fresh, tree segment defaultField (!share) q = .ok fresh ∧
      ∀ calls, t.run calls = fresh.history none calls := by
  obtain ⟨σ, o, t', _, _, means, tree_eq, compiled', stands⟩ | ⟨e, _, failed⟩ :=
    tree_spec segment defaultField share q
  · cases compiled.symm.trans tree_eq
    obtain ⟨b, meant, _⟩ := compiled'.agree
    obtain ⟨σ', o', fresh, _, _, means', tree_eq', fresh_, stands'⟩ | ⟨e, failed, _⟩ :=
      tree_spec segment defaultField (!share) q
    · refine ⟨fresh, tree_eq', fun calls => ?_⟩
      exact Tree.Compiled.run fresh_ stands' (means.symm.trans means') compiled' stands calls
    · cases (failed.symm.trans means).trans meant
  · cases compiled.symm.trans failed

/-- A phrase and a term that share a cursor, asked in two documents and then for an earlier one. -/
theorem run_eq_history_phrase :
    let postings := [("red", [⟨0, [0]⟩, ⟨1, [1]⟩]), ("fox", [⟨0, [1]⟩])]
    let segment : Segment := ⟨0, 2, [("body", ⟨#[2, 2], postings⟩)]⟩
    let leaf (text : String) : Query Float :=
      .leaf (.term { text, field := some "body", needed := .positions })
    let q : Query Float := .and [leaf "red", .join (.orderedWindow 1) [leaf "red", leaf "fox"]]
    let calls : List Tree.Call :=
      [.matched, .moveTo 0, .score, .moveTo 1, .matched, .moveTo 0, .explain]
    ∃ t fresh, tree segment "body" true q = .ok t ∧ tree segment "body" false q = .ok fresh ∧
      t.run calls = fresh.history none calls := by
  intro postings segment leaf q calls
  have compiles : (tree segment "body" true q).isOk = true := by rfl
  cases compiled : tree segment "body" true q with
  | error e => simp [compiled, Except.isOk, Except.toBool] at compiles
  | ok t =>
    obtain ⟨fresh, compiled', same⟩ := run_eq_history compiled
    exact ⟨t, fresh, rfl, compiled', same calls⟩

end Session

end Retrieval
