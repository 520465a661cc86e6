import Retrieval.Proofs.Candidates.Enumeration
import Retrieval.Proofs.Candidates.Scan
import Mathlib.Data.Set.Card

/-!
# Scans as iterators

A walk enumerates a set of documents if it always goes to the first of them that is neither before
its target nor before the document that it is on. A scan over such a walk goes through the documents
of the set that match its query, whichever calls are mixed: each goes to the first one that is not
before its own bound, and what lies in between is rejected once and for all
(`Scan.run_intersection`).
-/

namespace Retrieval

/-! ## First documents -/

namespace IsFirst

variable {S : Set Nat} {low low' doc doc' : Nat}

/-- There is but one first document. -/
lemma unique (first : IsFirst S low doc) (first' : IsFirst S low doc') : doc = doc' := by
  rcases first with least | ⟨used, none⟩
  · rcases first' with least' | ⟨used', none'⟩
    · exact least.unique least'
    · exact absurd least.1.2 (none' doc least.1.1).not_ge
  · rcases first' with least' | ⟨used', none'⟩
    · exact absurd least'.1.2 (none doc' least'.1.1).not_ge
    · exact used.trans used'.symm

/-- Bounds that leave the same documents have the same first document. -/
lemma of_bound (first : IsFirst S low doc) (same : ∀ d ∈ S, low ≤ d ↔ low' ≤ d) :
    IsFirst S low' doc := by
  rcases first with ⟨⟨mem, le⟩, least⟩ | ⟨used, none⟩
  · refine .inl ⟨⟨mem, (same doc mem).mp le⟩, fun d ⟨mem', le'⟩ => ?_⟩
    exact least ⟨mem', (same d mem').mpr le'⟩
  · refine .inr ⟨used, fun d mem => Nat.lt_of_not_le fun le => ?_⟩
    exact absurd ((same d mem).mpr le) (none d mem).not_ge

/-- The first document is in the set, unless it is the end. -/
lemma mem (first : IsFirst S low doc) (other : doc ≠ noMoreDocs) : doc ∈ S ∧ low ≤ doc :=
  first.elim And.left fun ended => absurd ended.1 other

/-- The documents before the first one lie before the bound. -/
lemma lt_of_lt (first : IsFirst S low doc) {d : Nat} (among : d ∈ S) (before : d < doc) :
    d < low := by
  rcases first with ⟨_, least⟩ | ⟨_, none⟩
  · exact Nat.lt_of_not_le fun le => absurd (least ⟨among, le⟩) before.not_ge
  · exact none d among

lemma le_noMoreDocs (real : ∀ d ∈ S, d < noMoreDocs) (first : IsFirst S low doc) :
    doc ≤ noMoreDocs := by
  rcases first with ⟨⟨among, _⟩, _⟩ | ⟨used, _⟩
  · exact (real doc among).le
  · exact used.le

end IsFirst

namespace Walk

/-- The walk is fresh and goes through the documents of `S`, whichever targets it is taken to. -/
structure Enumerates (S : Set Nat) (w : Walk) : Prop where
  real : ∀ d ∈ S, d < noMoreDocs
  first : IsFirst S 0 w.doc
  next : ∀ (targets : List Nat) (target : Nat),
    IsFirst S (max target (w.after targets).doc) ((w.after targets).next target).doc

lemma Enumerates.doc_le {S : Set Nat} {w : Walk} (enumerates : w.Enumerates S)
    (targets : List Nat) : (w.after targets).doc ≤ noMoreDocs := by
  cases targets using List.reverseRecOn with
  | nil => exact enumerates.first.le_noMoreDocs enumerates.real
  | append_singleton targets target =>
    rw [after, List.foldl_append]
    exact (enumerates.next targets target).le_noMoreDocs enumerates.real

/-- A sound walk goes through what it offers. -/
lemma Sound.enumerates {w : Walk} (sound : w.Sound) : w.Enumerates {d | w.Offers d} where
  real _ offers := (sound.bounds offers).2
  first := sound.isFirst fun d => (and_iff_left (Nat.zero_le d)).symm
  next targets target := by
    obtain ⟨sound', offers⟩ := sound.after targets
    refine (sound'.next target).isFirst fun d => ?_
    rw [sound'.offers_next, offers, Nat.max_le, Set.mem_ofPred_eq]
    exact ⟨fun ⟨le, le', o⟩ => ⟨o, le, le'⟩, fun ⟨o, le, le'⟩ => ⟨le, le', o⟩⟩

end Walk

namespace Scan

variable {R : Type} [Scalar R]

/-! ## Calls -/

/-- A call on a scan. -/
inductive Call where
  | advance (target : Nat)
  | next
  deriving Repr, DecidableEq

/-- Where a call begins to look, given the document returned last. -/
def Call.low (last : Option Nat) : Call → Nat
  | .advance target => max target (last.getD 0)
  | .next => last.elim 0 (· + 1)

def call (s : Scan R) : Call → Except Fault Nat × Scan R
  | .advance target => s.advance target
  | .next => s.next

/-- What calls return one after the other. -/
def run (s : Scan R) : List Call → List (Except Fault Nat)
  | [] => []
  | c :: calls => (s.call c).1 :: run (s.call c).2 calls

/-- The scan after calls one after the other. -/
def after (s : Scan R) : List Call → Scan R
  | [] => s
  | c :: calls => after (s.call c).2 calls

/-! ## One call -/

/-- The candidates that are rejected between a bound and the document that is found. -/
def rejects (S : Set Nat) (hit : Nat → Bool) (low doc : Nat) : Set Nat :=
  {d | d ∈ S ∧ hit d = false ∧ low ≤ d ∧ d < doc}

/-- The documents of the set that the query matches. -/
def accepts (S : Set Nat) (hit : Nat → Bool) : Set Nat := {d | d ∈ S ∧ hit d = true}

section Rejects

variable {S : Set Nat} {hit : Nat → Bool} {low mid doc : Nat}

lemma rejects_finite (S : Set Nat) (hit : Nat → Bool) (low doc : Nat) :
    (rejects S hit low doc).Finite :=
  (Set.finite_lt_nat doc).subset fun _ mem => mem.2.2.2

/-- What is rejected on two ways, one behind the other, is rejected on the whole way. -/
lemma ncard_rejects_add (S : Set Nat) (hit : Nat → Bool) (le : low ≤ mid) (le' : mid ≤ doc) :
    (rejects S hit low mid).ncard + (rejects S hit mid doc).ncard =
      (rejects S hit low doc).ncard := by
  have parts : rejects S hit low mid ∪ rejects S hit mid doc = rejects S hit low doc := by
    ext d
    simp only [rejects, Set.mem_union, Set.mem_ofPred_eq, ← and_or_left]
    refine and_congr_right fun _ => and_congr_right fun _ => ?_
    omega
  have apart : Disjoint (rejects S hit low mid) (rejects S hit mid doc) :=
    Set.disjoint_left.mpr fun d mem mem' => absurd mem.2.2.2 mem'.2.2.1.not_gt
  rw [← parts, Set.ncard_union_eq apart (rejects_finite _ _ _ _) (rejects_finite _ _ _ _)]

/-- Nothing is rejected where there are no candidates. -/
lemma ncard_rejects_eq_zero (none : ∀ d ∈ S, hit d = false → low ≤ d → doc ≤ d) :
    (rejects S hit low doc).ncard = 0 := by
  rw [Set.ncard_eq_zero (rejects_finite _ _ _ _)]
  apply Set.eq_empty_of_forall_notMem
  intro d ⟨mem, no, from_, before⟩
  exact absurd (none d mem no from_) before.not_ge

end Rejects

/-- The scan goes along a walk, with its tree not beyond the walk. -/
structure Underway (w : Walk) (o : Origin) (b : Answers R Reading) (s : Scan R) : Prop where
  walk : ∃ targets, s.walk = w.after targets
  tree : ∃ place, s.tree.Follows o b place ∧ place.all (· ≤ s.walk.doc) = true

/-- The scan has come from `s` to the first document from `low` on that walk and query have. -/
structure Reached (S : Set Nat) (hit : Nat → Bool) (w : Walk) (o : Origin) (b : Answers R Reading)
    (low : Nat) (s : Scan R) (doc : Nat) (s' : Scan R) : Prop where
  underway : s'.Underway w o b
  current : s'.current = some doc
  on : s'.walk.doc = doc
  first : IsFirst (accepts S hit) low doc
  placed : doc ≠ noMoreDocs → s'.tree.Follows o b (some doc)
  rejected : s'.rejected = s.rejected + (rejects S hit low doc).ncard

section Calls

variable {S : Set Nat} {hit : Nat → Bool} {w : Walk} {o : Origin} {b : Answers R Reading}
  {s s' : Scan R} {low target doc : Nat}

/-- Behind a candidate that the query does not match, the way goes on as before. -/
lemma Reached.pass {candidate : Nat} {t : Scan R} (mem : candidate ∈ S)
    (no : hit candidate = false) (le : low ≤ candidate)
    (alone : ∀ d ∈ S, low ≤ d → candidate ≤ d) (counted : t.rejected = s.rejected + 1)
    (real : ∀ d ∈ S, d < noMoreDocs)
    (reached : Reached S hit w o b (candidate + 1) t doc s') :
    Reached S hit w o b low s doc s' := by
  have beyond : candidate + 1 ≤ doc := by
    rcases reached.first with ⟨⟨_, le'⟩, _⟩ | ⟨used, _⟩
    · exact le'
    · exact used ▸ real candidate mem
  have one : (rejects S hit low (candidate + 1)).ncard = 1 := by
    rw [Set.ncard_eq_one]
    refine ⟨candidate, Set.eq_singleton_iff_unique_mem.mpr ⟨⟨mem, no, le, by omega⟩, ?_⟩⟩
    intro d ⟨mem', _, from_, before⟩
    have := alone d mem' from_
    omega
  refine { reached with first := ?_, rejected := ?_ }
  · apply reached.first.of_bound
    intro d ⟨mem', yes⟩
    have other : d ≠ candidate := by
      rintro rfl
      cases no.symm.trans yes
    constructor
    · omega
    · intro from_
      have := alone d mem' from_
      omega
  · have parts := ncard_rejects_add S hit (le.trans (Nat.le_succ candidate)) beyond
    rw [reached.rejected, counted, ← parts, one, Nat.add_assoc]

/-- Where the walk of a scan is taken to. -/
lemma Underway.first (underway : s.Underway w o b) (enumerates : w.Enumerates S) (target : Nat) :
    IsFirst S (max target s.walk.doc) (s.walk.next target).doc := by
  obtain ⟨targets, walked⟩ := underway.walk
  rw [walked]
  exact enumerates.next targets target

/-- The walk of a scan is never taken back, so its tree may follow. -/
lemma Underway.reachable (underway : s.Underway w o b) (enumerates : w.Enumerates S)
    (target : Nat) :
    ∃ place, s.tree.Follows o b place ∧ place.all (· ≤ (s.walk.next target).doc) = true := by
  obtain ⟨place, follows, behind⟩ := underway.tree
  refine ⟨place, follows, ?_⟩
  cases place with
  | none => rfl
  | some p =>
    have behind : p ≤ s.walk.doc := of_decide_eq_true behind
    apply decide_eq_true
    rcases underway.first enumerates target with ⟨⟨_, le⟩, _⟩ | ⟨used, _⟩
    · omega
    · obtain ⟨targets, walked⟩ := underway.walk
      rw [used]
      exact behind.trans (walked ▸ enumerates.doc_le targets)

/-- A scan stays underway when its walk is taken to a target and its tree no further. -/
lemma Underway.moved (underway : s.Underway w o b) {place : Option Nat} {tree : Tree R}
    (follows : tree.Follows o b place) (le : place.all (· ≤ (s.walk.next target).doc) = true)
    (current : Option Nat) (rejected : Nat) :
    Underway w o b ⟨s.walk.next target, tree, current, rejected⟩ := by
  obtain ⟨targets, walked⟩ := underway.walk
  refine ⟨⟨targets ++ [target], ?_⟩, place, follows, le⟩
  rw [walked, Walk.after, Walk.after, List.foldl_append]
  rfl

/-- The tree can be moved to the document that the walk is taken to, and judges it. -/
lemma Underway.confirm (underway : s.Underway w o b) (enumerates : w.Enumerates S)
    (judged : ∀ d ∈ S, b.matched d = .ok (hit d)) (more : (s.walk.next target).doc < noMoreDocs) :
    ∃ tree, s.tree.moveTo (s.walk.next target).doc = .ok tree ∧
      tree.matched.1 = .ok (hit (s.walk.next target).doc) ∧
      tree.matched.2.Follows o b (some (s.walk.next target).doc) := by
  obtain ⟨mem, le⟩ := (underway.first enumerates target).mem more.ne
  obtain ⟨place, follows, reachable⟩ := underway.reachable enumerates target
  obtain ⟨tree, moved, follows⟩ := follows.moveTo reachable
  obtain ⟨answer, follows⟩ := follows.ask follows.agree.matched
  exact ⟨tree, moved, answer.trans (judged _ mem), follows⟩

/-- A scan advances to the first document that walk and query have, neither before the target nor
before the walk. -/
theorem Underway.advance (enumerates : w.Enumerates S)
    (judged : ∀ d ∈ S, b.matched d = .ok (hit d)) (underway : s.Underway w o b) :
    ∃ doc s', s.advance target = (.ok doc, s') ∧
      Reached S hit w o b (max target s.walk.doc) s doc s' := by
  induction target, s using Scan.advance.induct with
  -- nothing is left
  | case1 target s s₁ doc last =>
    have first := underway.first enumerates target
    have ended : (s.walk.next target).doc = noMoreDocs := by
      apply Nat.le_antisymm (first.le_noMoreDocs enumerates.real)
      rcases first with ⟨⟨mem, le⟩, _⟩ | ⟨used, _⟩
      · have := enumerates.real _ mem
        have : noMoreDocs ≤ (s.walk.next target).doc ∨ noMoreDocs ≤ target := last
        omega
      · exact used.ge
    obtain ⟨place, follows, reachable⟩ := underway.reachable enumerates target
    rw [ended] at first
    have none : ∀ d ∈ S, d < max target s.walk.doc := fun d mem =>
      first.lt_of_lt mem (enumerates.real d mem)
    rw [Scan.advance, if_pos last]
    refine ⟨noMoreDocs, _, rfl, underway.moved follows reachable _ _, rfl, ended,
      .inr ⟨rfl, fun d mem => none d mem.1⟩, fun other => absurd rfl other, ?_⟩
    rw [ncard_rejects_eq_zero fun d mem _ from_ => absurd (none d mem) from_.not_gt, Nat.add_zero]
  -- neither moving nor asking the tree can fail
  | case2 target s s₁ doc more e failed =>
    obtain ⟨tree, moved, _⟩ :=
      underway.confirm enumerates judged (Nat.lt_of_not_le fun le => more (.inl le))
    cases failed.symm.trans moved
  | case3 target s s₁ doc more tree moved e tree' failed =>
    obtain ⟨_, moved', answer, _⟩ :=
      underway.confirm enumerates judged (Nat.lt_of_not_le fun le => more (.inl le))
    cases moved.symm.trans moved'
    rw [failed] at answer
    cases answer
  -- the query matches the candidate
  | case4 target s s₁ doc more tree moved tree' yes =>
    have real := Nat.lt_of_not_le fun le => more (.inl le)
    have first := underway.first enumerates target
    obtain ⟨mem, le⟩ := first.mem real.ne
    obtain ⟨_, moved', answer, follows⟩ := underway.confirm enumerates judged real
    cases moved.symm.trans moved'
    rw [yes] at answer follows
    have here : hit (s.walk.next target).doc = true := (Except.ok.inj answer).symm
    have alone : ∀ d ∈ S, max target s.walk.doc ≤ d → (s.walk.next target).doc ≤ d :=
      fun d mem' le' => Nat.le_of_not_lt fun before => (first.lt_of_lt mem' before).not_ge le'
    rw [Scan.advance, if_neg more, moved]
    dsimp only
    rw [yes]
    refine ⟨_, _, rfl, underway.moved follows (decide_eq_true (Nat.le_refl _)) _ _, rfl, rfl,
      .inl ⟨⟨⟨mem, here⟩, le⟩, fun d among => alone d among.1.1 among.2⟩, fun _ => follows, ?_⟩
    rw [ncard_rejects_eq_zero fun d mem' _ le' => alone d mem' le', Nat.add_zero]
  -- the query does not match the candidate, and the scan goes on behind it
  | case5 target s s₁ doc more tree moved tree' no ih =>
    have real := Nat.lt_of_not_le fun le => more (.inl le)
    have first := underway.first enumerates target
    obtain ⟨mem, le⟩ := first.mem real.ne
    obtain ⟨_, moved', answer, follows⟩ := underway.confirm enumerates judged real
    cases moved.symm.trans moved'
    rw [no] at answer follows
    have alone : ∀ d ∈ S, max target s.walk.doc ≤ d → (s.walk.next target).doc ≤ d :=
      fun d mem' le' => Nat.le_of_not_lt fun before => (first.lt_of_lt mem' before).not_ge le'
    have goesOn :=
      underway.moved follows (decide_eq_true (Nat.le_refl _)) s.current (s.rejected + 1)
    obtain ⟨found, s', advanced, reached⟩ := ih goesOn
    have low : max (max target doc + 1) doc = doc + 1 := by
      have : max target s.walk.doc ≤ doc := le
      omega
    rw [Scan.advance, if_neg more, moved]
    dsimp only
    rw [no]
    refine ⟨found, s', advanced, ?_⟩
    have reached : Reached S hit w o b (max (max target doc + 1) doc) _ found s' := reached
    rw [low] at reached
    exact reached.pass mem (Except.ok.inj answer).symm le alone rfl enumerates.real

/-- The scan has returned `last` last, if anything: its walk stands there, or has not left its first
document. No candidate was rejected twice. -/
structure Visiting (S : Set Nat) (hit : Nat → Bool) (w : Walk) (o : Origin) (b : Answers R Reading)
    (last : Option Nat) (s : Scan R) : Prop where
  underway : s.Underway w o b
  current : s.current = last
  on : ∀ doc, last = some doc → s.walk.doc = doc
  ahead : last = none → ∀ d ∈ S, s.walk.doc ≤ d
  once : s.rejected ≤ (rejects S hit 0 (last.getD 0)).ncard

/-- Where nothing was returned yet, candidates are ahead of any bound just when they are ahead of
the walk too. -/
lemma Visiting.max_le {last : Option Nat} (visiting : s.Visiting S hit w o b last) {d : Nat}
    (mem : d ∈ S) (target : Nat) : max target s.walk.doc ≤ d ↔ max target (last.getD 0) ≤ d := by
  cases last with
  | none =>
    have := visiting.ahead rfl d mem
    rw [Option.getD_none]
    omega
  | some doc => rw [visiting.on doc rfl, Option.getD_some]

lemma Reached.of_bound (reached : Reached S hit w o b low s doc s')
    (same : ∀ d ∈ S, low ≤ d ↔ target ≤ d) : Reached S hit w o b target s doc s' := by
  refine { reached with first := ?_, rejected := ?_ }
  · exact reached.first.of_bound fun d mem => same d mem.1
  · have : rejects S hit target doc = rejects S hit low doc := by
      ext d
      exact and_congr_right fun mem => by rw [same d mem]
    rw [this]
    exact reached.rejected

/-- Each call goes to the first document behind its bound that walk and query have. -/
theorem Visiting.call (enumerates : w.Enumerates S) (judged : ∀ d ∈ S, b.matched d = .ok (hit d))
    {last : Option Nat} (visiting : s.Visiting S hit w o b last) (c : Call) :
    ∃ doc s', s.call c = (.ok doc, s') ∧ Reached S hit w o b (c.low last) s doc s' := by
  have advance (target : Nat) : ∃ doc s', s.advance target = (.ok doc, s') ∧
      Reached S hit w o b (max target (last.getD 0)) s doc s' := by
    obtain ⟨doc, s', advanced, reached⟩ := visiting.underway.advance enumerates judged
    exact ⟨doc, s', advanced, reached.of_bound fun d mem => visiting.max_le mem target⟩
  cases c with
  | advance target => exact advance target
  | next =>
    rw [Scan.call, Scan.next, visiting.current]
    cases last with
    | none => exact advance 0
    | some doc =>
      dsimp only
      split
      · next ended =>
        subst ended
        have none : ∀ d ∈ S, d < noMoreDocs + 1 := fun d mem =>
          Nat.lt_succ_of_lt (enumerates.real d mem)
        refine ⟨noMoreDocs, s, rfl, visiting.underway, visiting.current, visiting.on _ rfl,
          .inr ⟨rfl, fun d mem => none d mem.1⟩, fun other => absurd rfl other, ?_⟩
        change s.rejected = s.rejected + (rejects S hit (noMoreDocs + 1) noMoreDocs).ncard
        rw [ncard_rejects_eq_zero fun d mem _ from_ => absurd (none d mem) from_.not_gt,
          Nat.add_zero]
      · obtain ⟨doc', s', advanced, reached⟩ := advance (doc + 1)
        rw [Option.getD_some, Nat.max_eq_left (Nat.le_succ doc)] at reached
        exact ⟨doc', s', advanced, reached⟩

/-! ## Calls one after the other -/

lemma low_ge (last : Option Nat) (c : Call) : last.getD 0 ≤ c.low last := by
  cases c with
  | advance target => exact Nat.le_max_right _ _
  | next => cases last <;> simp [Call.low]

/-- A call leaves a scan where it has returned a document. -/
lemma Visiting.reached (enumerates : w.Enumerates S) {last : Option Nat} {c : Call}
    (visiting : s.Visiting S hit w o b last) (reached : Reached S hit w o b (c.low last) s doc s') :
    s'.Visiting S hit w o b (some doc) where
  underway := reached.underway
  current := reached.current
  on _ same := Option.some.inj same ▸ reached.on
  ahead := nofun
  once := by
    have low := low_ge last c
    have le : last.getD 0 ≤ doc := by
      rcases reached.first with ⟨⟨_, le⟩, _⟩ | ⟨used, _⟩
      · exact low.trans le
      · cases last with
        | none => exact Nat.zero_le _
        | some last =>
          obtain ⟨targets, walked⟩ := visiting.underway.walk
          have := enumerates.doc_le targets
          rw [← walked, visiting.on last rfl] at this
          exact used ▸ this
    have fewer : (rejects S hit (c.low last) doc).ncard ≤ (rejects S hit (last.getD 0) doc).ncard :=
      Set.ncard_le_ncard (fun d mem => ⟨mem.1, mem.2.1, low.trans mem.2.2.1, mem.2.2.2⟩)
        (rejects_finite _ _ _ _)
    have whole := ncard_rejects_add S hit (Nat.zero_le _) le
    have once := visiting.once
    rw [reached.rejected, Option.getD_some]
    omega

/-- All calls return documents, and the scan stands where the last one has led. -/
theorem Visiting.run (enumerates : w.Enumerates S) (judged : ∀ d ∈ S, b.matched d = .ok (hit d))
    {last : Option Nat} (visiting : s.Visiting S hit w o b last) (calls : List Call) :
    ∃ docs : List Nat, s.run calls = docs.map .ok ∧
      (s.after calls).Visiting S hit w o b (docs.getLast?.or last) := by
  induction calls generalizing s last with
  | nil => exact ⟨[], rfl, visiting⟩
  | cons c calls ih =>
    obtain ⟨doc, s', called, reached⟩ := visiting.call enumerates judged c
    obtain ⟨docs, ran, visiting'⟩ := ih (visiting.reached enumerates reached)
    refine ⟨doc :: docs, ?_, ?_⟩
    · rw [Scan.run, called, ran, List.map_cons]
    · rw [Scan.after, called, List.getLast?_cons]
      cases last' : docs.getLast? <;> rw [last'] at visiting' <;> exact visiting'

/-- Once the end was returned, it is returned for good. -/
lemma Visiting.ended (enumerates : w.Enumerates S) (judged : ∀ d ∈ S, b.matched d = .ok (hit d))
    (visiting : s.Visiting S hit w o b (some noMoreDocs)) (calls : List Call) :
    s.run calls = List.replicate calls.length (.ok noMoreDocs) := by
  induction calls generalizing s with
  | nil => rfl
  | cons c calls ih =>
    obtain ⟨doc, s', called, reached⟩ := visiting.call enumerates judged c
    have ended : doc = noMoreDocs := by
      rcases reached.first with ⟨⟨mem, le⟩, _⟩ | ⟨used, _⟩
      · have := enumerates.real doc mem.1
        have : noMoreDocs ≤ c.low (some noMoreDocs) := low_ge (some noMoreDocs) c
        omega
      · exact used
    subst ended
    rw [Scan.run, called, ih (visiting.reached enumerates reached), List.length_cons,
      List.replicate_succ]

/-- Calls of `next` go through all documents that are left, and reject all others. -/
theorem Visiting.drain (enumerates : w.Enumerates S) (judged : ∀ d ∈ S, b.matched d = .ok (hit d))
    {last : Option Nat} (visiting : s.Visiting S hit w o b last) {ms : List Nat}
    (rise : ms.Pairwise (· < ·))
    (left : ∀ d, d ∈ ms ↔ d ∈ accepts S hit ∧ Call.next.low last ≤ d) :
    let calls := List.replicate (ms.length + 1) Call.next
    s.run calls = ms.map .ok ++ [.ok noMoreDocs] ∧
      (s.after calls).rejected =
        s.rejected + (rejects S hit (Call.next.low last) noMoreDocs).ncard := by
  induction ms generalizing s last with
  | nil =>
    intro calls
    obtain ⟨doc, s', called, reached⟩ := visiting.call enumerates judged .next
    have ended : doc = noMoreDocs := by
      rcases reached.first with ⟨mem, _⟩ | ⟨used, _⟩
      · cases (left doc).mpr mem
      · exact used
    subst ended
    simp only [calls, List.length_nil, List.replicate_succ, List.replicate_zero, Scan.run,
      Scan.after, called, reached.rejected, List.map_nil, List.nil_append, and_self]
  | cons m ms ih =>
    intro calls
    obtain ⟨doc, s', called, reached⟩ := visiting.call enumerates judged .next
    obtain ⟨first, rest⟩ := List.pairwise_cons.mp rise
    obtain ⟨here, from_⟩ := (left m).mp List.mem_cons_self
    have among : IsFirst (accepts S hit) (Call.next.low last) m := by
      refine .inl ⟨⟨here, from_⟩, fun d mem => ?_⟩
      cases (left d).mpr mem with
      | head => exact Nat.le_refl _
      | tail _ mem => exact (first d mem).le
    obtain rfl : doc = m := reached.first.unique among
    have left' : ∀ d, d ∈ ms ↔ d ∈ accepts S hit ∧ Call.next.low (some doc) ≤ d := by
      intro d
      constructor
      · intro mem
        exact ⟨((left d).mp (List.mem_cons_of_mem doc mem)).1, first d mem⟩
      · rintro ⟨mem, beyond⟩
        have beyond : doc < d := beyond
        exact (List.mem_cons.mp ((left d).mpr ⟨mem, by omega⟩)).resolve_left beyond.ne'
    obtain ⟨ran, rejected⟩ := ih (visiting.reached enumerates reached) rest left'
    have real := enumerates.real doc here.1
    have parts : (rejects S hit (Call.next.low last) doc).ncard +
        (rejects S hit (doc + 1) noMoreDocs).ncard =
          (rejects S hit (Call.next.low last) noMoreDocs).ncard := by
      have self : (rejects S hit doc (doc + 1)).ncard = 0 := by
        apply ncard_rejects_eq_zero
        intro d mem no le
        have other : d ≠ doc := by
          rintro rfl
          cases no.symm.trans here.2
        omega
      rw [← ncard_rejects_add S hit from_ real.le, ← ncard_rejects_add S hit (Nat.le_succ doc) real,
        self, Nat.zero_add]
    simp only [calls, List.length_cons, List.replicate_succ, Scan.run, Scan.after, called]
    rw [List.replicate_succ] at ran rejected
    refine ⟨congrArg _ ran, rejected.trans ?_⟩
    rw [reached.rejected, Nat.add_assoc]
    exact congrArg _ parts

end Calls

/-! ## Fresh scans -/

/-- The documents of a set that ends before the end, in rising order. -/
lemma exists_rising {A : Set Nat} (real : ∀ d ∈ A, d < noMoreDocs) :
    ∃ ms : List Nat, ms.Pairwise (· < ·) ∧ ∀ d, d ∈ ms ↔ d ∈ A := by
  classical
  refine ⟨hitsFrom (fun d => decide (d ∈ A)) noMoreDocs 0, hitsFrom_pairwise _ _ _, fun d => ?_⟩
  rw [mem_hitsFrom, decide_eq_true_iff]
  exact and_iff_right_of_imp fun mem => ⟨Nat.zero_le d, real d mem⟩

/-- From the beginning to the end, all candidates are rejected that the query does not match. -/
lemma rejects_all {S : Set Nat} {hit : Nat → Bool} (real : ∀ d ∈ S, d < noMoreDocs) :
    rejects S hit 0 noMoreDocs = {d | d ∈ S ∧ hit d = false} := by
  ext d
  refine and_congr_right fun mem => and_iff_left ?_
  exact ⟨Nat.zero_le d, real d mem⟩

/-- A scan that nothing was asked of has returned nothing. -/
lemma visiting_fresh {S : Set Nat} {hit : Nat → Bool} {w : Walk} {o : Origin}
    {b : Answers R Reading} {tree : Tree R} (enumerates : w.Enumerates S)
    (follows : tree.Follows o b none) : Visiting S hit w o b none { walk := w, tree } := by
  refine ⟨⟨⟨[], rfl⟩, none, follows, rfl⟩, rfl, nofun, fun _ d mem => ?_, Nat.zero_le _⟩
  exact Nat.le_of_not_lt fun before =>
    absurd (enumerates.first.lt_of_lt mem before) (Nat.not_lt_zero d)

/-- Where a fresh tree that is put on a document judges it, so does the meaning of its query. -/
lemma judged_of_fresh {o : Origin} {b : Answers R Reading} {tree : Tree R} {d : Nat} {hit : Bool}
    (follows : tree.Follows o b none)
    (judged : ∃ t, tree.moveTo d = .ok t ∧ t.matched.1 = .ok hit) : b.matched d = .ok hit := by
  obtain ⟨t, moved, yes⟩ := judged
  have free : (none : Option Nat).all (· ≤ d) = true := rfl
  obtain ⟨_, moved', follows'⟩ := follows.moveTo free
  cases moved.symm.trans moved'
  exact (follows'.ask follows'.agree.matched).1.symm.trans yes

/-- A scan over a walk through `S` and a fresh tree that judges every document of `S` finds what
both have. Each call returns the first such document that is neither before its target nor before
the document returned last, or behind that one for `next`, and leaves the tree on it. No call fails,
no candidate is rejected twice, and the end is returned for good. Calls of `next` alone return all
documents that both have in rising order and reject all others. -/
theorem run_intersection {S : Set Nat} {w : Walk} {segment : Segment} {defaultField : String}
    {share : Bool} {q : Query R} {tree : Tree R} {hit : Nat → Bool} (enumerates : w.Enumerates S)
    (compiled : Session.tree segment defaultField share q = .ok tree)
    (judged : ∀ d ∈ S, ∃ t, tree.moveTo d = .ok t ∧ t.matched.1 = .ok (hit d)) :
    let fresh : Scan R := { walk := w, tree }
    (∀ calls c, ∃ (docs : List Nat) (doc : Nat) (s : Scan R),
      fresh.run calls = docs.map .ok ∧ (fresh.after calls).call c = (.ok doc, s) ∧
        IsFirst (accepts S hit) (c.low docs.getLast?) doc ∧
        (doc ≠ noMoreDocs → s.tree.state.doc = doc ∧ s.tree.state.positioned = true) ∧
        s.rejected =
          (fresh.after calls).rejected + (rejects S hit (c.low docs.getLast?) doc).ncard ∧
        s.rejected ≤ (rejects S hit 0 doc).ncard) ∧
    (∀ calls later, (fresh.run calls).getLast? = some (.ok noMoreDocs) →
      (fresh.after calls).run later = List.replicate later.length (.ok noMoreDocs)) ∧
    ∃ ms : List Nat, ms.Pairwise (· < ·) ∧ (∀ d, d ∈ ms ↔ d ∈ S ∧ hit d = true) ∧
      fresh.run (List.replicate (ms.length + 1) .next) = ms.map .ok ++ [.ok noMoreDocs] ∧
      (fresh.after (List.replicate (ms.length + 1) .next)).rejected =
        {d | d ∈ S ∧ hit d = false}.ncard := by
  intro fresh
  obtain ⟨σ, o, t, rfl, _, _, tree_eq, compiled', stands⟩ | ⟨e, _, failed⟩ :=
    Session.tree_spec segment defaultField share q
  · cases compiled.symm.trans tree_eq
    obtain ⟨b, _, agree⟩ := compiled'.agree
    have follows : tree.Follows o b none := ⟨agree, stands⟩
    have judged : ∀ d ∈ S, b.matched d = .ok (hit d) := fun d mem =>
      judged_of_fresh follows (judged d mem)
    have visiting : fresh.Visiting S hit w o b none := visiting_fresh enumerates follows
    refine ⟨fun calls c => ?_, fun calls later last => ?_, ?_⟩
    · obtain ⟨docs, ran, visiting⟩ := visiting.run enumerates judged calls
      rw [Option.or_none] at visiting
      obtain ⟨doc, s, called, reached⟩ := visiting.call enumerates judged c
      have placed (real : doc ≠ noMoreDocs) := (reached.placed real).stands
      exact ⟨docs, doc, s, ran, called, reached.first,
        fun real => ⟨(placed real).doc, (placed real).positioned⟩, reached.rejected,
        (visiting.reached enumerates reached).once⟩
    · obtain ⟨docs, ran, visiting⟩ := visiting.run enumerates judged calls
      rw [ran, List.getLast?_map, Option.map_eq_some_iff] at last
      obtain ⟨_, last, ended⟩ := last
      cases ended
      rw [last] at visiting
      exact visiting.ended enumerates judged later
    · have real : ∀ d ∈ accepts S hit, d < noMoreDocs := fun d mem => enumerates.real d mem.1
      obtain ⟨ms, rise, mem⟩ := exists_rising real
      have left (d : Nat) := (mem d).trans (and_iff_left (Nat.zero_le d)).symm
      obtain ⟨ran, rejected⟩ := visiting.drain enumerates judged rise left
      refine ⟨ms, rise, mem, ran, rejected.trans ?_⟩
      rw [Nat.zero_add]
      exact congrArg Set.ncard (rejects_all enumerates.real)
  · cases compiled.symm.trans failed

/-- A phrase in two of four documents, over a list of three of them and with calls that skip, repeat
and go back. -/
theorem run_intersection_phrase :
    let postings := [("red", [⟨0, [0]⟩, ⟨1, [0]⟩, ⟨3, [1]⟩]), ("fox", [⟨1, [1]⟩, ⟨3, [2]⟩])]
    let segment : Segment := ⟨0, 4, [("body", ⟨#[1, 2, 1, 3], postings⟩)]⟩
    let leaf (text : String) : Query Float :=
      .leaf (.term { text, field := some "body", needed := .positions })
    let q : Query Float := .join (.orderedWindow 1) [leaf "red", leaf "fox"]
    ∃ tree, Session.tree segment "body" true q = .ok tree ∧
      let fresh : Scan Float := { walk := .ofList [0, 1, 3], tree }
      ∃ (docs : List Nat) (doc : Nat) (s : Scan Float),
        fresh.run [.advance 1, .next, .advance 2] = docs.map .ok ∧
        (fresh.after [.advance 1, .next, .advance 2]).call .next = (.ok doc, s) ∧
        IsFirst (accepts {d | (Walk.ofList [0, 1, 3]).Offers d} fun d => d % 2 = 1)
          (Call.next.low docs.getLast?) doc := by
  intro postings segment leaf q
  have compiles : (Session.tree segment "body" true q).isOk = true := by rfl
  obtain ⟨tree, compiled⟩ := exists_of_isOk compiles
  have sound : (Walk.ofList [0, 1, 3]).Sound := Walk.sound_ofList (by decide) (by decide)
  have judges : ∀ d ∈ [0, 1, 3],
      (do (← (← Session.tree segment "body" true q).moveTo d).matched.1) =
        .ok (decide (d % 2 = 1)) := by
    decide +kernel
  have judged : ∀ d ∈ {d | (Walk.ofList [0, 1, 3]).Offers d},
      ∃ t, tree.moveTo d = .ok t ∧ t.matched.1 = .ok (decide (d % 2 = 1)) := by
    intro d offers
    have judges := judges d (Walk.offers_ofList.mp offers)
    rw [compiled] at judges
    exact bind_eq_ok judges
  obtain ⟨docs, doc, s, ran, called, first, _⟩ :=
    (run_intersection sound.enumerates compiled judged).1 [.advance 1, .next, .advance 2] .next
  exact ⟨tree, compiled, docs, doc, s, ran, called, first⟩

end Scan

end Retrieval
