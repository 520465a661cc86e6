import Retrieval.Candidates.Scan
import Retrieval.Proofs.Candidates.Moving
import Retrieval.Proofs.Evaluation.History

/-!
# A scan visits the documents that match

A scan is poised at a target if its walk offers every document from there on that matches, its tree
judges all that are offered, and it is not beyond the target. Such a scan advances to the first of
these documents (`Scan.Poised.advance`), and is then poised at the next one. Draining it folds over
all of them in rising order (`Scan.Poised.drain`). A scan that has been drained without a fault was
poised at what it was offered and matched (`Scan.Before.poised_of_drain`).
-/

namespace Retrieval

variable {R : Type} [Scalar R]

namespace Tree

/-- The tree answers as a meaning does, and stands where `place` says. -/
structure Follows (o : Origin) (b : Answers R Reading) (place : Option Nat) (t : Tree R) : Prop where
  agree : Answers.Agree o t.behaviour b
  stands : t.Stands o place

variable {o : Origin} {b : Answers R Reading} {place : Option Nat} {t : Tree R}

/-- A question is answered as the meaning says, and the tree goes on following it. -/
lemma Follows.ask {α : Type} {question : Behaviour R → Eval α} {reading : Reading α}
    (follows : t.Follows o b place) (agree : Agrees o (question t.behaviour) reading) :
    (t.ask question).1 = reading (place.getD 0) ∧ (t.ask question).2.Follows o b place := by
  obtain ⟨answer, stands⟩ := follows.stands.ask agree
  exact ⟨answer, follows.agree, stands⟩

lemma Follows.moveTo (follows : t.Follows o b place) {doc : Nat} (le : place.all (· ≤ doc) = true) :
    ∃ t', t.moveTo doc = .ok t' ∧ t'.Follows o b (some doc) := by
  obtain ⟨t', moved, same, stands⟩ := follows.stands.moveTo_ok le
  exact ⟨t', moved, same ▸ follows.agree, stands⟩

end Tree

namespace Scan

/-- The documents below `size` from `target` on that hit. -/
def hitsFrom (hit : Nat → Bool) (size target : Nat) : List Nat :=
  (List.range' target (size - target)).filter hit

variable {hit : Nat → Bool} {size : Nat}

lemma mem_hitsFrom {target doc : Nat} :
    doc ∈ hitsFrom hit size target ↔ (target ≤ doc ∧ doc < size) ∧ hit doc = true := by
  rw [hitsFrom, List.mem_filter, List.mem_range'_1]
  refine and_congr_left fun _ => ?_
  omega

lemma hitsFrom_pairwise (hit : Nat → Bool) (size target : Nat) :
    (hitsFrom hit size target).Pairwise (· < ·) :=
  List.Pairwise.filter _ List.pairwise_lt_range'

/-- Without a document that hits there is nothing to visit. -/
lemma hitsFrom_eq_nil {target : Nat} (none : ∀ d, target ≤ d → d < size → hit d = false) :
    hitsFrom hit size target = [] := by
  apply List.eq_nil_iff_forall_not_mem.mpr
  intro d mem
  obtain ⟨⟨le, lt⟩, yes⟩ := mem_hitsFrom.mp mem
  rw [none d le lt] at yes
  cases yes

/-- The first document that hits comes first. -/
lemma hitsFrom_eq_cons {target doc : Nat} (le : target ≤ doc) (lt : doc < size)
    (yes : hit doc = true) (first : ∀ d, target ≤ d → d < doc → hit d = false) :
    hitsFrom hit size target = doc :: hitsFrom hit size (doc + 1) := by
  have before : hitsFrom hit doc target = [] := hitsFrom_eq_nil first
  have parts : List.range' target (size - target) =
      List.range' target (doc - target) ++ doc :: List.range' (doc + 1) (size - (doc + 1)) := by
    have e : size - target = (doc - target) + ((size - (doc + 1)) + 1) := by omega
    rw [e, ← List.range'_append_1, List.range'_succ, Nat.add_sub_cancel' le]
  unfold hitsFrom at before ⊢
  rw [parts, List.filter_append, before, List.nil_append, List.filter_cons_of_pos yes]

/-- The scan has not come to its target yet. Nothing is known of what its tree is going to say. -/
structure Before (o : Origin) (b : Answers R Reading) (size target : Nat) (s : Scan R) : Prop where
  sound : s.walk.Sound
  inside : ∀ d, s.walk.Offers d → d < size
  follows : ∃ place, s.tree.Follows o b place ∧ place.all (· < target) = true

namespace Before

variable {o : Origin} {b : Answers R Reading} {target : Nat} {s : Scan R}

/-- The tree of a scan can be moved to the document that its walk is taken to. -/
lemma confirm (before : s.Before o b size target) (real : (s.walk.next target).doc < noMoreDocs) :
    (target ≤ (s.walk.next target).doc ∧ s.walk.Offers (s.walk.next target).doc) ∧
      ∃ tree, s.tree.moveTo (s.walk.next target).doc = .ok tree ∧
        tree.matched.1 = b.matched (s.walk.next target).doc ∧
        tree.matched.2.Follows o b (some (s.walk.next target).doc) := by
  have on := (before.sound.next target).offers_doc.resolve_left real.ne
  have offers := (before.sound.offers_next target _).mp on
  refine ⟨offers, ?_⟩
  obtain ⟨place, follows, early⟩ := before.follows
  have reachable : place.all (· ≤ (s.walk.next target).doc) = true := by
    cases place with
    | none => rfl
    | some p =>
      have : p < target := of_decide_eq_true early
      exact decide_eq_true (by omega)
  obtain ⟨tree, moved, follows⟩ := follows.moveTo reachable
  obtain ⟨answer, follows⟩ := follows.ask follows.agree.matched
  exact ⟨tree, moved, answer, follows⟩

/-- Between the target and where the walk is taken to, nothing is offered. -/
lemma not_offers (before : s.Before o b size target) {d : Nat} (le : target ≤ d)
    (early : d < (s.walk.next target).doc) : ¬s.walk.Offers d := by
  intro offers
  have ahead := (before.sound.offers_next target d).mpr ⟨le, offers⟩
  exact absurd ((before.sound.next target).bounds ahead).1 early.not_ge

/-- Taken to a document, the walk offers what it did from there on. -/
lemma offers_next (before : s.Before o b size target) (le : target ≤ (s.walk.next target).doc)
    (d : Nat) : (s.walk.next target).Offers d ↔ (s.walk.next target).doc ≤ d ∧ s.walk.Offers d := by
  constructor
  · intro offers
    exact ⟨((before.sound.next target).bounds offers).1,
      ((before.sound.offers_next target d).mp offers).2⟩
  · exact fun ⟨from_, offers⟩ => (before.sound.offers_next target d).mpr ⟨le.trans from_, offers⟩

end Before

/-- The scan has not passed a document from `target` on that matches. -/
structure Poised (o : Origin) (b : Answers R Reading) (hit : Nat → Bool) (size target : Nat)
    (s : Scan R) : Prop where
  sound : s.walk.Sound
  inside : ∀ d, s.walk.Offers d → d < size
  complete : ∀ d, target ≤ d → d < size → hit d = true → s.walk.Offers d
  judged : ∀ d, s.walk.Offers d → b.matched d = .ok (hit d)
  follows : ∃ place, s.tree.Follows o b place ∧ place.all (· < target) = true

/-- Where a scan ends up that is advanced: on the first document that matches, or at the end. -/
inductive Advanced (o : Origin) (b : Answers R Reading) (hit : Nat → Bool) (size target : Nat) :
    Except Fault Nat × Scan R → Prop where
  | found {doc s} :
    target ≤ doc →
    doc < size →
    hit doc = true →
    (∀ d, target ≤ d → d < doc → hit d = false) →
    Poised o b hit size (doc + 1) s →
    s.tree.Follows o b (some doc) →
    Advanced o b hit size target (.ok doc, s)
  | ended {s} :
    (∀ d, target ≤ d → d < size → hit d = false) →
    Advanced o b hit size target (.ok noMoreDocs, s)

variable {o : Origin} {b : Answers R Reading} {target : Nat} {s : Scan R}

/-- A document that does not hit may be passed. -/
lemma Advanced.pass {doc : Nat} {result : Except Fault Nat × Scan R} (le : target ≤ doc)
    (none : ∀ d, target ≤ d → d < doc + 1 → hit d = false)
    (advanced : Advanced o b hit size (doc + 1) result) : Advanced o b hit size target result := by
  cases advanced with
  | found le' lt yes first poised follows =>
    refine .found (by omega) lt yes (fun d from_ before => ?_) poised follows
    by_cases passed : d < doc + 1
    · exact none d from_ passed
    · exact first d (by omega) before
  | ended none' =>
    apply Advanced.ended
    intro d from_ inside
    by_cases passed : d < doc + 1
    · exact none d from_ passed
    · exact none' d (by omega) inside

namespace Poised

lemma before (poised : s.Poised o b hit size target) : s.Before o b size target :=
  ⟨poised.sound, poised.inside, poised.follows⟩

/-- Where the walk of a poised scan is taken to, no document that matches is passed. -/
lemma hit_eq_false (poised : s.Poised o b hit size target) {d : Nat} (le : target ≤ d)
    (inside : d < size) (before : d < (s.walk.next target).doc) : hit d = false := by
  by_contra yes
  rw [Bool.not_eq_false] at yes
  exact poised.before.not_offers le before (poised.complete d le inside yes)

/-- A real document that the walk of a poised scan is taken to is offered, from the target on. -/
lemma offers_next_doc (poised : s.Poised o b hit size target)
    (real : (s.walk.next target).doc < noMoreDocs) :
    target ≤ (s.walk.next target).doc ∧ s.walk.Offers (s.walk.next target).doc :=
  (poised.before.confirm real).1

/-- A scan whose walk has been taken to a document is poised at the next one. -/
lemma later (poised : s.Poised o b hit size target) {doc : Nat} (le : target ≤ doc) {tree : Tree R}
    (follows : tree.Follows o b (some doc)) (current : Option Nat) (rejected : Nat) :
    Poised o b hit size (doc + 1) ⟨s.walk.next target, tree, current, rejected⟩ where
  sound := poised.sound.next target
  inside d offers := poised.inside d ((poised.sound.offers_next target d).mp offers).2
  complete d from_ inside yes := by
    have le' : target ≤ d := by omega
    exact (poised.sound.offers_next target d).mpr ⟨le', poised.complete d le' inside yes⟩
  judged d offers := poised.judged d ((poised.sound.offers_next target d).mp offers).2
  follows := ⟨some doc, follows, decide_eq_true (Nat.lt_succ_self doc)⟩

/-- The tree of a poised scan can be moved to the document its walk is taken to, and judges it. -/
lemma confirm (poised : s.Poised o b hit size target)
    (real : (s.walk.next target).doc < noMoreDocs) :
    ∃ tree, s.tree.moveTo (s.walk.next target).doc = .ok tree ∧
      tree.matched.1 = .ok (hit (s.walk.next target).doc) ∧
      tree.matched.2.Follows o b (some (s.walk.next target).doc) := by
  obtain ⟨⟨_, offers⟩, tree, moved, answer, follows⟩ := poised.before.confirm real
  exact ⟨tree, moved, answer.trans (poised.judged _ offers), follows⟩

/-- A poised scan advances to the first document from its target on that matches. -/
theorem advance (fits : size ≤ noMoreDocs) (poised : s.Poised o b hit size target) :
    Advanced o b hit size target (s.advance target) := by
  induction target, s using Scan.advance.induct with
  -- the walk is used up
  | case1 target s s' doc last =>
    rw [Scan.advance, if_pos last]
    apply Advanced.ended
    intro d le inside
    apply poised.hit_eq_false le inside
    have : noMoreDocs ≤ (s.walk.next target).doc ∨ noMoreDocs ≤ target := last
    omega
  -- neither moving nor asking the tree can fail
  | case2 target s s' doc real e failed =>
    obtain ⟨tree, moved, _⟩ := poised.confirm (Nat.lt_of_not_le fun le => real (.inl le))
    cases failed.symm.trans moved
  | case3 target s s' doc real tree moved e tree' failed =>
    obtain ⟨_, moved', answer, _⟩ := poised.confirm (Nat.lt_of_not_le fun le => real (.inl le))
    cases moved.symm.trans moved'
    rw [failed] at answer
    cases answer
  -- the tree confirms the candidate
  | case4 target s s' doc real tree moved tree' matched =>
    have real' := Nat.lt_of_not_le fun le => real (.inl le)
    obtain ⟨_, moved', answer, follows⟩ := poised.confirm real'
    cases moved.symm.trans moved'
    rw [matched] at answer follows
    obtain ⟨le, offers⟩ := poised.offers_next_doc real'
    have inside := poised.inside _ offers
    rw [Scan.advance, if_neg real, moved]
    dsimp only
    rw [matched]
    exact .found le inside (Except.ok.inj answer).symm
      (fun d from_ before => poised.hit_eq_false from_ (before.trans inside) before)
      (poised.later le follows _ _) follows
  -- the tree rejects the candidate, and the scan goes on behind it
  | case5 target s s' doc real tree moved tree' matched ih =>
    have real' := Nat.lt_of_not_le fun le => real (.inl le)
    obtain ⟨_, moved', answer, follows⟩ := poised.confirm real'
    cases moved.symm.trans moved'
    rw [matched] at answer follows
    obtain ⟨le, offers⟩ := poised.offers_next_doc real'
    have inside := poised.inside _ offers
    have next : max target doc + 1 = doc + 1 := by rw [Nat.max_eq_right le]
    have no : hit doc = false := (Except.ok.inj answer).symm
    rw [Scan.advance, if_neg real, moved]
    dsimp only
    rw [matched]
    dsimp only
    rw [next] at ih ⊢
    apply (ih (poised.later le follows _ _)).pass le
    intro d from_ before
    rcases Nat.lt_succ_iff_lt_or_eq.mp before with before | rfl
    · exact poised.hit_eq_false from_ (before.trans inside) before
    · exact no

/-- Draining a poised scan folds over the documents from its target on that match. -/
theorem drain {σ : Type} {visit : σ → Nat → Tree R → Except Fault (σ × Tree R)}
    {step : σ → Nat → Except Fault σ} (fits : size ≤ noMoreDocs)
    (visits : ∀ acc doc tree, doc < size → hit doc = true → tree.Follows o b (some doc) →
      (∃ acc' tree', visit acc doc tree = .ok (acc', tree') ∧ step acc doc = .ok acc' ∧
        tree'.Follows o b (some doc)) ∨
      ∃ e, visit acc doc tree = .error e ∧ step acc doc = .error e)
    (acc : σ) (poised : s.Poised o b hit size target) :
    s.drain visit acc target = (hitsFrom hit size target).foldlM step acc := by
  induction acc, target, s using Scan.drain.induct visit with
  | case1 acc target s e s' failed =>
    have advanced := poised.advance fits
    rw [failed] at advanced
    cases advanced
  | case2 acc target s doc s' found last =>
    have advanced := poised.advance fits
    rw [found] at advanced
    rw [Scan.drain, found]
    dsimp only
    rw [if_pos last]
    cases advanced with
    | found => omega
    | ended none =>
      rw [hitsFrom_eq_nil none]
      rfl
  | case3 acc target s doc s' found real e failed =>
    have advanced := poised.advance fits
    rw [found] at advanced
    rw [Scan.drain, found]
    dsimp only
    rw [if_neg real, failed]
    cases advanced with
    | found le inside yes first poised' follows =>
      rw [hitsFrom_eq_cons le inside yes first, List.foldlM_cons]
      rcases visits acc doc s'.tree inside yes follows with ⟨_, _, visited, _⟩ | ⟨e', visited, stepped⟩
      · cases failed.symm.trans visited
      · cases failed.symm.trans visited
        rw [stepped]
        rfl
    | ended => exact absurd (.inl (Nat.le_refl _)) real
  | case4 acc target s doc s' found real acc' tree visited ih =>
    have advanced := poised.advance fits
    rw [found] at advanced
    rw [Scan.drain, found]
    dsimp only
    rw [if_neg real, visited]
    cases advanced with
    | found le inside yes first poised' follows =>
      rw [hitsFrom_eq_cons le inside yes first, List.foldlM_cons]
      rcases visits acc doc s'.tree inside yes follows with
        ⟨_, _, visited', stepped, follows'⟩ | ⟨e, failed, _⟩
      · cases visited.symm.trans visited'
        have next : max target doc + 1 = doc + 1 := by rw [Nat.max_eq_right le]
        rw [next] at ih
        rw [stepped]
        dsimp only
        rw [next]
        exact ih { poised' with
          follows := ⟨some doc, follows', decide_eq_true (Nat.lt_succ_self doc)⟩ }
      · cases visited.symm.trans failed
    | ended => exact absurd (.inl (Nat.le_refl _)) real

end Poised

/-! ## What a scan has judged that succeeds -/

open Classical in
/-- Whether the document is offered and then matched. -/
noncomputable def isMatch (b : Answers R Reading) (s : Scan R) (d : Nat) : Bool :=
  decide (s.walk.Offers d ∧ b.matched d = .ok true)

omit [Scalar R] in
lemma isMatch_iff {d : Nat} : isMatch b s d = true ↔ s.walk.Offers d ∧ b.matched d = .ok true := by
  classical
  exact decide_eq_true_iff

/-- What is known of a scan that has been advanced from `s` to a document without a fault. -/
structure Passed (o : Origin) (b : Answers R Reading) (size target : Nat) (s : Scan R) (doc : Nat)
    (s' : Scan R) : Prop where
  passed : ∀ d, target ≤ d → d < doc → s.walk.Offers d → b.matched d = .ok false
  found : doc < noMoreDocs → target ≤ doc ∧ s.walk.Offers doc ∧ b.matched doc = .ok true ∧
    s'.tree.Follows o b (some doc) ∧ s'.walk.Sound ∧
      ∀ d, s'.walk.Offers d ↔ doc ≤ d ∧ s.walk.Offers d

namespace Before

variable {s' : Scan R} {doc : Nat}

/-- A scan that advances without a fault has judged whatever it has passed. -/
theorem advance (before : s.Before o b size target) (advanced : s.advance target = (.ok doc, s')) :
    Passed o b size target s doc s' := by
  induction target, s using Scan.advance.induct with
  | case1 target s s₁ at_ last =>
    rw [Scan.advance, if_pos last] at advanced
    cases advanced
    refine ⟨fun d le lt offers => ?_, fun real => absurd real (Nat.lt_irrefl _)⟩
    have last : noMoreDocs ≤ (s.walk.next target).doc ∨ noMoreDocs ≤ target := last
    exact absurd offers (before.not_offers le (by omega))
  | case2 target s s₁ at_ more e failed =>
    rw [Scan.advance, if_neg more, failed] at advanced
    cases advanced
  | case3 target s s₁ at_ more tree moved e tree' failed =>
    rw [Scan.advance, if_neg more, moved] at advanced
    dsimp only at advanced
    rw [failed] at advanced
    cases advanced
  | case4 target s s₁ at_ more tree moved tree' yes =>
    obtain ⟨⟨le, offers⟩, _, moved', answer, follows⟩ :=
      before.confirm (Nat.lt_of_not_le fun le => more (.inl le))
    cases moved.symm.trans moved'
    rw [yes] at answer follows
    rw [Scan.advance, if_neg more, moved] at advanced
    dsimp only at advanced
    rw [yes] at advanced
    cases advanced
    refine ⟨fun d from_ early offers => absurd offers (before.not_offers from_ early), fun _ => ?_⟩
    exact ⟨le, offers, answer.symm, follows, before.sound.next target, before.offers_next le⟩
  | case5 target s s₁ at_ more tree moved tree' no ih =>
    obtain ⟨⟨le, offers⟩, _, moved', answer, follows⟩ :=
      before.confirm (Nat.lt_of_not_le fun le => more (.inl le))
    cases moved.symm.trans moved'
    rw [no] at answer follows
    rw [Scan.advance, if_neg more, moved] at advanced
    dsimp only at advanced
    rw [no] at advanced
    dsimp only at advanced
    have next : max target at_ + 1 = at_ + 1 := by rw [Nat.max_eq_right le]
    have offers_iff := before.offers_next le
    rw [next] at ih advanced
    have behind := ih ⟨before.sound.next target,
      fun d offers => before.inside d ((offers_iff d).mp offers).2, some at_, follows,
      decide_eq_true (Nat.lt_succ_self at_)⟩ advanced
    refine ⟨fun d from_ early offers => ?_, fun real => ?_⟩
    · rcases Nat.lt_trichotomy d at_ with lt | rfl | gt
      · exact absurd offers (before.not_offers from_ lt)
      · exact answer.symm
      · exact behind.passed d gt early ((offers_iff d).mpr ⟨gt.le, offers⟩)
    · obtain ⟨le', offers', yes, follows', sound, same⟩ := behind.found real
      have beyond : at_ ≤ doc := (Nat.le_succ at_).trans le'
      refine ⟨le.trans beyond, ((offers_iff doc).mp offers').2, yes, follows', sound, fun d => ?_⟩
      rw [same d]
      exact and_congr_right fun from_ => (offers_iff d).trans (and_iff_right (beyond.trans from_))

/-- A scan that is drained without a fault has judged all that it was offered. -/
theorem drain {σ : Type} {visit : σ → Nat → Tree R → Except Fault (σ × Tree R)} {acc acc' : σ}
    (before : s.Before o b size target)
    (visits : ∀ acc acc' doc tree tree', visit acc doc tree = .ok (acc', tree') →
      tree.Follows o b (some doc) → tree'.Follows o b (some doc))
    (drained : s.drain visit acc target = .ok acc') :
    ∀ d, target ≤ d → s.walk.Offers d → ∃ hit, b.matched d = .ok hit := by
  induction acc, target, s using Scan.drain.induct visit with
  | case1 acc target s e s' failed =>
    rw [Scan.drain, failed] at drained
    cases drained
  | case2 acc target s doc s' found last =>
    have passed := before.advance found
    intro d le offers
    have real := (before.sound.bounds offers).2
    refine ⟨false, passed.passed d le ?_ offers⟩
    omega
  | case3 acc target s doc s' found real e failed =>
    rw [Scan.drain, found] at drained
    dsimp only at drained
    rw [if_neg real, failed] at drained
    cases drained
  | case4 acc target s doc s' found real acc₁ tree visited ih =>
    have passed := before.advance found
    rw [Scan.drain, found] at drained
    dsimp only at drained
    rw [if_neg real, visited] at drained
    dsimp only at drained
    obtain ⟨le, offers, yes, follows, sound, same⟩ :=
      passed.found (Nat.lt_of_not_le fun le => real (.inl le))
    have next : max target doc + 1 = doc + 1 := by rw [Nat.max_eq_right le]
    rw [next] at ih drained
    have behind := ih ⟨sound, fun d offers => before.inside d ((same d).mp offers).2, some doc,
      visits _ _ _ _ _ visited follows, decide_eq_true (Nat.lt_succ_self doc)⟩ drained
    intro d from_ offers
    rcases Nat.lt_trichotomy d doc with lt | rfl | gt
    · exact ⟨false, passed.passed d from_ lt offers⟩
    · exact ⟨true, yes⟩
    · exact behind d gt ((same d).mpr ⟨gt.le, offers⟩)

/-- A scan that has been drained without a fault was poised at the documents that it was offered and
that match. -/
theorem poised_of_drain {σ : Type} {visit : σ → Nat → Tree R → Except Fault (σ × Tree R)}
    {acc acc' : σ} (before : s.Before o b size 0)
    (visits : ∀ acc acc' doc tree tree', visit acc doc tree = .ok (acc', tree') →
      tree.Follows o b (some doc) → tree'.Follows o b (some doc))
    (drained : s.drain visit acc 0 = .ok acc') : s.Poised o b (isMatch b s) size 0 where
  sound := before.sound
  inside := before.inside
  complete d _ _ yes := (isMatch_iff.mp yes).1
  judged d offers := by
    obtain ⟨hit, told⟩ := before.drain visits drained d (Nat.zero_le d) offers
    have same : isMatch b s d = hit := by
      rw [Bool.eq_iff_iff, isMatch_iff, told, and_iff_right offers, Except.ok.injEq]
    rw [told, same]
  follows := before.follows

end Before

/-- What every visit keeps is kept by a scan that is drained. -/
theorem drain_keeps {σ : Type} {P : σ → Prop}
    {visit : σ → Nat → Tree R → Except Fault (σ × Tree R)}
    (keeps : ∀ acc acc' doc tree tree', P acc → visit acc doc tree = .ok (acc', tree') → P acc')
    {acc acc' : σ} {target : Nat} {s : Scan R} (start : P acc)
    (drained : s.drain visit acc target = .ok acc') : P acc' := by
  induction acc, target, s using Scan.drain.induct visit with
  | case1 acc target s e s' failed =>
    rw [Scan.drain, failed] at drained
    cases drained
  | case2 acc target s doc s' found last =>
    rw [Scan.drain, found] at drained
    dsimp only at drained
    rw [if_pos last] at drained
    cases drained
    exact start
  | case3 acc target s doc s' found real e failed =>
    rw [Scan.drain, found] at drained
    dsimp only at drained
    rw [if_neg real, failed] at drained
    cases drained
  | case4 acc target s doc s' found real next tree visited ih =>
    rw [Scan.drain, found] at drained
    dsimp only at drained
    rw [if_neg real, visited] at drained
    exact ih (keeps _ _ _ _ _ start visited) drained

end Scan

end Retrieval
