import Retrieval.Proofs.Query.Inference

/-!
# Marks that inference leaves

Inference marks each term with what is asked of it, and then all terms of one text and field with
the most that is asked of any of them. A query in which both has been done is returned as it is
(`Query.infer_eq_self`). One that is accepted for scores is marked the same way for documents alone
(`Query.infer_docs`).
-/

namespace Retrieval

/-- A list stays as it is if each of its members does. -/
lemma mapM_eq_self {ε α : Type} {make : α → Except ε α} {as : List α}
    (each : ∀ a ∈ as, make a = .ok a) : as.mapM make = .ok as := by
  induction as with
  | nil => rfl
  | cons a as ih =>
    obtain ⟨first, rest⟩ := List.forall_mem_cons.mp each
    rw [List.mapM_cons, first, ih rest]
    rfl

namespace Need

lemma le_antisymm {m n : Need} (le : m ≤ n) (ge : n ≤ m) : m = n := by
  revert le ge
  cases m <;> cases n <;> decide

lemma eq_scores_of_le {n : Need} (le : .scores ≤ n) : n = .scores := by
  revert le
  cases n <;> decide

lemma docs_le (n : Need) : .docs ≤ n := Nat.zero_le n.rank

lemma max_le {l m n : Need} (left : l ≤ n) (right : m ≤ n) : max l m ≤ n := by
  revert left right
  cases l <;> cases m <;> cases n <;> decide

/-- The largest of several needs is at most what they all are at most. -/
lemma foldl_max_le {needs : List Need} {init n : Need} (first : init ≤ n)
    (each : ∀ m ∈ needs, m ≤ n) : needs.foldl max init ≤ n := by
  induction needs generalizing init with
  | nil => exact first
  | cons m needs ih =>
    obtain ⟨here, rest⟩ := List.forall_mem_cons.mp each
    exact ih (max_le first here) rest

end Need

namespace Query

variable {R : Type}

/-! ## Terms of one text and field -/

/-- What is most needed of a term depends on its text and field. -/
lemma mostNeeded_congr {terms : List Term} {s t : Term} (text : s.text = t.text)
    (field : s.field = t.field) : mostNeeded terms s = mostNeeded terms t := by
  rw [mostNeeded, mostNeeded, text, field]

/-- Terms that are marked with the most that is needed of them stay so. -/
lemma mostNeeded_map {terms : List Term} {t : Term} (mem : t ∈ terms) :
    mostNeeded (terms.map fun t => { t with needed := mostNeeded terms t })
      { t with needed := mostNeeded terms t } = mostNeeded terms t := by
  apply Need.le_antisymm
  · apply Need.foldl_max_le (Need.docs_le _)
    refine List.forall_mem_map.mpr fun s among => ?_
    obtain ⟨among, same⟩ := List.mem_filter.mp among
    obtain ⟨s, _, rfl⟩ := List.mem_map.mp among
    obtain ⟨text, field⟩ := of_decide_eq_true same
    have same : mostNeeded terms s = mostNeeded terms t := mostNeeded_congr text field
    show mostNeeded terms s ≤ mostNeeded terms t
    rw [same]
    exact Need.le_refl _
  · have marked := List.mem_map_of_mem (f := fun t => { t with needed := mostNeeded terms t }) mem
    exact le_mostNeeded marked

mutual

/-- Nothing changes in a query if none of its terms does. -/
theorem mapTerms_eq_self {f : Term → Term} :
    (q : Query R) → (∀ t ∈ q.terms, f t = t) → q.mapTerms f = q
  | .leaf (.term t), each => by rw [mapTerms, each t (List.mem_singleton_self t)]
  | .leaf (.lengths _), _ | .leaf (.constScore _), _ | .leaf (.constCount ..), _
  | .leaf (.constBool _), _ | .leaf (.whitelist _), _ | .leaf .always, _ | .leaf .never, _
  | .leaf (.raw _), _ => rfl
  | .modify m c, each => by rw [mapTerms, mapTerms_eq_self c each]
  | .join op cs, each => by rw [mapTerms, mapTermsAll_eq_self cs each]
  | .require c v, each => by
    obtain ⟨cond, value⟩ := List.forall_mem_append.mp each
    rw [mapTerms, mapTerms_eq_self c cond, mapTerms_eq_self v value]

theorem mapTermsAll_eq_self {f : Term → Term} :
    (cs : List (Query R)) → (∀ t ∈ termsAll cs, f t = t) → mapTermsAll f cs = cs
  | [], _ => rfl
  | c :: cs, each => by
    obtain ⟨first, rest⟩ := List.forall_mem_append.mp each
    rw [mapTermsAll, mapTerms_eq_self c first, mapTermsAll_eq_self cs rest]

end

/-! ## Marking -/

/-- A term is marked with what is asked of it. -/
def IsMarked (need : Need) (q : Query R) : Prop := ∀ t, q = .leaf (.term t) → need ≤ t.needed

/-- Marking terms with more keeps them marked. -/
lemma IsMarked.mapTerms {need : Need} {q : Query R} {f : Term → Term}
    (marked : Everywhere IsMarked need q) (more : ∀ t ∈ q.terms, t.needed ≤ (f t).needed) :
    Everywhere IsMarked need (q.mapTerms f) := by
  induction marked with
  | @leaf need l holds =>
    cases l with
    | term t =>
      apply Everywhere.leaf
      rintro _ ⟨rfl⟩
      exact Need.le_trans (holds t rfl) (more t (List.mem_singleton_self t))
    | _ => exact .leaf nofun
  | modify _ _ ih => exact .modify nofun (ih more)
  | @join need op cs _ _ ih =>
    rw [Query.mapTerms, mapTermsAll_eq_map]
    refine .join nofun fun c' mem => ?_
    obtain ⟨c, within, rfl⟩ := List.mem_map.mp mem
    apply ih c within
    intro t ht
    apply more t
    rw [terms, termsAll_eq_flatMap]
    exact List.mem_flatMap.mpr ⟨c, within, ht⟩
  | require _ _ _ ihc ihv =>
    obtain ⟨cond, value⟩ := List.forall_mem_append.mp more
    exact .require nofun (ihc cond) (ihv value)

variable [Scalar R]

/-- A query that has been marked is marked at every term. -/
lemma Everywhere.isMarked_of_mark {need : Need} {q q' : Query R} (fit : Everywhere Fit need q)
    (marked : q.mark need = .ok q') : Everywhere IsMarked need q' := by
  induction fit generalizing q' with
  | @leaf need l =>
    obtain ⟨_, _, marked⟩ := bind_eq_ok marked
    cases l with
    | term t =>
      cases marked
      apply Everywhere.leaf
      rintro _ ⟨rfl⟩
      exact Need.le_max_right t.needed need
    | _ =>
      cases marked
      exact .leaf nofun
  | modify _ _ ih =>
    obtain ⟨_, _, marked⟩ := bind_eq_ok marked
    obtain ⟨c', inner, marked⟩ := bind_eq_ok marked
    cases marked
    exact .modify nofun (ih inner)
  | join _ _ ih =>
    obtain ⟨_, _, marked⟩ := bind_eq_ok marked
    obtain ⟨_, _, marked⟩ := bind_eq_ok marked
    obtain ⟨cs', inner, marked⟩ := bind_eq_ok marked
    cases marked
    rw [markAll_eq_mapM] at inner
    obtain ⟨_, _, each⟩ := mapM_eq_ok inner
    refine .join nofun fun c' mem => ?_
    obtain ⟨c, within, marked⟩ := each c' mem
    exact ih c within marked
  | require _ _ _ ihc ihv =>
    obtain ⟨_, _, marked⟩ := bind_eq_ok marked
    obtain ⟨c', cond, marked⟩ := bind_eq_ok marked
    obtain ⟨v', value, marked⟩ := bind_eq_ok marked
    cases marked
    exact .require nofun (ihc cond) (ihv value)

/-- Marking changes nothing in a query that is fit and marked everywhere. -/
lemma mark_eq_self {need : Need} {q : Query R}
    (h : Everywhere (fun n c => Fit n c ∧ IsMarked n c) need q) : q.mark need = .ok q := by
  induction h with
  | @leaf need l holds =>
    obtain ⟨fit, marked⟩ := holds
    unfold mark
    rw [checkNeed_of_admits fit.admits]
    cases l with
    | term t =>
      have same : max t.needed need = t.needed := Need.max_eq_left (marked t rfl)
      show Except.ok (Query.leaf (.term { t with needed := max t.needed need })) = _
      rw [same]
    | _ => rfl
  | modify holds _ ih =>
    rw [mark, checkNeed_of_admits holds.1.admits, ih]
    rfl
  | @join need op cs holds _ ih =>
    have all : markAll (op.childNeed need) cs = .ok cs := by
      rw [markAll_eq_mapM]
      exact mapM_eq_self ih
    have arity : checkArity op cs = .ok () := checkArity_of_enough (holds.1.enough op cs rfl)
    rw [mark, checkNeed_of_admits holds.1.admits, arity, all]
    rfl
  | require holds _ _ ihc ihv =>
    rw [mark, checkNeed_of_admits holds.1.admits, ihc, ihv]
    rfl

/-! ## Inference -/

/-- Inference leaves each term marked with what is asked of it, and with the most that is asked of
any term of its text and field. -/
lemma marks_of_infer {need : Need} {q q' : Query R} (inferred : q.infer need = .ok q') :
    Everywhere IsMarked need q' ∧ ∀ t ∈ q'.terms, mostNeeded q'.terms t = t.needed := by
  obtain ⟨marked, h, inferred⟩ := bind_eq_ok inferred
  cases inferred
  constructor
  · apply IsMarked.mapTerms ((everywhere_fit_of_mark q h).isMarked_of_mark h)
    exact fun t mem => le_mostNeeded mem
  · rw [terms_mapTerms]
    exact List.forall_mem_map.mpr fun t mem => mostNeeded_map mem

/-- Inference changes nothing in a fit query with such marks. -/
lemma infer_eq_self {need : Need} {q : Query R} (fit : Everywhere Fit need q)
    (marked : Everywhere IsMarked need q)
    (unified : ∀ t ∈ q.terms, mostNeeded q.terms t = t.needed) : q.infer need = .ok q := by
  rw [infer, mark_eq_self (fit.and marked)]
  show Except.ok (q.mapTerms _) = _
  rw [mapTerms_eq_self q fun t mem => by rw [unified t mem]]

omit [Scalar R] in
/-- A node that has no list of children only has to be able to give what is asked. -/
lemma Admits.fit {need : Need} {q : Query R} (admits : Admits need q)
    (other : ∀ op cs, q ≠ .join op cs) : Fit need q :=
  ⟨admits, fun op cs same => absurd same (other op cs)⟩

omit [Scalar R] in
/-- What a node is fit for does not depend on marks. -/
lemma fit_unmarked (need : Need) (q : Query R) : Fit need q.unmarked ↔ Fit need q := by
  cases q with
  | leaf l =>
    have other (l : Leaf R) : ∀ op cs, Query.leaf l ≠ .join op cs := by rintro _ _ ⟨⟩
    cases l <;> exact ⟨fun fit => Admits.fit ⟨fit.1.1, fit.1.2, fit.1.3⟩ (other _),
      fun fit => Admits.fit ⟨fit.1.1, fit.1.2, fit.1.3⟩ (other _)⟩
  | modify m c =>
    have other (c : Query R) : ∀ op cs, Query.modify m c ≠ .join op cs := by rintro _ _ ⟨⟩
    exact ⟨fun fit => fit.admits.modify.fit (other _), fun fit => fit.admits.modify.fit (other _)⟩
  | join op cs =>
    rw [unmarked_join]
    refine ⟨fun fit => ⟨fit.admits.join, ?_⟩, fun fit => ⟨fit.admits.join, ?_⟩⟩
    · rintro _ _ ⟨rfl, rfl⟩ wants
      exact (List.length_map _ : (cs.map unmarked).length = _) ▸ fit.enough _ _ rfl wants
    · rintro _ _ ⟨rfl, rfl⟩ wants
      rw [List.length_map]
      exact fit.enough _ _ rfl wants
  | require c v =>
    have other (c v : Query R) : ∀ op cs, Query.require c v ≠ .join op cs := by rintro _ _ ⟨⟩
    exact ⟨fun fit => Admits.fit ⟨fit.1.1, fit.1.2, fit.1.3⟩ (other _ _),
      fun fit => Admits.fit ⟨fit.1.1, fit.1.2, fit.1.3⟩ (other _ _)⟩

/-- Inference leaves every node fit for what is asked of it, and every term marked with it. -/
lemma marked_of_infer {need : Need} {q q' : Query R} (inferred : q.infer need = .ok q') :
    Everywhere (fun n c => Fit n c ∧ IsMarked n c) need q' :=
  ((exists_infer_iff.mp ⟨q', inferred⟩).infer fit_unmarked inferred).and (marks_of_infer inferred).1

/-! ## A lesser need -/

/-- Any node can tell whether it matches. -/
lemma checkNeed_docs (q : Query R) : q.checkNeed .docs = .ok () :=
  checkNeed_of_admits ⟨by simp, nofun, nofun⟩

mutual

/-- A query that can be marked for scores is marked alike for documents: where less is asked of a
node, the node has a score, so that it is no term. -/
theorem mark_docs {q' : Query R} : (q : Query R) → q.mark .scores = .ok q' → q.mark .docs = .ok q'
  | .leaf l, h => by
    obtain ⟨_, checked, h⟩ := bind_eq_ok h
    cases l with
    | term t => cases (admits_of_checkNeed checked).scored rfl
    | _ =>
      unfold mark
      rw [checkNeed_docs]
      exact h
  | .modify m c, h => by
    obtain ⟨_, _, h⟩ := bind_eq_ok h
    obtain ⟨c', inner, h⟩ := bind_eq_ok h
    have inner' : c.mark (m.childNeed .docs) = .ok c' := by
      cases m with
      | alwaysMatch => exact mark_docs c inner
      | _ => exact inner
    rw [mark, checkNeed_docs, inner']
    exact h
  | .join op cs, h => by
    obtain ⟨_, checked, h⟩ := bind_eq_ok h
    obtain ⟨_, arity, h⟩ := bind_eq_ok h
    obtain ⟨cs', inner, h⟩ := bind_eq_ok h
    have inner' : markAll (op.childNeed .docs) cs = .ok cs' := by
      cases op with
      | synonym => cases (admits_of_checkNeed checked).scored rfl
      | multi names => exact markAll_docs cs inner
      | _ => exact inner
    rw [mark, checkNeed_docs, arity, inner']
    exact h
  | .require c v, h => by
    obtain ⟨_, _, h⟩ := bind_eq_ok h
    obtain ⟨c', cond, h⟩ := bind_eq_ok h
    obtain ⟨v', value, h⟩ := bind_eq_ok h
    rw [mark, checkNeed_docs, cond, mark_docs v value]
    exact h

theorem markAll_docs {cs' : List (Query R)} :
    (cs : List (Query R)) → markAll .scores cs = .ok cs' → markAll .docs cs = .ok cs'
  | [], h => h
  | c :: cs, h => by
    obtain ⟨c', first, h⟩ := bind_eq_ok h
    obtain ⟨cs', rest, h⟩ := bind_eq_ok h
    rw [markAll, mark_docs c first, markAll_docs cs rest]
    exact h

end

/-- A query that is accepted for scores is inferred alike where only documents are asked for. -/
theorem infer_docs {q q' : Query R} (inferred : q.infer .scores = .ok q') :
    q.infer .docs = .ok q' := by
  obtain ⟨marked, h, inferred⟩ := bind_eq_ok inferred
  rw [infer, mark_docs q h]
  exact inferred

end Query

end Retrieval
