import Retrieval.Proofs.Query.Fields
import Retrieval.Proofs.Query.Leaves
import Retrieval.Proofs.Query.Sums

/-!
# Runnable queries

Preparation lets three kinds of node through that a search cannot run: a multi query without
children, a scorer with statistics of its own over terms of several fields, and a count of a query
in the words of the index. A query without them is runnable (`Query.Runnable`). Binding leaves it
with all that is wanted of its nodes but statistics (`Query.IsBound`), which lasts through
simplification and inference; with these it is ready to be compiled (`Query.IsReady`).
-/

namespace Retrieval

variable {R : Type}

/-- The parameters of a model are set. -/
def Model.IsSet : Model R → Prop
  | .dirichlet mu => mu.isSome
  | .absoluteDiscounting delta => delta.isSome
  | .bm25 b k => b.isSome ∧ k.isSome

namespace Query

/-! ## Terms of one field -/

/-- All terms are counted in one field. -/
def OneField (q : Query R) : Prop := ∃ field, ∀ t ∈ q.terms, t.field = some field

lemma oneField_iff {q : Query R} :
    q.OneField ↔ ∃ field, q.OnlyLeaves fun l => ∀ t, l = .term t → t.field = some field :=
  exists_congr fun _ => forall_terms_iff

/-- What is needed of terms does not matter to their fields. -/
lemma oneField_unmarked {q : Query R} : q.unmarked.OneField ↔ q.OneField := by
  unfold OneField
  rw [unmarked, terms_mapTerms]
  exact exists_congr fun field => List.forall_mem_map

section Scalars

variable [Scalar R] {q : Query R}

lemma OneField.weightPass (one : q.OneField) : q.weightPass.value.OneField := by
  obtain ⟨field, only⟩ := oneField_iff.mp one
  exact oneField_iff.mpr ⟨field, only.weightPass nofun nofun⟩

lemma OneField.junctionPass (one : q.OneField) : q.junctionPass.value.OneField := by
  obtain ⟨field, only⟩ := oneField_iff.mp one
  exact oneField_iff.mpr ⟨field, only.junctionPass nofun nofun⟩

/-- A scorer over terms of one field is normalised by some field. -/
lemma OneField.exists_scorerField (one : q.OneField) (fallback : String) :
    ∃ field, Session.scorerField fallback q = .ok field := by
  obtain ⟨field, each⟩ := one
  by_cases lengths : ∃ f stats, q = .leaf (.lengths ⟨some f, stats⟩)
  · obtain ⟨f, stats, rfl⟩ := lengths
    exact ⟨f, rfl⟩
  · have other : ∀ f stats, q ≠ .leaf (.lengths ⟨some f, stats⟩) :=
      fun f stats e => lengths ⟨f, stats, e⟩
    by_cases none : q.terms = []
    · refine ⟨fallback, scorerField_eq_ok.mpr (.inr ⟨other, ?_, fun _ => rfl⟩)⟩
      rw [none]
      exact List.forall_mem_nil _
    · exact ⟨field, scorerField_eq_ok.mpr (.inr ⟨other, each, fun nil => absurd nil none⟩)⟩

end Scalars

/-! ## What is wanted of nodes -/

/-- A node that preparation does not let through unless a search can run it. Terms without a field
are counted in `defaultField`. Names and children of a multi query are read in pairs, so that there
are as many of both. -/
def IsRunnable (defaultField : String) (need : Need) : Query R → Prop
  | .leaf (.raw _) => need = .docs
  | .modify (.scorer _ (some _)) c => ∃ field, ∀ t ∈ c.terms, t.field.getD defaultField = field
  | .join (.multi names) cs => names.length = cs.length ∧ names ≠ []
  | _ => True

/-- No node is such that preparation lets it through although a search cannot run it. -/
def Runnable (defaultField : String) : Need → Query R → Prop := Everywhere (IsRunnable defaultField)

/-- A node that lacks nothing but statistics. Queries in the words of the index are among those that
were `written`. -/
def IsBound (written : String → Prop) (need : Need) : Query R → Prop
  | .leaf (.term t) => t.field.isSome
  | .leaf (.whitelist w) => w.ids.isSome
  | .leaf (.raw text) => written text ∧ need = .docs
  | .modify (.scorer model stats) c => model.IsSet ∧ (stats.isSome → c.OneField)
  | .join (.multi names) cs => names.length = cs.length ∧ names ≠ []
  | _ => True

/-- A node that lacks nothing. -/
def IsReady (written : String → Prop) : Query R → Prop
  | .leaf (.term t) => t.field.isSome ∧ t.needed ≠ .scores
  | .leaf (.whitelist w) => w.ids.isSome
  | .leaf (.raw text) => written text
  | .modify (.scorer model stats) c => model.IsSet ∧ stats.isSome ∧ c.OneField
  | .join (.combine ws) cs => cs.length = ws.length
  | .join (.multi names) cs => names.length = cs.length ∧ names ≠ []
  | _ => True

variable {written : String → Prop}

lemma IsBound.rawForDocs {need : Need} {q : Query R} (bound : Everywhere (IsBound written) need q) :
    q.RawForDocs need := by
  refine bound.mono fun n c holds text e => ?_
  subst e
  exact holds.2

lemma isBound_leaf {need : Need} {l : Leaf R} (terms : ∀ t, l = .term t → t.field.isSome)
    (lists : ∀ w, l = .whitelist w → w.ids.isSome)
    (raws : ∀ text, l = .raw text → written text ∧ need = .docs) :
    IsBound written need (.leaf l) := by
  cases l with
  | term t => exact terms t rfl
  | whitelist w => exact lists w rfl
  | raw text => exact raws text rfl
  | _ => trivial

lemma isBound_unmarked (need : Need) (q : Query R) :
    q.unmarked.IsBound written need ↔ q.IsBound written need := by
  cases q with
  | leaf l => cases l <;> exact Iff.rfl
  | modify m c =>
    cases m with
    | scorer model stats => exact and_congr_right fun _ => imp_congr_right fun _ => oneField_unmarked
    | _ => exact Iff.rfl
  | join op cs =>
    rw [unmarked_join]
    cases op with
    | multi names =>
      change _ ∧ _ ↔ _ ∧ _
      rw [List.length_map]
    | _ => exact Iff.rfl
  | require => exact Iff.rfl

/-- A node is ready if it is so without its mark, and is not marked with scores. -/
lemma isReady_iff (q : Query R) : q.IsReady written ↔
    q.unmarked.IsReady written ∧ ∀ t, q = .leaf (.term t) → t.needed ≠ .scores := by
  have plain {P P' : Prop} (other : ∀ t, q ≠ .leaf (.term t)) (same : P ↔ P') :
      P ↔ P' ∧ ∀ t, q = .leaf (.term t) → t.needed ≠ .scores :=
    same.trans (iff_self_and.mpr fun _ t e => absurd e (other t))
  cases q with
  | leaf l =>
    cases l with
    | term t =>
      refine ⟨fun ⟨named, low⟩ => ⟨⟨named, nofun⟩, ?_⟩, fun ⟨⟨named, _⟩, low⟩ => ⟨named, low t rfl⟩⟩
      rintro _ ⟨rfl⟩
      exact low
    | _ => exact plain nofun Iff.rfl
  | modify m c =>
    refine plain nofun ?_
    cases m with
    | scorer model stats =>
      exact and_congr_right fun _ => and_congr_right fun _ => oneField_unmarked.symm
    | _ => exact Iff.rfl
  | join op cs =>
    refine plain nofun ?_
    rw [unmarked_join]
    cases op with
    | combine ws =>
      change _ = _ ↔ _ = _
      rw [List.length_map]
    | multi names =>
      change _ ∧ _ ↔ _ ∧ _
      rw [List.length_map]
    | _ => exact Iff.rfl
  | require => exact plain nofun Iff.rfl

/-- Marks do not matter to whether a query is ready, unless they are scores. -/
lemma IsReady.congr {need need' : Need} {q q' : Query R} (same : q.unmarked = q'.unmarked)
    (low : ∀ t ∈ q'.terms, t.needed ≠ .scores)
    (ready : Everywhere (fun _ => IsReady written) need q) :
    Everywhere (fun _ => IsReady written) need' q' := by
  have twice (c : Query R) : c.unmarked.unmarked = c.unmarked :=
    mapTerms_unmarked (f := fun t => { t with needed := .docs }) (fun _ => rfl) c
  have free (n : Need) (c : Query R) :
      c.unmarked.unmarked.IsReady written ↔ c.unmarked.IsReady written := by rw [twice]
  have bare := ready.mono fun _ c ready => ((isReady_iff c).mp ready).1
  rw [← everywhere_unmarked free, same, everywhere_unmarked free] at bare
  refine everywhere_of_nodes q' fun c mem => (isReady_iff c).mpr ⟨bare.of_mem_nodes mem, ?_⟩
  rintro t rfl
  exact low t ((mem_terms q').mpr mem)

lemma isEven_unmarked (q : Query R) : q.unmarked.IsEven ↔ q.IsEven := by
  have other {q q' : Query R} (h : ∀ ws cs, q ≠ .join (.combine ws) cs)
      (h' : ∀ ws cs, q' ≠ .join (.combine ws) cs) : q.IsEven ↔ q'.IsEven :=
    ⟨fun _ ws cs e => absurd e (h' ws cs), fun _ ws cs e => absurd e (h ws cs)⟩
  cases q with
  | leaf l => cases l <;> refine other ?_ ?_ <;> intros <;> simp [unmarked, mapTerms]
  | join op cs =>
    rw [unmarked_join]
    cases op with
    | combine ws =>
      constructor
      · rintro even _ _ ⟨rfl, rfl⟩
        rw [← even _ _ rfl, List.length_map]
      · rintro even _ _ ⟨rfl, rfl⟩
        rw [List.length_map, even _ _ rfl]
    | _ => refine other ?_ ?_ <;> intros <;> simp
  | _ => refine other ?_ ?_ <;> intros <;> simp [unmarked, mapTerms]

variable [Scalar R]

/-- Rewriting rules leave nodes bound. -/
lemma isBound_lasting : Lasting fun n : Need => (IsBound written n : Query R → Prop) where
  weight := fun _ => trivial
  spread := fun _ _ _ => trivial
  combine := fun _ _ => trivial
  decided := fun _ => ⟨trivial, trivial⟩
  junction := fun {_ _ _ j} _ _ => by cases j <;> trivial
  modify := fun {_ m _} bound => by
    cases m with
    | scorer model stats =>
      exact ⟨bound.imp_right fun one given => (one given).weightPass,
        bound.imp_right fun one given => (one given).junctionPass⟩
    | _ => exact ⟨trivial, trivial⟩
  join := fun {_ op _ _} bound same => by
    cases op with
    | multi names => exact ⟨bound.1.trans same.symm, bound.2⟩
    | _ => trivial
  require := fun _ => trivial

/-- A query that is bound is so simplified, with one weight for each child of its weighted sums. -/
lemma IsBound.simplify {need : Need} {passes : Nat} {q q' : Query R}
    (bound : Everywhere (IsBound written) need q) (simple : q.simplify passes = .ok q') :
    Everywhere (fun n c => c.IsBound written n ∧ c.IsEven) need q' := by
  obtain ⟨_, checked, _⟩ := bind_eq_ok simple
  have even : q.Even need := even_of_checkWeights q checked
  exact (bound.simplify isBound_lasting simple).and (even.simplify even_lasting simple)

/-- A query that is bound is so where needs are inferred. -/
lemma IsBound.infer {need need' : Need} {q q' : Query R}
    (bound : Everywhere (fun n c => c.IsBound written n ∧ c.IsEven) need q)
    (inferred : q.infer need' = .ok q') :
    Everywhere (fun n c => c.IsBound written n ∧ c.IsEven) need q' :=
  bound.infer (fun n c => and_congr (isBound_unmarked n c) (isEven_unmarked c)) inferred

end Query

end Retrieval
