import Retrieval.Proofs.Query.Everywhere

/-!
# Leaves of a simplified query

Binding, attaching statistics and simplifying a query make no leaves of a new kind, apart from the
two constant ones that decide a conjunction or a disjunction (`Query.OnlyLeaves.rebuild`,
`Query.OnlyLeaves.simplify`).
-/

namespace Retrieval

namespace Query

variable {R : Type}

/-- All leaves are of a kind. -/
def OnlyLeaves (P : Leaf R → Prop) (q : Query R) : Prop := ∀ l, .leaf l ∈ q.nodes → P l

/-- That no leaf is in the words of the index says so of every leaf. -/
lemma noRaw_iff {q : Query R} : q.NoRaw ↔ q.OnlyLeaves fun l => ∀ text, l ≠ .raw text :=
  ⟨fun noRaw _ mem text e => noRaw text (e ▸ mem), fun only text mem => only _ mem text rfl⟩

mutual

/-- The terms of a query are its leaves of that kind. -/
theorem mem_terms {t : Term} : (q : Query R) → (t ∈ q.terms ↔ .leaf (.term t) ∈ q.nodes)
  | .leaf l => by cases l <;> simp [terms, nodes]
  | .modify m c => by simp [terms, nodes, mem_terms c]
  | .join op cs => by simp [terms, nodes, mem_termsAll cs]
  | .require c v => by simp [terms, nodes, mem_terms c, mem_terms v]

theorem mem_termsAll {t : Term} :
    (cs : List (Query R)) → (t ∈ termsAll cs ↔ .leaf (.term t) ∈ nodesAll cs)
  | [] => by simp [termsAll, nodesAll]
  | c :: cs => by simp [termsAll, nodesAll, mem_terms c, mem_termsAll cs]

end

/-- What holds of all terms is said of every leaf. -/
lemma forall_terms_iff {P : Term → Prop} {q : Query R} :
    (∀ t ∈ q.terms, P t) ↔ q.OnlyLeaves fun l => ∀ t, l = .term t → P t := by
  refine ⟨fun each l mem t e => ?_, fun only t mem => ?_⟩
  · exact each t ((mem_terms q).mpr (e ▸ mem))
  · exact only _ ((mem_terms q).mp mem) t rfl

/-- Of what kind the leaves are is said of every node. -/
lemma onlyLeaves_iff {P : Leaf R → Prop} (need : Need) {q : Query R} :
    q.OnlyLeaves P ↔ Everywhere (fun _ c => ∀ l, c = .leaf l → P l) need q :=
  ⟨fun only => everywhere_of_nodes q fun _ mem l e => only l (e ▸ mem),
    fun h l mem => h.of_mem_nodes mem l rfl⟩

/-! ## Rebuilding -/

/-- The leaves of a rebuilt query are what its leaves have become. -/
theorem OnlyLeaves.rebuild {ε : Type} {P P' : Leaf R → Prop} {onLeaf : Leaf R → Except ε (Leaf R)}
    {onModifier : Modifier R → Query R → Except ε (Modifier R)}
    (keeps : ∀ l l', P l → onLeaf l = .ok l' → P' l') {q q' : Query R} (only : q.OnlyLeaves P)
    (built : q.rebuild onLeaf onModifier = .ok q') : q'.OnlyLeaves P' := by
  refine (onlyLeaves_iff .docs).mpr
    (((onlyLeaves_iff _).mp only).rebuild ⟨?_, ?_, ?_, ?_⟩ built)
  · rintro _ l l' holds changed _ ⟨rfl⟩
    exact keeps l l' (holds l rfl) changed
  · intro _ _ _ _ _ _ _ inner _
    refine ⟨?_, inner.for_need⟩
    intros
    contradiction
  all_goals
    intros
    contradiction

/-! ## Simplification -/

section Simplification

variable [Scalar R] {P : Leaf R → Prop} {q : Query R}

/-- Rewriting makes no leaves but the constant ones. -/
lemma leaves_lasting (always : P .always) (never : P .never) :
    Lasting fun _ (c : Query R) => ∀ l, c = .leaf l → P l := by
  constructor
  case decided =>
    refine fun _ => ⟨fun l e => ?_, fun l e => ?_⟩
    · cases e
      exact always
    · cases e
      exact never
  case modify => exact fun _ => ⟨nofun, nofun⟩
  all_goals
    intros
    contradiction

lemma OnlyLeaves.weightPass (only : q.OnlyLeaves P) (always : P .always) (never : P .never) :
    q.weightPass.value.OnlyLeaves P :=
  (onlyLeaves_iff .docs).mpr
    ((Everywhere.weightPass (leaves_lasting always never)).1 q ((onlyLeaves_iff _).mp only))

lemma OnlyLeaves.junctionPass (only : q.OnlyLeaves P) (always : P .always) (never : P .never) :
    q.junctionPass.value.OnlyLeaves P :=
  (onlyLeaves_iff .docs).mpr
    (((onlyLeaves_iff _).mp only).junctionPass (leaves_lasting always never) q)

/-- Simplification makes no leaves but the constant ones. -/
theorem OnlyLeaves.simplify (always : P .always) (never : P .never) {passes : Nat} {q' : Query R}
    (only : q.OnlyLeaves P) (simple : q.simplify passes = .ok q') : q'.OnlyLeaves P :=
  (onlyLeaves_iff .docs).mpr
    (((onlyLeaves_iff _).mp only).simplify (leaves_lasting always never) simple)

/-- Simplification puts no leaf in the words of the index. -/
lemma NoRaw.simplify {passes : Nat} {q' : Query R} (noRaw : NoRaw q)
    (simple : q.simplify passes = .ok q') : NoRaw q' := by
  refine noRaw_iff.mpr ((noRaw_iff.mp noRaw).simplify ?_ ?_ simple)
  all_goals
    intro text e
    cases e

end Simplification

end Query

end Retrieval
