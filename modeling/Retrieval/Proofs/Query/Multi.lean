import Retrieval.Proofs.Query.Convergence

/-!
# Simplifying named queries

No rule fires on a multi query itself, so a pass over it is one over each of its children. Some of
them may take more passes to settle than others; those that are settled stay as they are until the
last one is. So a multi query settles to what its children settle to on their own
(`Query.settle?_multi`).
-/

namespace Retrieval

namespace Query

variable {R : Type} [Scalar R] {names : List String}

lemma weightPassAll_value (cs : List (Query R)) :
    (weightPassAll cs).value = cs.map fun c => c.weightPass.value := by
  induction cs with
  | nil => rw [weightPassAll, List.map_nil]
  | cons c cs ih => rw [weightPassAll, Simplified.map₂, ih, List.map_cons]

lemma junctionPassAll_value (cs : List (Query R)) :
    (junctionPassAll cs).value = cs.map fun c => c.junctionPass.value := by
  induction cs with
  | nil => rw [junctionPassAll, List.map_nil]
  | cons c cs ih => rw [junctionPassAll, Simplified.map₂, ih, List.map_cons]

/-- A pass over a multi query is one over each of its children. -/
lemma pass_multi (names : List String) (cs : List (Query R)) :
    (pass (.join (.multi names) cs)).value =
      .join (.multi names) (cs.map fun c => c.pass.value) := by
  have other (j : Junction) : (.multi names : Operator R) ≠ j.operator := by
    intro e
    cases j <;> cases e
  have weighted : weightPass (.join (.multi names) cs) =
      (weightPassAll cs).map (.join (.multi names)) := by
    rw [weightPass]
    intro ws e
    cases e
  rw [pass, weighted, Simplified.map, junctionPass_join other, Simplified.map, weightPassAll_value,
    junctionPassAll_value, List.map_map]
  rfl

/-- A pass leaves a multi query as it is if it leaves all of its children as they are. -/
lemma pass_multi_changed (names : List String) (cs : List (Query R)) :
    (pass (.join (.multi names) cs)).changed = false ↔ ∀ c ∈ cs, c.pass.changed = false := by
  have same : (cs.map fun c => c.pass.value) = cs ↔ ∀ c ∈ cs, c.pass.value = c := by
    conv_lhs => rhs; rw [← List.map_id cs]
    exact List.map_inj_left
  rw [(pass_shrinks _).changed_eq_false_iff, pass_multi, join.injEq, and_iff_right rfl, same]
  exact forall₂_congr fun c _ => (pass_shrinks c).changed_eq_false_iff.symm

/-- A query that a pass does not change has settled. -/
lemma settle?_of_unchanged {q : Query R} (same : q.pass.changed = false) (passes : Nat) :
    q.settle? passes = some q := by
  have kept : q.pass.value = q := (pass_shrinks q).kept same
  exact settle?_of_pass (congrArg₂ Simplified.mk kept same) passes

/-- Where a pass leaves a multi query as it is, all of its children have settled. -/
lemma settle?_multi_of_unchanged {passes : Nat} {cs : List (Query R)}
    (same : (pass (.join (.multi names) cs)).changed = false) :
    ∃ cs', (pass (.join (.multi names) cs)).value = .join (.multi names) cs' ∧
      List.Forall₂ (fun c c' => c.settle? passes = some c') cs cs' := by
  refine ⟨cs, (pass_shrinks _).kept same, List.forall₂_same.mpr fun c mem => ?_⟩
  exact settle?_of_unchanged ((pass_multi_changed names cs).mp same c mem) passes

/-- A query settles in one pass more than what a pass makes of it. -/
lemma settle?_succ {passes : Nat} {q q' : Query R}
    (settled : q.pass.value.settle? passes = some q') : q.settle? (passes + 1) = some q' := by
  cases changed : q.pass.changed with
  | true => simpa [settle?, changed] using settled
  | false =>
    rw [(pass_shrinks q).kept changed, settle?_of_unchanged changed] at settled
    rw [settle?_of_unchanged changed, settled]

/-- A multi query settles to what its children settle to. -/
theorem settle?_multi {passes : Nat} {cs : List (Query R)} {q' : Query R}
    (settled : settle? passes (.join (.multi names) cs) = some q') :
    ∃ cs', q' = .join (.multi names) cs' ∧
      List.Forall₂ (fun c c' => c.settle? passes = some c') cs cs' := by
  -- the induction is on the passes that may still change something
  induction passes generalizing cs with
  | zero =>
    obtain ⟨same, rfl⟩ | ⟨_, _, ⟨⟩, _⟩ := settle?_cases settled
    exact settle?_multi_of_unchanged same
  | succ passes ih =>
    obtain ⟨same, rfl⟩ | ⟨_, _, ⟨⟩, settled⟩ := settle?_cases settled
    · exact settle?_multi_of_unchanged same
    · rw [pass_multi] at settled
      obtain ⟨cs', same, each⟩ := ih settled
      refine ⟨cs', same, ?_⟩
      exact (List.forall₂_map_left_iff.mp each).imp fun c c' => settle?_succ

end Query

end Retrieval
