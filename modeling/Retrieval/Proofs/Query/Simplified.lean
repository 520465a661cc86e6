import Retrieval.Query.Simplified
import Retrieval.Proofs.Query.Typing

/-!
# Rewriting rules

What single rewriting rules do to the members of a node, and how a fact that every pass keeps is
kept by simplification (`Query.settle?_induction`).
-/

namespace Retrieval

namespace Query

variable {R : Type}

/-- The nodes of a list of queries are those of its queries. -/
lemma mem_nodesAll {q : Query R} {cs : List (Query R)} : q ∈ nodesAll cs ↔ ∃ c ∈ cs, q ∈ c.nodes := by
  induction cs with
  | nil => exact ⟨nofun, nofun⟩
  | cons c cs ih => simp [nodesAll, ih]

/-! ## One boolean node -/

section Constants

variable [BEq R]

/-- Only the leaf that decides an operator equals it. -/
lemma eq_absorbing_of_beq {j : Junction} {q : Query R} (same : (j.absorbing == q) = true) :
    q = j.absorbing := by
  cases q with
  | leaf l => cases j <;> cases l <;> first | rfl | cases same
  | _ => cases j <;> cases same

/-- Only the leaf that does not matter to an operator equals it. -/
lemma eq_identity_of_beq {j : Junction} {q : Query R} (same : (q == j.identity) = true) :
    q = j.identity := by
  cases q with
  | leaf l => cases j <;> cases l <;> first | rfl | cases same
  | _ => cases j <;> cases same

end Constants

namespace Junction

variable {j : Junction}

lemma members?_eq_some {c : Query R} {inner : List (Query R)} (h : j.members? c = some inner) :
    c = .join j.operator inner := by
  unfold members? at h
  split at h <;> cases h <;> rfl

/-- Splicing puts the members of a member of the same kind in its place. -/
lemma splice_value (j : Junction) (cs : List (Query R)) :
    (j.splice cs).value = cs.flatMap fun c => (j.members? c).getD [c] := by
  induction cs with
  | nil => rfl
  | cons c cs ih =>
    rw [splice, List.flatMap_cons, ← ih]
    cases j.members? c <;> rfl

lemma operator_injective {i : Junction} (same : (i.operator : Operator R) = j.operator) : i = j := by
  cases i <;> cases j <;> first | rfl | cases same

/-- An operator is a boolean one or it is not. -/
lemma operator_cases (op : Operator R) :
    (∃ j : Junction, op = j.operator) ∨ ∀ j : Junction, op ≠ j.operator := by
  cases op with
  | and => exact .inl ⟨.and, rfl⟩
  | or => exact .inl ⟨.or, rfl⟩
  | _ =>
    refine .inr fun j => ?_
    cases j <;> exact nofun

variable [Scalar R]

/-- Members that are met are kept, unless they equal one that is kept already. -/
lemma distinct_spec (kept cs : List (Query R)) :
    (∀ c ∈ (distinct kept cs).value, c ∈ kept ∨ c ∈ cs) ∧
      (∀ c ∈ kept, c ∈ (distinct kept cs).value) ∧
      ∀ c ∈ cs, ∃ k ∈ (distinct kept cs).value, k = c ∨ (c == k) = true := by
  induction cs generalizing kept with
  | nil => exact ⟨fun _ => .inl, fun _ => id, List.forall_mem_nil _⟩
  | cons a cs ih =>
    rw [distinct]
    split
    · next repeated =>
      obtain ⟨back, stay, forth⟩ := ih kept
      refine ⟨fun c mem => (back c mem).imp_right (List.mem_cons_of_mem a), stay, ?_⟩
      obtain ⟨k, mem, same⟩ := List.contains_iff_exists_mem_beq.mp repeated
      exact List.forall_mem_cons.mpr ⟨⟨k, stay k mem, .inr same⟩, forth⟩
    · obtain ⟨back, stay, forth⟩ := ih (kept ++ [a])
      refine ⟨fun c mem => ?_, fun c mem => stay c (List.mem_append_left _ mem), ?_⟩
      · rcases back c mem with mem | mem
        · rcases List.mem_append.mp mem with mem | mem
          · exact .inl mem
          · cases List.mem_singleton.mp mem
            exact .inr List.mem_cons_self
        · exact .inr (List.mem_cons_of_mem a mem)
      · have here := stay a (List.mem_append_right kept (List.mem_singleton_self a))
        exact List.forall_mem_cons.mpr ⟨⟨a, here, .inl rfl⟩, forth⟩

/-- All members that are kept were there before. -/
lemma mem_of_mem_distinct {c : Query R} {cs : List (Query R)} (mem : c ∈ (distinct [] cs).value) :
    c ∈ cs :=
  ((distinct_spec [] cs).1 c mem).resolve_left List.not_mem_nil

end Junction

/-! ## Passes -/

section Passes

variable [Scalar R]

lemma junctionPass_junction (j : Junction) (cs : List (Query R)) :
    junctionPass (.join j.operator cs) = j.simplify (junctionPassAll cs) := by
  cases j <;> rw [Junction.operator, junctionPass]

/-- Operators that are not boolean are left alone by the boolean rules. -/
lemma junctionPass_join {op : Operator R} (other : ∀ j : Junction, op ≠ j.operator)
    (cs : List (Query R)) : junctionPass (.join op cs) = (junctionPassAll cs).map (.join op) := by
  rw [junctionPass]
  · exact other .and
  · exact other .or

lemma weightPassAll_length (cs : List (Query R)) : (weightPassAll cs).value.length = cs.length := by
  induction cs with
  | nil => rw [weightPassAll]
  | cons c cs ih =>
    rw [weightPassAll]
    exact congrArg (· + 1) ih

lemma junctionPassAll_length (cs : List (Query R)) :
    (junctionPassAll cs).value.length = cs.length := by
  induction cs with
  | nil => rw [junctionPassAll]
  | cons c cs ih =>
    rw [junctionPassAll]
    exact congrArg (· + 1) ih

/-- Adding a summand brings in at most its own key and value. -/
lemma mem_addSummand {key value : Query R} {w : R} {merged : List (Query R × Query R × R)}
    {p : Query R × Query R × R} (mem : p ∈ addSummand key value w merged) :
    (p.1 = key ∧ p.2.1 = value) ∨ ∃ q ∈ merged, q.1 = p.1 ∧ q.2.1 = p.2.1 := by
  induction merged with
  | nil =>
    cases List.mem_singleton.mp mem
    exact .inl ⟨rfl, rfl⟩
  | cons q merged ih =>
    rw [addSummand] at mem
    split at mem
    · cases mem with
      | head => exact .inr ⟨q, List.mem_cons_self, rfl, rfl⟩
      | tail _ mem => exact .inr ⟨p, List.mem_cons_of_mem q mem, rfl, rfl⟩
    · cases mem with
      | head => exact .inr ⟨q, List.mem_cons_self, rfl, rfl⟩
      | tail _ mem =>
        rcases ih mem with new | ⟨r, mem, old⟩
        · exact .inl new
        · exact .inr ⟨r, List.mem_cons_of_mem q mem, old⟩

/-- What equal summands are merged to is one of them. -/
lemma mem_values_of_mem_mergeSummands {keys values : List (Query R)} {weights : List R}
    {p : Query R × Query R × R} (mem : p ∈ mergeSummands keys values weights) : p.2.1 ∈ values := by
  have all : ∀ p ∈ mergeSummands keys values weights, p.2.1 ∈ values := by
    rw [mergeSummands]
    refine List.foldlRecOn (motive := fun merged : List (Query R × Query R × R) =>
      ∀ p ∈ merged, p.2.1 ∈ values) _ _ (fun p mem => nomatch mem) ?_
    intro merged ih q within p mem
    rcases mem_addSummand mem with ⟨_, e⟩ | ⟨r, mem, _, e⟩
    · rw [e]
      exact (List.of_mem_zip (List.of_mem_zip within).1).2
    · rw [← e]
      exact ih r mem
  exact all p mem

/-- A query settles to what a pass makes of it if nothing is changed, and otherwise to what that
settles to in one pass less. -/
lemma settle?_cases {passes : Nat} {q q' : Query R} (settled : q.settle? passes = some q') :
    (q.pass.changed = false ∧ q' = q.pass.value) ∨ q.pass.changed = true ∧
      ∃ fewer, passes = fewer + 1 ∧ q.pass.value.settle? fewer = some q' := by
  unfold settle? at settled
  dsimp only at settled
  split at settled
  · next changed =>
    cases passes with
    | zero => cases settled
    | succ fewer => exact .inr ⟨changed, fewer, rfl, settled⟩
  · next unchanged =>
    cases settled
    exact .inl ⟨Bool.not_eq_true _ ▸ unchanged, rfl⟩

/-- What every pass keeps simplification keeps. -/
lemma settle?_induction {holds : Query R → Prop} (step : ∀ q, holds q → holds q.pass.value)
    {passes : Nat} {q q' : Query R} (h : holds q) (settled : q.settle? passes = some q') :
    holds q' := by
  induction passes generalizing q with
  | zero =>
    obtain ⟨_, rfl⟩ | ⟨_, _, ⟨⟩, _⟩ := settle?_cases settled
    exact step q h
  | succ passes ih =>
    obtain ⟨_, rfl⟩ | ⟨_, _, ⟨⟩, settled⟩ := settle?_cases settled
    · exact step q h
    · exact ih (step q h) settled

/-- A query that a pass leaves as it is has settled. -/
lemma settle?_of_pass {q : Query R} (same : q.pass = ⟨q, false⟩) (passes : Nat) :
    q.settle? passes = some q := by
  unfold settle?
  rw [same]
  rfl

lemma settled_of_simplify {passes : Nat} {q q' : Query R} (simple : q.simplify passes = .ok q') :
    q.settle? passes = some q' := by
  obtain ⟨_, _, simple⟩ := bind_eq_ok simple
  split at simple
  · next settled =>
    cases simple
    exact settled
  · cases simple

end Passes

end Query

end Retrieval
