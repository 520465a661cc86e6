import Retrieval.Proofs.Candidates.Finding
import Retrieval.Proofs.Query.Settled

/-!
# Simplifying candidate queries

Simplifying a candidate query may let it find more documents, but never fewer
(`Query.simplify_widens`). The rules for weights do not concern candidate queries at all. Those for
conjunctions and disjunctions each keep what their node finds, apart from a conjunction without
members: it finds nothing, but it gets lost where conjunctions are flattened.
-/

namespace Retrieval

/-- The leaves of candidate queries. The terms among them need no more than documents. -/
def Leaf.IsCandidate {R : Type} : Leaf R → Prop
  | .term t => t.needed = .docs
  | .whitelist _ | .raw _ | .always | .never => True
  | _ => False

namespace Query

variable {R : Type} [Scalar R] {segment : Segment}

/-- The second query runs where the first one does, and finds at least as much. -/
structure Widens (segment : Segment) (q q' : Query R) : Prop where
  runs : Runs segment q → Runs segment q'
  finds : ∀ d, Finds segment q d → Finds segment q' d

lemma Widens.refl (q : Query R) : Widens segment q q := ⟨id, fun _ => id⟩

lemma Widens.trans {p q r : Query R} (first : Widens segment p q) (second : Widens segment q r) :
    Widens segment p r :=
  ⟨fun runs => second.runs (first.runs runs), fun d finds => second.finds d (first.finds d finds)⟩

/-- A query that cannot be run has nothing to lose. -/
lemma Widens.of_not_runs {q q' : Query R} (not : ¬Runs segment q) : Widens segment q q' :=
  ⟨fun runs => absurd runs not, fun _ finds => absurd finds.runs not⟩

/-! ## Equal queries -/

section Equality

omit [Scalar R]

variable [BEq R]

lemma beq_operator {j : Junction} {op : Operator R} (same : (j.operator == op) = true) :
    op = j.operator := by
  cases j <;> cases op <;> first | rfl | cases same

end Equality

/-- Equal leaves have the same walk. -/
lemma ofLeaf_of_beq {l k : Leaf R} {w : Walk} (same : (l == k) = true)
    (made : Walk.ofLeaf segment l = .ok w) : Walk.ofLeaf segment k = .ok w := by
  change Leaf.beq l k = true at same
  cases l with
  | constScore | constCount | lengths => cases made
  | term t =>
    cases k with
    | term t' =>
      cases eq_of_beq (show (t == t') = true from same)
      exact made
    | _ => cases same
  | constBool b =>
    cases k with
    | constBool b' =>
      cases eq_of_beq (show (b == b') = true from same)
      exact made
    | _ => cases same
  | whitelist l =>
    cases k with
    | whitelist l' =>
      cases eq_of_beq (show (l == l') = true from same)
      exact made
    | _ => cases same
  | raw q =>
    cases k with
    | raw q' =>
      cases eq_of_beq (show (q == q') = true from same)
      exact made
    | _ => cases same
  | always | never =>
    cases k with
    | always | never =>
      first | exact made | cases same
    | _ => cases same

mutual

/-- Equal candidate queries have the same walk. -/
theorem ofQuery_of_beq {w : Walk} : (q q' : Query R) → (q == q') = true →
    Walk.ofQuery segment q = .ok w → Walk.ofQuery segment q' = .ok w
  | .leaf l, q', same, made => by
    cases q' with
    | leaf k => exact ofLeaf_of_beq (l := l) same made
    | _ => cases same
  | .modify m c, _, _, made => nomatch made
  | .join op cs, q', same, made => by
    cases q' with
    | join op' cs' =>
      obtain ⟨same, sameAll⟩ :=
        Bool.and_eq_true_iff.mp (show (op == op' && beqAll cs cs') = true from same)
      cases op with
      | and =>
        cases beq_operator (j := .and) same
        obtain ⟨ws, made', made⟩ := bind_eq_ok made
        cases made
        rw [Junction.operator, Walk.ofQuery, ofQueries_of_beq cs cs' sameAll made']
        rfl
      | or =>
        cases beq_operator (j := .or) same
        obtain ⟨ws, made', made⟩ := bind_eq_ok made
        cases made
        rw [Junction.operator, Walk.ofQuery, ofQueries_of_beq cs cs' sameAll made']
        rfl
      | _ => cases made
    | _ => cases same
  | .require c v, q', same, made => by
    cases q' with
    | require c' v' =>
      obtain ⟨sameCond, sameValue⟩ :=
        Bool.and_eq_true_iff.mp (show (Query.beq c c' && Query.beq v v') = true from same)
      obtain ⟨w, cond, made⟩ := bind_eq_ok made
      obtain ⟨w', value, made⟩ := bind_eq_ok made
      cases made
      rw [Walk.ofQuery, ofQuery_of_beq c c' sameCond cond, ofQuery_of_beq v v' sameValue value]
      rfl
    | _ => cases same

theorem ofQueries_of_beq {ws : List Walk} : (cs cs' : List (Query R)) → beqAll cs cs' = true →
    Walk.ofQueries segment cs = .ok ws → Walk.ofQueries segment cs' = .ok ws
  | [], cs', same, made => by
    cases cs' with
    | nil => exact made
    | cons => cases same
  | c :: cs, cs', same, made => by
    cases cs' with
    | nil => cases same
    | cons c' cs' =>
      obtain ⟨sameFirst, sameRest⟩ :=
        Bool.and_eq_true_iff.mp (show (Query.beq c c' && beqAll cs cs') = true from same)
      obtain ⟨w, first, made⟩ := bind_eq_ok made
      obtain ⟨ws, rest, made⟩ := bind_eq_ok made
      cases made
      rw [Walk.ofQueries, ofQuery_of_beq c c' sameFirst first, ofQueries_of_beq cs cs' sameRest rest]
      rfl

end

/-! ## One node -/

section Node

variable {j : Junction} {cs cs' : List (Query R)}

/-- A boolean node may be given other members if each new one widens an old one and the other way
round. -/
lemma join_widens (indexed : segment.Indexed)
    (back : ∀ c' ∈ cs', ∃ c ∈ cs, Widens segment c c')
    (forth : ∀ c ∈ cs, ∃ c' ∈ cs', Widens segment c c') :
    Widens segment (.join j.operator cs) (.join j.operator cs') := by
  have runs : (∀ c ∈ cs, Runs segment c) → ∀ c' ∈ cs', Runs segment c' := by
    intro runs c' mem
    obtain ⟨c, mem', widens⟩ := back c' mem
    exact widens.runs (runs c mem')
  refine ⟨fun h => runs_join.mpr (runs (runs_join.mp h)), fun d finds => ?_⟩
  cases j with
  | and =>
    obtain ⟨ne, all⟩ := (finds_and indexed).mp finds
    refine (finds_and indexed).mpr ⟨?_, fun c' mem => ?_⟩
    · obtain ⟨c, mem⟩ := List.exists_mem_of_ne_nil cs ne
      obtain ⟨c', mem', _⟩ := forth c mem
      exact List.ne_nil_of_mem mem'
    · obtain ⟨c, mem', widens⟩ := back c' mem
      exact widens.finds d (all c mem')
  | or =>
    obtain ⟨h, c, mem, finds⟩ := (finds_or indexed).mp finds
    obtain ⟨c', mem', widens⟩ := forth c mem
    exact (finds_or indexed).mpr ⟨runs h, c', mem', widens.finds d finds⟩

/-- Flattening a boolean node keeps what it finds. -/
lemma splice_widens (indexed : segment.Indexed) :
    Widens segment (.join j.operator cs) (.join j.operator (j.splice cs).value) := by
  rw [Junction.splice_value]
  have runs : (∀ c ∈ cs, Runs segment c) →
      ∀ c' ∈ cs.flatMap fun c => (j.members? c).getD [c], Runs segment c' := by
    intro runs c' mem
    obtain ⟨c, mem, mem'⟩ := List.mem_flatMap.mp mem
    cases e : j.members? c with
    | none =>
      rw [e] at mem'
      have same : c' = c := List.mem_singleton.mp mem'
      rw [same]
      exact runs c mem
    | some inner =>
      rw [e] at mem'
      exact runs_join.mp (Junction.members?_eq_some e ▸ runs c mem) c' mem'
  refine ⟨fun h => runs_join.mpr (runs (runs_join.mp h)), fun d finds => ?_⟩
  cases j with
  | and =>
    obtain ⟨ne, all⟩ := (finds_and indexed).mp finds
    -- what is put in place of a member is not empty, and finds what the member finds
    have each : ∀ c ∈ cs, ((Junction.and.members? c).getD [c]) ≠ [] ∧
        ∀ c' ∈ (Junction.and.members? c).getD [c], Finds segment c' d := by
      intro c mem
      have finds := all c mem
      cases e : Junction.and.members? c with
      | none =>
        refine ⟨List.cons_ne_nil _ [], fun c' mem => ?_⟩
        cases List.mem_singleton.mp mem
        exact finds
      | some inner => exact (finds_and indexed).mp (Junction.members?_eq_some e ▸ finds)
    refine (finds_and indexed).mpr ⟨fun nil => ?_, fun c' mem => ?_⟩
    · obtain ⟨c, mem⟩ := List.exists_mem_of_ne_nil cs ne
      exact (each c mem).1 (List.flatMap_eq_nil_iff.mp nil c mem)
    · obtain ⟨c, mem, mem'⟩ := List.mem_flatMap.mp mem
      exact (each c mem).2 c' mem'
  | or =>
    obtain ⟨h, c, mem, finds⟩ := (finds_or indexed).mp finds
    refine (finds_or indexed).mpr ⟨runs h, ?_⟩
    cases e : Junction.or.members? c with
    | none =>
      have mem' : c ∈ (Junction.or.members? c).getD [c] := by
        rw [e]
        exact List.mem_singleton_self c
      exact ⟨c, List.mem_flatMap.mpr ⟨c, mem, mem'⟩, finds⟩
    | some inner =>
      obtain ⟨_, c', mem', finds⟩ := (finds_or indexed).mp (Junction.members?_eq_some e ▸ finds)
      exact ⟨c', List.mem_flatMap.mpr ⟨c, mem, by rw [e]; exact mem'⟩, finds⟩

/-- Dropping members that equal another keeps what a node finds. -/
lemma distinct_widens (indexed : segment.Indexed) :
    Widens segment (.join j.operator cs) (.join j.operator (Junction.distinct [] cs).value) := by
  obtain ⟨back, _, forth⟩ := Junction.distinct_spec [] cs
  refine join_widens indexed (fun c mem => ?_) fun c mem => ?_
  · exact ⟨c, (back c mem).resolve_left List.not_mem_nil, .refl c⟩
  · obtain ⟨k, mem', same⟩ := forth c mem
    refine ⟨k, mem', ?_⟩
    rcases same with rfl | same
    · exact .refl k
    · refine ⟨fun ⟨w, made⟩ => ⟨w, ofQuery_of_beq c k same made⟩, fun d ⟨w, made, o⟩ => ?_⟩
      exact ⟨w, ofQuery_of_beq c k same made, o⟩

/-- A conjunction with a member that finds nothing finds nothing; a disjunction with a member that
finds everything may as well be that member. -/
lemma absorbing_widens (indexed : segment.Indexed) (decided : cs.contains j.absorbing = true) :
    Widens segment (.join j.operator cs) j.absorbing := by
  obtain ⟨k, mem, same⟩ := List.contains_iff_exists_mem_beq.mp decided
  rw [eq_absorbing_of_beq same] at mem
  cases j with
  | and =>
    refine ⟨fun _ => runs_never, fun d finds => ?_⟩
    exact absurd (((finds_and indexed).mp finds).2 never mem) not_finds_never
  | or => exact ⟨fun _ => runs_always, fun d finds => finds_always.mpr (finds.lt_size indexed)⟩

/-- Members that do not matter may be dropped. -/
lemma withoutIdentity_widens (indexed : segment.Indexed) :
    Widens segment (.join j.operator cs) (j.withoutIdentity cs).value := by
  rw [Junction.withoutIdentity]
  split
  · next only =>
    obtain ⟨_, only⟩ := Bool.and_eq_true_iff.mp only
    have each : ∀ c ∈ cs, c = j.identity :=
      fun c mem => eq_identity_of_beq (List.all_eq_true.mp only c mem)
    cases j with
    | and => exact ⟨fun _ => runs_always, fun d finds => finds_always.mpr (finds.lt_size indexed)⟩
    | or =>
      refine ⟨fun _ => runs_never, fun d finds => ?_⟩
      obtain ⟨_, c, mem, finds⟩ := (finds_or indexed).mp finds
      rw [each c mem] at finds
      exact absurd finds not_finds_never
  · next other =>
    have kept : ∀ c ∈ cs.filter (· != j.identity), c ∈ cs := fun c mem => (List.mem_filter.mp mem).1
    have runs : (∀ c ∈ cs, Runs segment c) → ∀ c ∈ cs.filter (· != j.identity), Runs segment c :=
      fun runs c mem => runs c (kept c mem)
    refine ⟨fun h => runs_join.mpr (runs (runs_join.mp h)), fun d finds => ?_⟩
    cases j with
    | and =>
      obtain ⟨ne, all⟩ := (finds_and indexed).mp finds
      refine (finds_and indexed).mpr ⟨fun nil => other ?_, fun c mem => all c (kept c mem)⟩
      have every : ∀ c ∈ cs, (c == Junction.and.identity) = true := by
        intro c mem
        have dropped := List.filter_eq_nil_iff.mp nil c mem
        rwa [bne, Bool.not_eq_true', Bool.not_eq_false] at dropped
      rw [Bool.and_eq_true_iff, Bool.not_eq_true', List.isEmpty_eq_false_iff]
      exact ⟨ne, List.all_eq_true.mpr every⟩
    | or =>
      obtain ⟨h, c, mem, finds⟩ := (finds_or indexed).mp finds
      refine (finds_or indexed).mpr ⟨runs h, c, List.mem_filter.mpr ⟨mem, ?_⟩, finds⟩
      rw [bne, Bool.not_eq_true']
      by_contra same
      rw [Bool.not_eq_false] at same
      rw [eq_identity_of_beq same] at finds
      exact not_finds_never finds

/-- The rules for one boolean node keep what it finds. -/
lemma simplifyNode_widens (indexed : segment.Indexed) (members : Simplified (List (Query R))) :
    Widens segment (.join j.operator members.value) (j.simplify members).value := by
  have flat : Widens segment (.join j.operator members.value)
      (.join j.operator (j.splice members.value).value) := splice_widens indexed
  have once := flat.trans (distinct_widens indexed)
  rw [Junction.simplify]
  dsimp only
  split
  · next decided => exact once.trans (absorbing_widens indexed decided)
  · exact once.trans (withoutIdentity_widens indexed)

end Node

/-! ## Boolean queries -/

section Boolean

omit [Scalar R]

lemma leafCandidates_boolean (l : Leaf R) :
    Everywhere (fun _ => BooleanOver Leaf.IsCandidate) .docs (leafCandidates l) := by
  cases l with
  | term => exact .leaf rfl
  | constBool b => cases b <;> exact .leaf trivial
  | _ => exact .leaf trivial

mutual

/-- Candidate queries are boolean. -/
theorem candidates_boolean : (q : Query R) →
    Everywhere (fun _ => BooleanOver Leaf.IsCandidate) .docs q.candidates
  | .leaf l => leafCandidates_boolean l
  | .modify m c => by
    cases m with
    | alwaysMatch => exact .leaf trivial
    | _ => exact candidates_boolean c
  | .join op cs => by
    rw [candidates]
    split
    · exact .join ⟨.and, rfl⟩ (candidatesAll_boolean cs)
    · exact .join ⟨.or, rfl⟩ (candidatesAll_boolean cs)
  | .require c v => .require trivial (candidates_boolean c) (.leaf trivial)

theorem candidatesAll_boolean : (cs : List (Query R)) →
    ∀ c ∈ candidatesAll cs, Everywhere (fun _ => BooleanOver Leaf.IsCandidate) .docs c
  | [] => List.forall_mem_nil _
  | c :: cs => List.forall_mem_cons.mpr ⟨candidates_boolean c, candidatesAll_boolean cs⟩

end

end Boolean

/-! ## Whole queries -/

lemma not_runs_modify {m : Modifier R} {c : Query R} : ¬Runs segment (.modify m c) := nofun

lemma not_runs_join {op : Operator R} {cs : List (Query R)}
    (other : ∀ j : Junction, op ≠ j.operator) :
    ¬Runs segment (.join op cs) := by
  cases op with
  | and => exact absurd rfl (other .and)
  | or => exact absurd rfl (other .or)
  | _ => exact nofun

mutual

/-- Only boolean queries over leaves that can be run can be run. -/
theorem Runs.boolean : (q : Query R) → Runs segment q →
    Everywhere (fun _ => BooleanOver fun l => Runs segment (.leaf l)) .docs q
  | .leaf l, runs => .leaf runs
  | .modify m c, runs => absurd runs not_runs_modify
  | .join op cs, runs => by
    rcases Junction.operator_cases op with ⟨j, rfl⟩ | other
    · refine .join ⟨j, rfl⟩ ?_
      rw [Junction.childNeed_operator]
      exact Runs.booleanAll cs (runs_join.mp runs)
    · exact absurd runs (not_runs_join other)
  | .require c v, runs => by
    obtain ⟨cond, value⟩ := runs_require.mp runs
    exact .require trivial (Runs.boolean c cond) (Runs.boolean v value)

theorem Runs.booleanAll : (cs : List (Query R)) → (∀ c ∈ cs, Runs segment c) →
    ∀ c ∈ cs, Everywhere (fun _ => BooleanOver fun l => Runs segment (.leaf l)) .docs c
  | [], _ => List.forall_mem_nil _
  | c :: cs, runs => by
    obtain ⟨first, rest⟩ := List.forall_mem_cons.mp runs
    exact List.forall_mem_cons.mpr ⟨Runs.boolean c first, Runs.booleanAll cs rest⟩

end

lemma runs_of_boolean {need : Need} {q : Query R}
    (boolean : Everywhere (fun _ => BooleanOver fun l => Runs segment (.leaf l)) need q) :
    Runs segment q := by
  induction boolean with
  | leaf runs => exact runs
  | modify not => exact not.elim
  | join operator _ ih =>
    obtain ⟨j, rfl⟩ := operator
    exact runs_join.mpr ih
  | require _ _ _ ihc ihv => exact runs_require.mpr ⟨ihc, ihv⟩

/-- A query that can be run can be run when it is simplified. -/
lemma Runs.simplify {passes : Nat} {q q' : Query R} (runs : Runs segment q)
    (simple : q.simplify passes = .ok q') : Runs segment q' :=
  runs_of_boolean
    ((Runs.boolean q runs).simplify (booleanOver_lasting runs_always runs_never) simple)

mutual

/-- The boolean rules keep what a query finds. -/
theorem junctionPass_widens (indexed : segment.Indexed) : (q : Query R) →
    Widens segment q q.junctionPass.value
  | .leaf l => by
    rw [junctionPass]
    exact .refl _
  | .modify m c => .of_not_runs not_runs_modify
  | .join op cs => by
    obtain ⟨back, forth⟩ := junctionPassAll_widens indexed cs
    rcases Junction.operator_cases op with ⟨j, rfl⟩ | other
    · rw [junctionPass_junction]
      exact (join_widens indexed back forth).trans (simplifyNode_widens indexed _)
    · exact .of_not_runs (not_runs_join other)
  | .require c v => by
    have cond := junctionPass_widens indexed c
    have value := junctionPass_widens indexed v
    rw [junctionPass]
    refine ⟨fun runs => ?_, fun d finds => ?_⟩
    · obtain ⟨h, h'⟩ := runs_require.mp runs
      exact runs_require.mpr ⟨cond.runs h, value.runs h'⟩
    · obtain ⟨h, h'⟩ := (finds_require indexed).mp finds
      exact (finds_require indexed).mpr ⟨cond.finds d h, value.finds d h'⟩

theorem junctionPassAll_widens (indexed : segment.Indexed) : (cs : List (Query R)) →
    (∀ c' ∈ (junctionPassAll cs).value, ∃ c ∈ cs, Widens segment c c') ∧
      ∀ c ∈ cs, ∃ c' ∈ (junctionPassAll cs).value, Widens segment c c'
  | [] => ⟨nofun, nofun⟩
  | c :: cs => by
    have first := junctionPass_widens indexed c
    obtain ⟨back, forth⟩ := junctionPassAll_widens indexed cs
    rw [junctionPassAll]
    constructor
    · refine List.forall_mem_cons.mpr ⟨⟨c, List.mem_cons_self, first⟩, fun c' mem => ?_⟩
      obtain ⟨k, mem', widens⟩ := back c' mem
      exact ⟨k, List.mem_cons_of_mem c mem', widens⟩
    · refine List.forall_mem_cons.mpr ⟨⟨_, List.mem_cons_self, first⟩, fun k mem => ?_⟩
      obtain ⟨c', mem', widens⟩ := forth k mem
      exact ⟨c', List.mem_cons_of_mem _ mem', widens⟩

end

lemma pass_widens (indexed : segment.Indexed) (q : Query R) : Widens segment q q.pass.value := by
  -- only of queries that run is it known that the rules for weights change nothing
  by_cases runs : Runs segment q
  · rw [pass, weightPass_eq (Runs.boolean q runs)]
    exact junctionPass_widens indexed q
  · exact .of_not_runs runs

/-- What a simplified candidate query finds is at least what the query found. -/
theorem simplify_widens (indexed : segment.Indexed) {passes : Nat} {q q' : Query R}
    (simple : q.simplify passes = .ok q') : Widens segment q q' :=
  settle?_induction (fun r widens => widens.trans (pass_widens indexed r)) (.refl q)
    (settled_of_simplify simple)

end Query

end Retrieval
