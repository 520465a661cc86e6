import Retrieval.Proofs.Candidates.Coverage
import Retrieval.Proofs.Candidates.Iteration
import Retrieval.Proofs.Evaluation.Freshness
import Retrieval.Proofs.Evaluation.Simplification

/-!
# Preparing candidate queries

The candidates of any query can be prepared, in a single pass, and are still made of the few kinds of
nodes that walks are for. Wherever the query compiles, its candidates can be run as they are and as
they are prepared (`Session.compile_grants`). Both walks go through the same documents, unless an
operator of the query that joins its children by conjunction has none (`Query.simpleCandidates_spec`):
what a candidate query finds matches it (`Query.matched_of_finds`), simplification keeps what matches,
and what matches the candidates is found by them (`Query.finds_of_matched`).
-/

namespace Retrieval

/-! ## Walks that offer the same -/

namespace Walk

variable {w w' : Walk}

/-- Sound walks that offer the same documents are on the same one. -/
lemma Sound.doc_congr (sound : w.Sound) (sound' : w'.Sound)
    (same : ∀ d, w.Offers d ↔ w'.Offers d) : w.doc = w'.doc := by
  have first := sound.enumerates.first
  rw [show {d | w.Offers d} = {d | w'.Offers d} from Set.ext same] at first
  exact first.unique sound'.enumerates.first

lemma Sound.next_congr (sound : w.Sound) (sound' : w'.Sound)
    (same : ∀ d, w.Offers d ↔ w'.Offers d) (target d : Nat) :
    (w.next target).Offers d ↔ (w'.next target).Offers d := by
  rw [sound.offers_next, sound'.offers_next, same]

/-- Calls with the same targets take them to the same document. -/
lemma Sound.after_congr (sound : w.Sound) (sound' : w'.Sound)
    (same : ∀ d, w.Offers d ↔ w'.Offers d) (targets : List Nat) :
    (w.after targets).doc = (w'.after targets).doc := by
  induction targets generalizing w w' with
  | nil => exact sound.doc_congr sound' same
  | cons target targets ih =>
    exact ih (sound.next target) (sound'.next target) (sound.next_congr sound' same target)

/-- They go through the same documents. -/
lemma Sound.visits_congr (sound : w.Sound) (target : Nat) : ∀ w' : Walk, w'.Sound →
    (∀ d, w.Offers d ↔ w'.Offers d) → w.visits target = w'.visits target := by
  induction target, w using Walk.visits.induct with
  | case1 target w moved last =>
    intro w' sound' same
    have doc := (sound.next target).doc_congr (sound'.next target)
      (sound.next_congr sound' same target)
    rw [visits, if_pos last, visits, ← doc, if_pos last]
  | case2 target w moved more ih =>
    intro w' sound' same
    have offers := sound.next_congr sound' same target
    have doc := (sound.next target).doc_congr (sound'.next target) offers
    have rest := ih (sound.next target) (w'.next target) (sound'.next target) offers
    rw [visits, if_neg more, rest]
    conv_rhs => rw [visits, ← doc, if_neg more]

end Walk

/-! ## Candidates that match -/

namespace Query

variable {R : Type} [Scalar R] {segment : Segment} {fallback : String} {d : Nat}

/-- What matches nowhere goes with the walk that offers nothing. -/
lemma never_iff : false = true ↔ Walk.never.Offers d :=
  iff_of_false Bool.false_ne_true fun offers => by cases offers

/-- A term matches the documents that a walk over its postings offers. -/
lemma matched_ofPostings_iff (indexed : segment.Indexed) {text field : String} {needed : Need}
    {found : Option Postings} (opened : segment.cursor text field needed = .ok found)
    (inside : d < segment.size) :
    (Facts.ofPostings (found.bind (·.at? d))).matched = true ↔ (Walk.ofPostings found).Offers d := by
  cases found with
  | none => exact never_iff
  | some p =>
    have rising := (indexed.cursor opened).1
    have found : (Facts.ofPostings (p.at? d)).matched = (p.at? d).isSome := by
      cases p.at? d <;> rfl
    rw [Option.bind_some, Walk.ofPostings, Walk.offers_term, found]
    refine ⟨Postings.mem_of_isSome_at? (inside.trans_le indexed.fits), ?_⟩
    rintro ⟨q, mem, rfl⟩
    exact rising.isSome_at? mem

/-- A leaf matches the documents that its walk offers. -/
lemma matched_leaf_iff (indexed : segment.Indexed) {l : Leaf R} {w : Walk}
    (made : Walk.ofLeaf segment l = .ok w) (inside : d < segment.size) :
    (l.facts ⟨segment, fallback, d⟩).matched = true ↔ w.Offers d := by
  cases l with
  | term t =>
    obtain ⟨field, counted, made⟩ := bind_eq_ok made
    obtain ⟨found, opened, made⟩ := bind_eq_ok made
    cases made
    rw [← matched_ofPostings_iff indexed opened inside, Leaf.facts, Leaf.found, counted]
    change (Facts.ofPostings ((segment.cursor t.text field .docs).toOption.join.bind _)).matched = _ ↔ _
    rw [opened]
    rfl
  | raw text =>
    obtain ⟨found, opened, made⟩ := bind_eq_ok made
    cases made
    have facts : Leaf.facts (R := R) ⟨segment, fallback, d⟩ (.raw text) =
        .ofPostings (found.bind (·.at? d)) := by
      rw [Leaf.facts, Leaf.found, opened]
      rfl
    rw [facts]
    rw [Segment.rawCursor] at opened
    split at opened
    · exact matched_ofPostings_iff indexed opened inside
    · cases opened
  | whitelist list =>
    obtain ⟨ids, within, made⟩ := bind_eq_ok made
    cases made
    rw [Walk.offers_ofList, Leaf.facts, within]
    exact List.contains_iff_mem
  | always =>
    cases made
    exact ⟨fun _ => Walk.offers_ofSize.mpr inside, fun _ => rfl⟩
  | never =>
    cases made
    exact never_iff
  | constBool b =>
    cases made
    cases b with
    | true => exact ⟨fun _ => Walk.offers_ofSize.mpr inside, fun _ => rfl⟩
    | false => exact never_iff
  | _ => cases made

omit [Scalar R] in
lemma matched_and_iff {spot : Spot} {cs : List (Query R)} :
    ((and cs).facts spot).matched = true ↔ ∀ c ∈ cs, (c.facts spot).matched = true := by
  change (factsAll spot cs).all Facts.matched = true ↔ _
  rw [factsAll_eq_map, List.all_map, List.all_eq_true]
  exact Iff.rfl

omit [Scalar R] in
lemma matched_or_iff {spot : Spot} {cs : List (Query R)} :
    ((or cs).facts spot).matched = true ↔ ∃ c ∈ cs, (c.facts spot).matched = true := by
  change (factsAll spot cs).any Facts.matched = true ↔ _
  rw [factsAll_eq_map, List.any_map, List.any_eq_true]
  exact Iff.rfl

omit [Scalar R] in
lemma matched_require {spot : Spot} {c v : Query R} :
    ((require c v).facts spot).matched = (c.facts spot).matched := by
  rw [facts, Facts.require]
  cases (c.facts spot).matched <;> rfl

mutual

/-- What a candidate query finds matches it. -/
theorem matched_of_finds (indexed : segment.Indexed) : (q : Query R) → Finds segment q d →
    (q.facts ⟨segment, fallback, d⟩).matched = true
  | .leaf l, ⟨w, made, offers⟩ =>
    (matched_leaf_iff indexed made (Finds.lt_size indexed ⟨w, made, offers⟩)).mpr offers
  | .modify m c, finds => absurd finds.runs not_runs_modify
  | .join op cs, finds => by
    have each := matchedAll_of_finds indexed cs
    rcases Junction.operator_cases op with ⟨j, rfl⟩ | other
    · cases j with
      | and =>
        obtain ⟨_, all⟩ := (finds_and indexed).mp finds
        exact matched_and_iff.mpr fun c mem => each c mem (all c mem)
      | or =>
        obtain ⟨_, c, mem, found⟩ := (finds_or indexed).mp finds
        exact matched_or_iff.mpr ⟨c, mem, each c mem found⟩
    · exact absurd finds.runs (not_runs_join other)
  | .require c v, finds => by
    rw [matched_require]
    exact matched_of_finds indexed c ((finds_require indexed).mp finds).1

theorem matchedAll_of_finds (indexed : segment.Indexed) : (cs : List (Query R)) →
    ∀ c ∈ cs, Finds segment c d → (c.facts ⟨segment, fallback, d⟩).matched = true
  | [] => List.forall_mem_nil _
  | c :: cs => List.forall_mem_cons.mpr
    ⟨matched_of_finds indexed c, matchedAll_of_finds indexed cs⟩

end

/-- No operator that asks for all its children has none. -/
def NoEmptyConjunctive (q : Query R) : Prop :=
  ∀ op : Operator R, isConjunctive op → .join op [] ∉ q.nodes

omit [Scalar R] in
lemma NoEmptyConjunctive.child {q c : Query R} (full : q.NoEmptyConjunctive)
    (mem : c ∈ q.children) : c.NoEmptyConjunctive :=
  fun op conjunctive empty => full op conjunctive (nodes_subset mem empty)

omit [Scalar R] in
lemma exists_leafCandidates_eq (l : Leaf R) : ∃ k, leafCandidates l = .leaf k := by
  cases l with
  | constBool b => cases b <;> exact ⟨_, rfl⟩
  | _ => exact ⟨_, rfl⟩

mutual

/-- A document that matches the candidates of a query is found by them. -/
theorem finds_of_matched (indexed : segment.Indexed) (inside : d < segment.size) : (q : Query R) →
    Runs segment q.candidates → q.NoEmptyConjunctive →
      (q.candidates.facts ⟨segment, fallback, d⟩).matched = true → Finds segment q.candidates d
  | .leaf l, runs, _, hit => by
    obtain ⟨k, same⟩ := exists_leafCandidates_eq l
    rw [candidates, same] at runs hit ⊢
    obtain ⟨w, made⟩ := runs
    exact ⟨w, made, (matched_leaf_iff indexed made inside).mp hit⟩
  | .modify m c, runs, full, hit => by
    cases m with
    | alwaysMatch => exact finds_always.mpr inside
    | _ => exact finds_of_matched indexed inside c runs (full.child (List.mem_singleton_self c)) hit
  | .join op cs, runs, full, hit => by
    have each := findsAll_of_matched indexed inside cs
    rw [candidates, candidatesAll_eq_map] at runs hit ⊢
    split at runs
    · next conjunctive =>
      rw [if_pos conjunctive] at hit ⊢
      have runs := List.forall_mem_map.mp ((runs_join (j := .and)).mp runs)
      have hit := List.forall_mem_map.mp (matched_and_iff.mp hit)
      refine (finds_and indexed).mpr ⟨fun nil => ?_, List.forall_mem_map.mpr fun c mem => ?_⟩
      · exact full op conjunctive (List.map_eq_nil_iff.mp nil ▸ List.mem_cons_self)
      · exact each c mem (runs c mem) (full.child mem) (hit c mem)
    · next alternative =>
      rw [if_neg alternative] at hit ⊢
      have runs := (runs_join (j := .or)).mp runs
      obtain ⟨_, mem', hit⟩ := matched_or_iff.mp hit
      obtain ⟨c, mem, rfl⟩ := List.mem_map.mp mem'
      exact (finds_or indexed).mpr ⟨runs, _, mem', each c mem (runs _ mem') (full.child mem) hit⟩
  | .require c v, runs, full, hit => by
    rw [candidates] at runs hit ⊢
    rw [matched_require] at hit
    have found := finds_of_matched indexed inside c (runs_require.mp runs).1
      (full.child List.mem_cons_self) hit
    exact (finds_require indexed).mpr ⟨found, finds_always.mpr inside⟩

theorem findsAll_of_matched (indexed : segment.Indexed) (inside : d < segment.size) :
    (cs : List (Query R)) → ∀ c ∈ cs, Runs segment c.candidates → c.NoEmptyConjunctive →
      (c.candidates.facts ⟨segment, fallback, d⟩).matched = true → Finds segment c.candidates d
  | [] => List.forall_mem_nil _
  | c :: cs => List.forall_mem_cons.mpr
    ⟨finds_of_matched indexed inside c, findsAll_of_matched indexed inside cs⟩

end

/-- Simplified candidates find what the candidates find. -/
lemma finds_simplify_iff (indexed : segment.Indexed) {q simple : Query R} {passes : Nat}
    (simplified : q.candidates.simplify passes = .ok simple) (runs : Runs segment q.candidates)
    (full : q.NoEmptyConjunctive) : Finds segment q.candidates d ↔ Finds segment simple d := by
  refine ⟨(simplify_widens indexed simplified).finds d, fun finds => ?_⟩
  -- a requirement matches where its condition does, but finds only what its value finds as well; so it
  -- is only of the candidates as they were that what matches them is found
  have hit : (simple.facts ⟨segment, "", d⟩).matched = true :=
    matched_of_finds indexed simple finds
  rw [← facts_simplify simplified] at hit
  exact finds_of_matched indexed (finds.lt_size indexed) q runs full hit

end Query

/-! ## Queries that compile -/

namespace Session

open Query

variable {R α β : Type}

/-- If the step succeeds from `s`, it has kept the segment, and `holds`. -/
def Grants (s : Session R) (step : Compile R α) (holds : Prop) : Prop :=
  ∀ a s', run step s = (.ok a, s') → s'.segment = s.segment ∧ holds

namespace Grants

variable {s : Session R} {between holds : Prop}

lemma pure (a : α) (h : holds) : Grants s (Pure.pure a) holds := by
  intro a' s' ran
  cases ran
  exact ⟨rfl, h⟩

lemma get_bind {next : Session R → Compile R α} (rest : Grants s (next s) holds) :
    Grants s (get >>= next) holds := rest

lemma ofExcept_bind {result : Except Fault β} {next : β → Compile R α}
    (rest : ∀ b, result = .ok b → Grants s (next b) holds) :
    Grants s (ofExcept result >>= next) holds := by
  cases result with
  | error e => exact nofun
  | ok b => exact rest b rfl

/-- The second of two steps begins in the same segment. -/
lemma bind {step : Compile R β} {next : β → Compile R α} (first : Grants s step between)
    (rest : ∀ b s', s'.segment = s.segment → between → Grants s' (next b) holds) :
    Grants s (step >>= next) holds := by
  intro a s' ran
  obtain ⟨b, s'', ran₁, ran₂⟩ := run_bind_eq_ok ran
  obtain ⟨same₁, h⟩ := first b s'' ran₁
  obtain ⟨same₂, h'⟩ := rest b s'' same₁ h a s' ran₂
  exact ⟨same₂.trans same₁, h'⟩

end Grants

variable {s : Session R} {holds : Prop}

/-- A step that keeps the segment grants whatever holds already. -/
lemma newTerm_grants (label : String) (needed : Need) (found : Option Postings) (h : holds) :
    Grants s (newTerm label needed found) holds := by
  intro p s' ran
  cases found with
  | none | some =>
    cases ran
    exact ⟨rfl, h⟩

lemma term_grants (text field : String) (needed : Need) (h : holds) :
    Grants s (term text field needed) holds := by
  apply Grants.get_bind
  dsimp only
  split
  · exact .pure _ h
  · refine .ofExcept_bind fun found _ => .bind (newTerm_grants _ _ found h) fun leaf s' _ _ => ?_
    split
    · intro p s'' ran
      cases ran
      exact ⟨rfl, h⟩
    · exact .pure _ h

lemma joint_grants (op : Operator R) (children : Nat) (h : holds) :
    Grants s (joint op children) holds := by
  intro j s' ran
  cases op with
  | multi names =>
    rw [joint] at ran
    split at ran
    · cases ran
      exact ⟨rfl, h⟩
    · cases ran
  | _ =>
    cases ran
    exact ⟨rfl, h⟩

variable [Scalar R]

/-- A leaf compiles only where its candidates can be run. -/
lemma leaf_grants (l : Leaf R) : Grants s (leaf l) (Runs s.segment (candidates (.leaf l))) := by
  apply Grants.get_bind
  cases l with
  | term t =>
    refine .ofExcept_bind fun field counted => term_grants t.text field t.needed ?_
    obtain ⟨found, opened⟩ : ∃ found, s.segment.cursor t.text field .docs = .ok found := ⟨_, rfl⟩
    refine ⟨Walk.ofPostings found, ?_⟩
    change (do return Walk.ofPostings (← s.segment.cursor t.text (← t.countedField) .docs)) = _
    rw [counted]
    change (do return Walk.ofPostings (← s.segment.cursor t.text field .docs)) = _
    rw [opened]
    rfl
  | whitelist list =>
    refine .ofExcept_bind fun ids within => .pure _ ⟨Walk.ofList ids, ?_⟩
    change (do return Walk.ofList (← idsWithin s.segment list)) = _
    rw [within]
    rfl
  | raw text =>
    refine .ofExcept_bind fun found opened => ?_
    have runs : Runs s.segment (candidates (R := R) (.leaf (.raw text))) := by
      refine ⟨Walk.ofPostings found, ?_⟩
      change (do return Walk.ofPostings (← s.segment.rawCursor text)) = _
      rw [opened]
      rfl
    cases found with
    | none => exact .pure _ runs
    | some p => exact newTerm_grants _ _ (some p) runs
  | constBool b =>
    refine .pure _ ?_
    cases b
    · exact runs_never
    · exact runs_always
  | lengths | constCount | always => exact .pure _ runs_always
  | constScore | never => exact .pure _ runs_never

lemma adapter_grants (m : Modifier R) (child : Query R) (h : holds) :
    Grants s (adapter m child) holds := by
  cases m with
  | scorer model stats =>
    exact .ofExcept_bind fun _ _ => .get_bind <| .ofExcept_bind fun _ _ => .pure _ h
  | _ => exact .pure _ h

mutual

/-- A query compiles only where its candidates can be run. -/
theorem plan_grants {s : Session R} : (q : Query R) → Grants s (plan q) (Runs s.segment q.candidates)
  | .leaf l => leaf_grants l
  | .modify m c => by
    refine .bind (adapter_grants m c trivial) fun a s' same _ => ?_
    refine .bind (plan_grants c) fun p _ _ runs => .pure _ (runs_candidates_modify ?_)
    exact same ▸ runs
  | .join op cs => by
    refine .ofExcept_bind fun _ _ => .bind (plans_grant cs) fun ps s' _ runs => ?_
    refine .bind (joint_grants op cs.length trivial) fun j _ _ _ => ?_
    exact .pure _ (runs_candidates_join runs)
  | .require c v => by
    refine .bind (plan_grants c) fun p s' _ runs => ?_
    exact .bind (plan_grants v) fun _ _ _ _ => .pure _ (runs_candidates_require runs)

theorem plans_grant {s : Session R} : (cs : List (Query R)) →
    Grants s (plans cs) (∀ c ∈ cs, Runs s.segment c.candidates)
  | [] => .pure _ (List.forall_mem_nil _)
  | c :: cs => by
    refine .bind (plan_grants c) fun p s' same first => ?_
    refine .bind (plans_grant cs) fun ps _ _ rest => .pure _ (List.forall_mem_cons.mpr ⟨first, ?_⟩)
    exact same ▸ rest

end

/-- A query compiles only in sessions for segments where its candidates can be run. -/
theorem compile_grants (q : Query R) : Grants s (compile q) (Runs s.segment q.candidates) := by
  have records : Grants s (recordNeeds q) True := by
    intro _ s' ran
    obtain ⟨known, _, ran'⟩ | ⟨e, known, _, ran', _⟩ := recordNeeds_run q s
    · cases ran'.symm.trans ran
      exact ⟨rfl, trivial⟩
    · cases ran'.symm.trans ran
  refine records.bind fun _ s' same _ => ?_
  rw [← same]
  exact plan_grants q

end Session

/-! ## Preparation -/

namespace Query

variable {R : Type} [Scalar R]

/-- The candidates of every query can be prepared: a single pass makes of them what no further pass
changes, and that consists of terms that need no more than documents, whitelists, raw queries,
constants, boolean operators and requirements. Wherever the query compiles, in a session that may have
compiled others before, the candidates can be run, as they are and as they are prepared. If no
operator of the query that asks for all its children has none, the two walks are on the same document
after any calls, and go through the same documents. -/
theorem simpleCandidates_spec (q : Query R) {passes : Nat} (some_ : 1 ≤ passes) :
    let simple := q.candidates.pass.value
    q.simpleCandidates passes = .ok simple ∧ simple.pass = ⟨simple, false⟩ ∧
      (∀ c ∈ simple.nodes, c.BooleanOver Leaf.IsCandidate) ∧
      ∀ s : Session R, (Session.run (Session.compile q) s).1.isOk →
        ∃ w w', Walk.ofQuery s.segment q.candidates = .ok w ∧
          Walk.ofQuery s.segment simple = .ok w' ∧
          (s.segment.Indexed → q.NoEmptyConjunctive →
            (∀ targets, (w.after targets).doc = (w'.after targets).doc) ∧
              w.visits 0 = w'.visits 0) := by
  intro simple
  have boolean := candidates_boolean q
  have simplified : q.simpleCandidates passes = .ok simple := simplify_eq_pass boolean some_
  have kept : Everywhere (fun _ => BooleanOver Leaf.IsCandidate) .docs simple :=
    boolean.simplify (booleanOver_lasting trivial trivial) simplified
  refine ⟨simplified, pass_pass boolean, fun c => kept.of_mem_nodes, fun s compiles => ?_⟩
  obtain ⟨p, compiled⟩ := exists_of_isOk compiles
  have runs := (Session.compile_grants q p _ (Prod.ext compiled rfl)).2
  obtain ⟨w', made'⟩ := runs.simplify simplified
  obtain ⟨w, made⟩ := runs
  refine ⟨w, w', made, made', fun indexed full => ?_⟩
  have sound := (Walk.Fits.ofQuery indexed _ made).sound
  have sound' := (Walk.Fits.ofQuery indexed _ made').sound
  have same : ∀ d, w.Offers d ↔ w'.Offers d := by
    intro d
    rw [← finds_iff made, ← finds_iff made']
    exact finds_simplify_iff indexed simplified ⟨w, made⟩ full
  exact ⟨sound.after_congr sound' same, sound.visits_congr 0 w' sound' same⟩

/-- A phrase in the words of the index beside a conjunction that repeats a term. -/
theorem simpleCandidates_spec_nested :
    let docs : List Document := [⟨"d0", [("body", "a b")]⟩, ⟨"d1", [("body", "b")]⟩]
    let term (text : String) : Query Float :=
      .leaf (.term { text, field := some "body", needed := .positions })
    let q : Query Float := .or [
      .require (.leaf (.raw "body:b")) (.join (.orderedWindow 1) [term "a", term "b"]),
      .and [term "b", .or [term "b", .leaf .never]]]
    let simple := q.candidates.pass.value
    let s : Session Float := .ofSegment (.ofDocuments 0 docs) "body" true
    (Session.run (Session.compile q) s).1.isOk ∧ s.segment.Indexed ∧ q.NoEmptyConjunctive ∧
      q.simpleCandidates 1 = .ok simple ∧ simple.pass = ⟨simple, false⟩ ∧
        (∀ c ∈ simple.nodes, c.BooleanOver Leaf.IsCandidate) ∧
          ∃ w w', Walk.ofQuery s.segment q.candidates = .ok w ∧
            Walk.ofQuery s.segment simple = .ok w' ∧
              (∀ targets, (w.after targets).doc = (w'.after targets).doc) ∧
                w.visits 0 = w'.visits 0 := by
  intro docs term q simple s
  have compiles : (Session.run (Session.compile q) s).1.isOk = true := by decide +kernel
  have indexed : s.segment.Indexed := ⟨⟨docs, rfl⟩, by decide⟩
  have full : q.NoEmptyConjunctive := by
    intro op conjunctive empty
    simp [q, term, Query.or, Query.and, nodes, nodesAll] at empty
  obtain ⟨simplified, settled, nodes, runs⟩ := simpleCandidates_spec q (Nat.le_refl 1)
  obtain ⟨w, w', made, made', same⟩ := runs s compiles
  exact ⟨compiles, indexed, full, simplified, settled, nodes, w, w', made, made',
    same indexed full⟩

end Query

end Retrieval
