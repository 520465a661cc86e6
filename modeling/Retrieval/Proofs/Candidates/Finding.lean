import Retrieval.Candidates.Query
import Retrieval.Candidates.Run
import Retrieval.Proofs.Candidates.Enumeration
import Retrieval.Proofs.Query.Typing

/-!
# What candidate queries find

A candidate query that runs in a segment finds the documents that its walk offers. Its walk is sound
and stays within the segment (`Walk.Fits.ofQuery`), and the documents of a conjunction, disjunction
or requirement are those that all, some or both of its parts find (`Query.finds_and`,
`Query.finds_or`, `Query.finds_require`).
-/

namespace Retrieval

/-! ## Rising lists -/

/-- Dropping repetitions from an ordered list makes it rise. -/
lemma eraseDups_rising : (l : List Nat) → l.Pairwise (· ≤ ·) →
    l.eraseDups.Pairwise (· < ·) ∧ ∀ n, n ∈ l.eraseDups ↔ n ∈ l
  | [], _ => ⟨.nil, fun _ => Iff.rfl⟩
  | m :: l, ordered => by
    obtain ⟨first, ordered⟩ := List.pairwise_cons.mp ordered
    obtain ⟨rise, same⟩ := eraseDups_rising (l.filter fun n => !n == m) (ordered.filter _)
    have mem : ∀ n, n ∈ (l.filter fun n => !n == m).eraseDups ↔ n ∈ l ∧ n ≠ m := by
      intro n
      rw [same, List.mem_filter, Bool.not_eq_true', beq_eq_false_iff_ne]
    rw [List.eraseDups_cons]
    refine ⟨List.pairwise_cons.mpr ⟨fun n within => ?_, rise⟩, fun n => ?_⟩
    · obtain ⟨within, ne⟩ := (mem n).mp within
      exact Nat.lt_of_le_of_ne (first n within) ne.symm
    · rw [List.mem_cons, List.mem_cons, mem]
      by_cases e : n = m <;> simp [e]
termination_by l => l.length
decreasing_by exact Nat.lt_succ_of_le (List.length_filter_le _ _)

/-- Sorted positions rise, and no position is lost. -/
lemma sortedOnce_rising (l : List Nat) :
    (Answers.sortedOnce l).Pairwise (· < ·) ∧ ∀ n, n ∈ Answers.sortedOnce l ↔ n ∈ l := by
  have sorted : (l.mergeSort fun m n => decide (m ≤ n)).Pairwise fun m n => decide (m ≤ n) = true :=
    List.pairwise_mergeSort (fun a b c le le' => by simp at *; omega) (fun a b => by simp; omega) l
  obtain ⟨rise, same⟩ := eraseDups_rising _ (sorted.imp of_decide_eq_true)
  exact ⟨rise, fun n => (same n).trans List.mem_mergeSort⟩

/-- Rising lists with the same members are the same. -/
lemma eq_of_rising {l l' : List Nat} (rise : l.Pairwise (· < ·)) (rise' : l'.Pairwise (· < ·))
    (same : ∀ n, n ∈ l ↔ n ∈ l') : l = l' := by
  refine List.Perm.eq_of_pairwise (fun _ _ _ _ lt gt => absurd lt gt.asymm) rise rise' ?_
  exact (List.perm_ext_iff_of_nodup (rise.imp Nat.ne_of_lt) (rise'.imp Nat.ne_of_lt)).mpr same

/-- A whitelist is resolved in a segment if it has numbers. -/
lemma exists_idsWithin_iff (segment : Segment) (w : Whitelist) :
    (∃ ids, Session.idsWithin segment w = .ok ids) ↔ w.ids.isSome := by
  rw [Session.idsWithin]
  cases w.ids <;> simp

/-- The documents of a whitelist in a segment are those whose numbers it has, rebased. -/
lemma mem_idsWithin {segment : Segment} {w : Whitelist} {all ids : List Nat}
    (numbers : w.ids = some all) (within : Session.idsWithin segment w = .ok ids) {d : Nat} :
    d ∈ ids ↔ d < segment.size ∧ segment.base + d ∈ all := by
  rw [Session.idsWithin, numbers] at within
  cases within
  rw [(sortedOnce_rising _).2, List.mem_map]
  constructor
  · rintro ⟨id, mem, rfl⟩
    obtain ⟨mem, inside⟩ := List.mem_filter.mp mem
    rw [Bool.and_eq_true, decide_eq_true_eq, decide_eq_true_eq] at inside
    rw [Nat.add_sub_cancel' inside.1]
    exact ⟨by omega, mem⟩
  · rintro ⟨inside, mem⟩
    refine ⟨segment.base + d, List.mem_filter.mpr ⟨mem, ?_⟩, Nat.add_sub_cancel_left ..⟩
    rw [Bool.and_eq_true, decide_eq_true_eq, decide_eq_true_eq]
    omega

/-- The documents of a whitelist rise and lie in the segment. -/
lemma idsWithin_rising {segment : Segment} {w : Whitelist} {ids : List Nat}
    (within : Session.idsWithin segment w = .ok ids) :
    ids.Pairwise (· < ·) ∧ ∀ d ∈ ids, d < segment.size := by
  have made := within
  rw [Session.idsWithin] at made
  split at made
  · cases made
  · next all numbers =>
    cases made
    exact ⟨(sortedOnce_rising _).1, fun d mem => ((mem_idsWithin numbers within).mp mem).1⟩

/-! ## Walks within a segment -/

namespace Walk

/-- The walk is sound and offers only documents of the segment. -/
structure Fits (segment : Segment) (w : Walk) : Prop where
  sound : w.Sound
  inside : ∀ d, w.Offers d → d < segment.size

variable {R : Type} [Scalar R] {segment : Segment}

lemma Fits.never : Fits segment .never := ⟨.never, nofun⟩

lemma Fits.ofSize (fits : segment.size ≤ noMoreDocs) : Fits segment (ofSize segment.size) :=
  ⟨sound_ofSize fits, fun _ => offers_ofSize.mp⟩

lemma Fits.ofPostings (indexed : segment.Indexed) {text field : String} {needed : Need}
    {found : Option Postings} (opened : segment.cursor text field needed = .ok found) :
    Fits segment (ofPostings found) := by
  cases found with
  | none => exact .never
  | some p =>
    obtain ⟨rising, inside⟩ := indexed.cursor opened
    refine ⟨.term rising, fun d o => ?_⟩
    obtain ⟨q, mem, rfl⟩ := offers_term.mp o
    exact inside q mem

lemma Fits.all {ws : List Walk} (each : ∀ w ∈ ws, Fits segment w) : Fits segment (all ws) := by
  obtain ⟨sound, offers⟩ := all_spec fun w mem => (each w mem).sound
  refine ⟨sound, fun d o => ?_⟩
  obtain ⟨ne, all⟩ := (offers d).mp o
  obtain ⟨w, mem⟩ := List.exists_mem_of_ne_nil ws ne
  exact (each w mem).inside d (all w mem)

lemma Fits.any {ws : List Walk} (each : ∀ w ∈ ws, Fits segment w) : Fits segment (any ws) := by
  obtain ⟨sound, offers⟩ := any_spec fun w mem => (each w mem).sound
  refine ⟨sound, fun d o => ?_⟩
  obtain ⟨w, mem, o⟩ := (offers d).mp o
  exact (each w mem).inside d o

lemma Fits.ofLeaf (indexed : segment.Indexed) {l : Leaf R} {w : Walk}
    (made : ofLeaf segment l = .ok w) : Fits segment w := by
  cases l with
  | term t =>
    obtain ⟨field, _, made⟩ := bind_eq_ok made
    obtain ⟨found, opened, made⟩ := bind_eq_ok made
    cases made
    exact .ofPostings indexed opened
  | raw text =>
    obtain ⟨found, opened, made⟩ := bind_eq_ok made
    cases made
    rw [Segment.rawCursor] at opened
    split at opened
    · exact .ofPostings indexed opened
    · cases opened
  | whitelist l =>
    obtain ⟨ids, within, made⟩ := bind_eq_ok made
    cases made
    obtain ⟨rise, inside⟩ := idsWithin_rising within
    exact ⟨sound_ofList rise fun d mem => (inside d mem).trans_le indexed.fits,
      fun d o => inside d (offers_ofList.mp o)⟩
  | always =>
    cases made
    exact .ofSize indexed.fits
  | never =>
    cases made
    exact .never
  | constBool b =>
    cases made
    cases b with
    | true => exact .ofSize indexed.fits
    | false => exact .never
  | _ => cases made

mutual

/-- The walk of a candidate query is sound and stays within the segment. -/
theorem Fits.ofQuery (indexed : segment.Indexed) {w : Walk} :
    (q : Query R) → ofQuery segment q = .ok w → Fits segment w
  | .leaf l, made => .ofLeaf indexed made
  | .modify m c, made => nomatch made
  | .join op cs, made => by
    cases op with
    | and =>
      obtain ⟨ws, made', made⟩ := bind_eq_ok made
      cases made
      exact .all (ofQueries indexed cs made')
    | or =>
      obtain ⟨ws, made', made⟩ := bind_eq_ok made
      cases made
      exact .any (ofQueries indexed cs made')
    | _ => cases made
  | .require c v, made => by
    obtain ⟨w, cond, made⟩ := bind_eq_ok made
    obtain ⟨w', value, made⟩ := bind_eq_ok made
    cases made
    apply Fits.all
    intro x mem
    cases mem with
    | head => exact ofQuery indexed c cond
    | tail _ mem =>
      cases List.mem_singleton.mp mem
      exact ofQuery indexed v value

theorem Fits.ofQueries (indexed : segment.Indexed) {ws : List Walk} :
    (cs : List (Query R)) → ofQueries segment cs = .ok ws → ∀ w ∈ ws, Fits segment w
  | [], made => by
    cases made
    exact nofun
  | c :: cs, made => by
    obtain ⟨w, first, made⟩ := bind_eq_ok made
    obtain ⟨ws, rest, made⟩ := bind_eq_ok made
    cases made
    exact List.forall_mem_cons.mpr ⟨ofQuery indexed c first, ofQueries indexed cs rest⟩

end

lemma ofQueries_eq_mapM (segment : Segment) (cs : List (Query R)) :
    ofQueries segment cs = cs.mapM (ofQuery segment) := by
  induction cs with
  | nil => rfl
  | cons c cs ih => rw [ofQueries, ih, List.mapM_cons]

end Walk

namespace Query

variable {R : Type} [Scalar R] {segment : Segment}

/-! ## What is found -/

/-- The query can be run in the segment. -/
def Runs (segment : Segment) (q : Query R) : Prop := ∃ w, Walk.ofQuery segment q = .ok w

/-- The query can be run in the segment and offers the document. -/
def Finds (segment : Segment) (q : Query R) (d : Nat) : Prop :=
  ∃ w, Walk.ofQuery segment q = .ok w ∧ w.Offers d

lemma Finds.runs {q : Query R} {d : Nat} (finds : Finds segment q d) : Runs segment q :=
  finds.imp fun _ => And.left

/-- Only documents of the segment are found. -/
lemma Finds.lt_size (indexed : segment.Indexed) {q : Query R} {d : Nat} (finds : Finds segment q d) :
    d < segment.size := by
  obtain ⟨w, made, o⟩ := finds
  exact (Walk.Fits.ofQuery indexed q made).inside d o

lemma runsAll_iff {cs : List (Query R)} :
    (∃ ws, Walk.ofQueries segment cs = .ok ws) ↔ ∀ c ∈ cs, Runs segment c := by
  rw [Walk.ofQueries_eq_mapM]
  constructor
  · rintro ⟨ws, made⟩ c mem
    obtain ⟨w, _, made⟩ := (mapM_eq_ok made).2.1 c mem
    exact ⟨w, made⟩
  · exact exists_mapM_eq_ok

lemma runs_always : Runs segment (always : Query R) := ⟨_, rfl⟩

lemma runs_never : Runs segment (never : Query R) := ⟨_, rfl⟩

lemma finds_always {d : Nat} : Finds segment (always : Query R) d ↔ d < segment.size := by
  refine ⟨fun ⟨w, made, o⟩ => ?_, fun lt => ⟨_, rfl, Walk.offers_ofSize.mpr lt⟩⟩
  cases made
  exact Walk.offers_ofSize.mp o

lemma not_finds_never {d : Nat} : ¬Finds segment (never : Query R) d := by
  rintro ⟨w, made, o⟩
  cases made
  cases o

/-- A list of queries joined by a boolean operator can be run if each of them can. -/
lemma runs_join {j : Junction} {cs : List (Query R)} :
    Runs segment (.join j.operator cs) ↔ ∀ c ∈ cs, Runs segment c := by
  rw [← runsAll_iff]
  constructor
  · rintro ⟨w, made⟩
    cases j with
    | and | or =>
      obtain ⟨ws, made, _⟩ := bind_eq_ok made
      exact ⟨ws, made⟩
  · rintro ⟨ws, made⟩
    cases j with
    | and => exact ⟨.all ws, by rw [Junction.operator, Walk.ofQuery, made]; rfl⟩
    | or => exact ⟨.any ws, by rw [Junction.operator, Walk.ofQuery, made]; rfl⟩

/-- What a query finds is what its walk offers. -/
lemma finds_iff {q : Query R} {w : Walk} {d : Nat} (made : Walk.ofQuery segment q = .ok w) :
    Finds segment q d ↔ w.Offers d := by
  refine ⟨fun ⟨w', made', o⟩ => ?_, fun o => ⟨w, made, o⟩⟩
  cases made.symm.trans made'
  exact o

section Join

variable {cs : List (Query R)} {ws : List Walk} {d : Nat}

/-- A document that the walks of several queries all offer is found by all the queries. -/
lemma forall_offers_iff (made : Walk.ofQueries segment cs = .ok ws) :
    (∀ w ∈ ws, w.Offers d) ↔ ∀ c ∈ cs, Finds segment c d := by
  rw [Walk.ofQueries_eq_mapM] at made
  obtain ⟨_, walked, asked⟩ := mapM_eq_ok made
  constructor
  · intro all c mem
    obtain ⟨w, mem', made⟩ := walked c mem
    exact (finds_iff made).mpr (all w mem')
  · intro all w mem
    obtain ⟨c, mem', made⟩ := asked w mem
    exact (finds_iff made).mp (all c mem')

/-- A document that one of the walks of several queries offers is found by one of the queries. -/
lemma exists_offers_iff (made : Walk.ofQueries segment cs = .ok ws) :
    (∃ w ∈ ws, w.Offers d) ↔ ∃ c ∈ cs, Finds segment c d := by
  rw [Walk.ofQueries_eq_mapM] at made
  obtain ⟨_, walked, asked⟩ := mapM_eq_ok made
  constructor
  · rintro ⟨w, mem, o⟩
    obtain ⟨c, mem', made⟩ := asked w mem
    exact ⟨c, mem', (finds_iff made).mpr o⟩
  · rintro ⟨c, mem, finds⟩
    obtain ⟨w, mem', made⟩ := walked c mem
    exact ⟨w, mem', (finds_iff made).mp finds⟩

/-- A conjunction finds what all its members find; without members it finds nothing. -/
lemma finds_and (indexed : segment.Indexed) :
    Finds segment (and cs) d ↔ cs ≠ [] ∧ ∀ c ∈ cs, Finds segment c d := by
  by_cases runs : ∀ c ∈ cs, Runs segment c
  · obtain ⟨ws, made⟩ := runsAll_iff.mpr runs
    have made' : Walk.ofQuery segment (and cs) = .ok (.all ws) := by
      rw [and, Walk.ofQuery, made]
      rfl
    have nil : ws ≠ [] ↔ cs ≠ [] := by
      rw [Walk.ofQueries_eq_mapM] at made
      rw [← List.length_pos_iff, ← List.length_pos_iff, (mapM_eq_ok made).1]
    have sound : ∀ w ∈ ws, w.Sound := fun w mem => (Walk.Fits.ofQueries indexed cs made w mem).sound
    rw [finds_iff made', (Walk.all_spec sound).2, nil, forall_offers_iff made]
  · refine ⟨fun finds => absurd (runs_join (j := .and).mp finds.runs) runs, fun ⟨_, all⟩ => ?_⟩
    exact absurd (fun c mem => (all c mem).runs) runs

/-- A disjunction finds what one of its members finds, if all of them can be run. -/
lemma finds_or (indexed : segment.Indexed) :
    Finds segment (or cs) d ↔ (∀ c ∈ cs, Runs segment c) ∧ ∃ c ∈ cs, Finds segment c d := by
  by_cases runs : ∀ c ∈ cs, Runs segment c
  · obtain ⟨ws, made⟩ := runsAll_iff.mpr runs
    have made' : Walk.ofQuery segment (or cs) = .ok (.any ws) := by
      rw [or, Walk.ofQuery, made]
      rfl
    have sound : ∀ w ∈ ws, w.Sound := fun w mem => (Walk.Fits.ofQueries indexed cs made w mem).sound
    rw [finds_iff made', (Walk.any_spec sound).2, exists_offers_iff made, and_iff_right runs]
  · exact ⟨fun finds => absurd (runs_join (j := .or).mp finds.runs) runs,
      fun finds => absurd finds.1 runs⟩

end Join

/-- A requirement runs as the conjunction of its parts. -/
lemma ofQuery_require (c v : Query R) :
    Walk.ofQuery segment (.require c v) = Walk.ofQuery segment (and [c, v]) := by
  rw [and, Walk.ofQuery, Walk.ofQuery, Walk.ofQueries, Walk.ofQueries, Walk.ofQueries]
  cases Walk.ofQuery segment c with
  | error e => rfl
  | ok w => cases Walk.ofQuery segment v <;> rfl

lemma runs_require {c v : Query R} :
    Runs segment (.require c v) ↔ Runs segment c ∧ Runs segment v := by
  have runs : Runs segment (and [c, v]) ↔ ∀ q ∈ [c, v], Runs segment q := runs_join (j := .and)
  rw [List.forall_mem_cons, List.forall_mem_singleton] at runs
  rw [← runs, Runs, ofQuery_require]
  rfl

/-- A requirement finds what both its parts find. -/
lemma finds_require (indexed : segment.Indexed) {c v : Query R} {d : Nat} :
    Finds segment (.require c v) d ↔ Finds segment c d ∧ Finds segment v d := by
  have finds : Finds segment (and [c, v]) d ↔ _ := finds_and indexed
  rw [List.forall_mem_cons, List.forall_mem_singleton] at finds
  rw [Finds, ofQuery_require]
  exact finds.trans (and_iff_right (List.cons_ne_nil _ _))

/-! ## Candidates -/

omit [Scalar R] in
lemma candidatesAll_eq_map (cs : List (Query R)) : candidatesAll cs = cs.map candidates := by
  induction cs with
  | nil => rfl
  | cons c cs ih => rw [candidatesAll, ih, List.map_cons]

/-- The candidates of a modified query can be run if those of the query can. -/
lemma runs_candidates_modify {m : Modifier R} {c : Query R} (runs : Runs segment c.candidates) :
    Runs segment (candidates (.modify m c)) := by
  cases m with
  | alwaysMatch => exact runs_always
  | _ => exact runs

/-- The candidates of joined queries can be run if those of each query can. -/
lemma runs_candidates_join {op : Operator R} {cs : List (Query R)}
    (runs : ∀ c ∈ cs, Runs segment c.candidates) : Runs segment (candidates (.join op cs)) := by
  have each : ∀ c ∈ candidatesAll cs, Runs segment c := by
    rw [candidatesAll_eq_map]
    exact List.forall_mem_map.mpr runs
  rw [candidates]
  split
  · exact (runs_join (j := .and)).mpr each
  · exact (runs_join (j := .or)).mpr each

/-- The candidates of a requirement can be run if those of its condition can. -/
lemma runs_candidates_require {c v : Query R} (runs : Runs segment c.candidates) :
    Runs segment (candidates (.require c v)) :=
  runs_require.mpr ⟨runs, runs_always⟩

end Query

end Retrieval
