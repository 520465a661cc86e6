import Retrieval.Query.Shapes
import Retrieval.Scalar.Binary64
import Retrieval.Proofs.Query.Marks
import Mathlib.Order.Bounds.Defs

/-!
# Demands on terms

`Query.Imposes` is the table of what a node that is asked for something imposes on its children, and
`Query.Imposed` follows it from the root down to the terms. Inference marks every term with the
greatest need among those that terms of its text and field bring along or that are imposed on them
anywhere in the query, and does nothing else (`Query.infer_greatest`). So it finds nothing to do in
its own result, and whether it accepts a query does not depend on the marks that the query brings.
-/

namespace Retrieval

namespace Need

lemma max_cases (m n : Need) : max m n = m ∨ max m n = n := by
  cases m <;> cases n <;> decide

/-- The largest of several needs is one of them, or where the search for it began. -/
lemma foldl_max_cases (needs : List Need) (init : Need) :
    needs.foldl max init = init ∨ needs.foldl max init ∈ needs := by
  induction needs generalizing init with
  | nil => exact .inl rfl
  | cons n needs ih =>
    rw [List.foldl_cons]
    rcases ih (max init n) with same | mem
    · rw [same]
      rcases max_cases init n with first | first
      · exact .inl first
      · rw [first]
        exact .inr List.mem_cons_self
    · exact .inr (List.mem_cons_of_mem n mem)

end Need

namespace Query

variable {R : Type}

/-! ## What is imposed -/

/-- A node that is asked for the first need imposes the second on its child. -/
inductive Imposes : Need → Query R → Need → Query R → Prop where
  -- what the node itself is asked for
  | alwaysMatch {need c} :
    Imposes need (.modify .alwaysMatch c) need c
  | multi {need names cs c} :
    c ∈ cs →
    Imposes need (.join (.multi names) cs) need c
  | synonym {need cs c} :
    c ∈ cs →
    Imposes need (.join .synonym cs) need c
  | value {need c v} :
    Imposes need (.require c v) need v
  -- documents
  | cond {need c v} :
    Imposes need (.require c v) .docs c
  | and {need cs c} :
    c ∈ cs →
    Imposes need (.join .and cs) .docs c
  | or {need cs c} :
    c ∈ cs →
    Imposes need (.join .or cs) .docs c
  | boolToScore {need x y c} :
    Imposes need (.modify (.boolToScore x y) c) .docs c
  -- counts
  | scorer {need model stats c} :
    Imposes need (.modify (.scorer model stats) c) .counts c
  | countToScore {need c} :
    Imposes need (.modify .countToScore c) .counts c
  | countToBool {need gt c} :
    Imposes need (.modify (.countToBool gt) c) .counts c
  | smallerCount {need cs c} :
    c ∈ cs →
    Imposes need (.join .smallerCount cs) .counts c
  | windowCeiling {need width cs c} :
    c ∈ cs →
    Imposes need (.join (.windowCeiling width) cs) .counts c
  | maxCount {cs c} :
    c ∈ cs →
    Imposes .counts (.join .max cs) .counts c
  -- positions
  | orderedWindow {need step cs c} :
    c ∈ cs →
    Imposes need (.join (.orderedWindow step) cs) .positions c
  | unorderedWindow {need width cs c} :
    c ∈ cs →
    Imposes need (.join (.unorderedWindow width) cs) .positions c
  | prox {need width cs c} :
    c ∈ cs →
    Imposes need (.join (.prox width) cs) .positions c
  -- scores
  | weight {need w c} :
    Imposes need (.modify (.weight w) c) .scores c
  | combine {need ws cs c} :
    c ∈ cs →
    Imposes need (.join (.combine ws) cs) .scores c
  | mult {need cs c} :
    c ∈ cs →
    Imposes need (.join .mult cs) .scores c
  | maxScore {need cs c} :
    need ≠ .counts →
    c ∈ cs →
    Imposes need (.join .max cs) .scores c

/-- If the root is asked for the first need, the second is imposed on a term of the query. -/
inductive Imposed : Need → Query R → Need → Term → Prop where
  | here {need t} :
    Imposed need (.leaf (.term t)) need t
  | child {need q need' c n t} :
    Imposes need q need' c →
    Imposed need' c n t →
    Imposed need q n t

section Imposed

variable {need n : Need} {t : Term}

lemma imposes_modify {m : Modifier R} {c d : Query R} :
    Imposes need (.modify m c) n d ↔ n = m.childNeed need ∧ d = c := by
  constructor
  · intro asks
    cases asks <;> exact ⟨rfl, rfl⟩
  · rintro ⟨rfl, rfl⟩
    cases m <;> constructor

lemma imposes_join {op : Operator R} {cs : List (Query R)} {d : Query R} :
    Imposes need (.join op cs) n d ↔ n = op.childNeed need ∧ d ∈ cs := by
  constructor
  · intro asks
    cases asks with
    | maxScore other mem => exact ⟨(if_neg other).symm, mem⟩
    | _ => exact ⟨rfl, ‹_›⟩
  · rintro ⟨rfl, mem⟩
    cases op with
    | max =>
      rw [Operator.childNeed]
      split
      · next counts =>
        cases counts
        exact .maxCount mem
      · next other => exact .maxScore other mem
    | _ => constructor; exact mem

lemma imposed_term {s : Term} : Imposed need (.leaf (.term s) : Query R) n t ↔ n = need ∧ t = s := by
  constructor
  · intro asked
    cases asked with
    | here => exact ⟨rfl, rfl⟩
    | child asks => cases asks
  · rintro ⟨rfl, rfl⟩
    exact .here

lemma imposed_modify {m : Modifier R} {c : Query R} :
    Imposed need (.modify m c) n t ↔ Imposed (m.childNeed need) c n t := by
  constructor
  · intro asked
    cases asked with
    | child asks asked =>
      obtain ⟨rfl, rfl⟩ := imposes_modify.mp asks
      exact asked
  · exact .child (imposes_modify.mpr ⟨rfl, rfl⟩)

lemma imposed_join {op : Operator R} {cs : List (Query R)} :
    Imposed need (.join op cs) n t ↔ ∃ c ∈ cs, Imposed (op.childNeed need) c n t := by
  constructor
  · intro asked
    cases asked with
    | child asks asked =>
      obtain ⟨rfl, mem⟩ := imposes_join.mp asks
      exact ⟨_, mem, asked⟩
  · rintro ⟨c, mem, asked⟩
    exact .child (imposes_join.mpr ⟨rfl, mem⟩) asked

lemma imposed_require {c v : Query R} :
    Imposed need (.require c v) n t ↔ Imposed .docs c n t ∨ Imposed need v n t := by
  constructor
  · intro asked
    cases asked with
    | child asks asked =>
      cases asks with
      | cond => exact .inl asked
      | value => exact .inr asked
  · rintro (asked | asked)
    · exact .child .cond asked
    · exact .child .value asked

end Imposed

mutual

/-- A need is imposed on every term, and on terms only. -/
theorem exists_imposed_iff {t : Term} : (q : Query R) → ∀ need,
    (∃ n, Imposed need q n t) ↔ t ∈ q.terms
  | .leaf l, need => by
    cases l with
    | term s => simp [imposed_term, terms]
    | _ =>
      refine iff_of_false ?_ (List.not_mem_nil)
      rintro ⟨n, asked⟩
      cases asked with
      | child asks => cases asks
  | .modify m c, need => by
    simp only [imposed_modify, terms]
    exact exists_imposed_iff c (m.childNeed need)
  | .join op cs, need => by
    simp only [imposed_join, terms]
    exact exists_imposedAll_iff cs (op.childNeed need)
  | .require c v, need => by
    simp only [imposed_require, terms, exists_or, List.mem_append]
    exact or_congr (exists_imposed_iff c .docs) (exists_imposed_iff v need)

theorem exists_imposedAll_iff {t : Term} : (cs : List (Query R)) → ∀ need,
    (∃ n, ∃ c ∈ cs, Imposed need c n t) ↔ t ∈ termsAll cs
  | [], need => by simp [termsAll]
  | c :: cs, need => by
    simp only [List.exists_mem_cons_iff, exists_or, termsAll, List.mem_append]
    exact or_congr (exists_imposed_iff c need) (exists_imposedAll_iff cs need)

end

/-! ## Marks -/

variable [Scalar R]

/-- Marking raises every term to what is imposed on it. -/
lemma Everywhere.mem_terms_mark {need : Need} {q q' : Query R} (fit : Everywhere Fit need q)
    (marked : q.mark need = .ok q') {t' : Term} :
    t' ∈ q'.terms ↔ ∃ n t, Imposed need q n t ∧ t' = { t with needed := max t.needed n } := by
  induction fit generalizing q' with
  | @leaf need l =>
    obtain ⟨_, _, marked⟩ := bind_eq_ok marked
    cases l with
    | term t =>
      cases marked
      simp [imposed_term, terms]
    | _ =>
      cases marked
      refine iff_of_false List.not_mem_nil ?_
      rintro ⟨n, t, asked, _⟩
      cases asked with
      | child asks => cases asks
  | modify _ _ ih =>
    obtain ⟨_, _, marked⟩ := bind_eq_ok marked
    obtain ⟨c', inner, marked⟩ := bind_eq_ok marked
    cases marked
    simp only [imposed_modify, terms]
    exact ih inner
  | @join need op cs _ _ ih =>
    obtain ⟨_, _, marked⟩ := bind_eq_ok marked
    obtain ⟨_, _, marked⟩ := bind_eq_ok marked
    obtain ⟨cs', inner, marked⟩ := bind_eq_ok marked
    cases marked
    rw [markAll_eq_mapM] at inner
    obtain ⟨_, forth, back⟩ := mapM_eq_ok inner
    rw [terms, termsAll_eq_flatMap, List.mem_flatMap]
    simp only [imposed_join]
    constructor
    · rintro ⟨c', within', mem⟩
      obtain ⟨c, within, marked⟩ := back c' within'
      obtain ⟨n, t, asked, same⟩ := (ih c within marked).mp mem
      exact ⟨n, t, ⟨c, within, asked⟩, same⟩
    · rintro ⟨n, t, ⟨c, within, asked⟩, same⟩
      obtain ⟨c', within', marked⟩ := forth c within
      exact ⟨c', within', (ih c within marked).mpr ⟨n, t, asked, same⟩⟩
  | require _ _ _ ihc ihv =>
    obtain ⟨_, _, marked⟩ := bind_eq_ok marked
    obtain ⟨c', cond, marked⟩ := bind_eq_ok marked
    obtain ⟨v', value, marked⟩ := bind_eq_ok marked
    cases marked
    simp only [imposed_require, terms, List.mem_append, ihc cond, ihv value, or_and_right, exists_or]

/-- A query that is inferred without scores had none. -/
lemma ne_scores_of_infer {need : Need} {q q' : Query R} (inferred : q.infer need = .ok q')
    (low : ∀ t ∈ q'.terms, t.needed ≠ .scores) : ∀ t ∈ q.terms, t.needed ≠ .scores := by
  obtain ⟨marked, h, inferred⟩ := bind_eq_ok inferred
  cases inferred
  rw [terms_mapTerms, List.forall_mem_map] at low
  intro t mem scores
  obtain ⟨n, asked⟩ := (exists_imposed_iff q need).mpr mem
  have mem' := ((everywhere_fit_of_mark q h).mem_terms_mark h).mpr ⟨n, t, asked, rfl⟩
  have raised : .scores ≤ max t.needed n := scores ▸ Need.le_max_left t.needed n
  exact low _ mem' (Need.eq_scores_of_le (Need.le_trans raised (le_mostNeeded mem')))

omit [Scalar R] in
/-- What is most needed of a term is the greatest need of a term with its text and field. -/
lemma isGreatest_mostNeeded {terms : List Term} {t : Term} (mem : t ∈ terms) :
    IsGreatest {n | ∃ s ∈ terms, s.text = t.text ∧ s.field = t.field ∧ n = s.needed}
      (mostNeeded terms t) := by
  constructor
  · rcases Need.foldl_max_cases ((terms.filter fun s => s.text = t.text ∧ s.field = t.field).map
      Term.needed) .docs with least | found
    · -- the term itself needs no more either
      refine ⟨t, mem, rfl, rfl, Need.le_antisymm ?_ (le_mostNeeded mem)⟩
      rw [mostNeeded, least]
      exact Need.docs_le t.needed
    · obtain ⟨s, among, same⟩ := List.mem_map.mp found
      obtain ⟨among, alike⟩ := List.mem_filter.mp among
      obtain ⟨text, field⟩ := of_decide_eq_true alike
      exact ⟨s, among, text, field, same.symm⟩
  · rintro _ ⟨s, among, text, field, rfl⟩
    rw [← mostNeeded_congr text field]
    exact le_mostNeeded among

/-- The greatest need of marked terms is the greatest that they brought along or had imposed. -/
lemma isGreatest_of_mark {need n : Need} {q q' : Query R} {t : Term}
    (marked : q.mark need = .ok q')
    (greatest : IsGreatest
      {n | ∃ s ∈ q'.terms, s.text = t.text ∧ s.field = t.field ∧ n = s.needed} n) :
    IsGreatest {n | ∃ s ∈ q.terms, s.text = t.text ∧ s.field = t.field ∧
      (n = s.needed ∨ Imposed need q n s)} n := by
  have fit := everywhere_fit_of_mark q marked
  obtain ⟨⟨s', mem', text, field, rfl⟩, bound⟩ := greatest
  constructor
  · obtain ⟨m, s, asked, rfl⟩ := (fit.mem_terms_mark marked).mp mem'
    refine ⟨s, (exists_imposed_iff q need).mp ⟨m, asked⟩, text, field, ?_⟩
    show max s.needed m = s.needed ∨ Imposed need q (max s.needed m) s
    rcases Need.max_cases s.needed m with own | above
    · exact .inl own
    · rw [above]
      exact .inr asked
  · have raised {m s} (asked : Imposed need q m s) (text : s.text = t.text)
        (field : s.field = t.field) : max s.needed m ≤ s'.needed :=
      bound ⟨_, (fit.mem_terms_mark marked).mpr ⟨m, s, asked, rfl⟩, text, field, rfl⟩
    rintro m ⟨s, mem, text, field, rfl | asked⟩
    · obtain ⟨m, asked⟩ := (exists_imposed_iff q need).mpr mem
      exact Need.le_trans (Need.le_max_left s.needed m) (raised asked text field)
    · exact Need.le_trans (Need.le_max_right s.needed m) (raised asked text field)

/-- Inference marks each term with the greatest need that terms of its text and field bring along or
are asked for, and changes nothing else. Its result is inferred to itself, and queries that differ
only in what is needed of their terms are all accepted or none. -/
theorem infer_greatest {root : Need} {q q' : Query R} (inferred : q.infer root = .ok q') :
    q'.unmarked = q.unmarked ∧
    (∀ t ∈ q'.terms, IsGreatest {n | ∃ s ∈ q.terms, s.text = t.text ∧ s.field = t.field ∧
      (n = s.needed ∨ Imposed root q n s)} t.needed) ∧
    (∀ s ∈ q'.terms, ∀ t ∈ q'.terms, s.text = t.text → s.field = t.field → s.needed = t.needed) ∧
    q'.infer root = .ok q' ∧
    ∀ p : Query R, p.unmarked = q.unmarked → ∃ p', p.infer root = .ok p' := by
  have fit := exists_infer_iff.mp ⟨q', inferred⟩
  obtain ⟨traces, unified⟩ := marks_of_infer inferred
  refine ⟨infer_unmarked inferred, ?greatest, fun s mem t mem' text field => ?same, ?again,
    fun p same => ?free⟩
  case greatest =>
    obtain ⟨marked, h, inferred⟩ := bind_eq_ok inferred
    cases inferred
    rw [terms_mapTerms]
    refine List.forall_mem_map.mpr fun t mem => ?_
    have greatest := isGreatest_of_mark h (isGreatest_mostNeeded mem)
    exact greatest
  case same =>
    rw [← unified s mem, ← unified t mem', mostNeeded_congr text field]
  case again =>
    exact infer_eq_self (fit.infer fit_unmarked inferred) traces unified
  case free =>
    rw [exists_infer_iff, ← everywhere_unmarked fit_unmarked, same, everywhere_unmarked fit_unmarked]
    exact fit

/-- A term under a scorer that comes again in a window, and one in the same window that is also asked
for as a condition; either is opened for positions. -/
theorem infer_greatest_shared :
    let a (needed : Need) : Query Float := .leaf (.term { text := "a", field := some "body", needed })
    let b (needed : Need) : Query Float := .leaf (.term { text := "b", needed })
    let q (m n : Need) : Query Float := .join (.combine [1, 2]) [dirichlet (a m),
      .require (b n) (dirichlet (.join (.orderedWindow 1) [a m, b n]))]
    (q .docs .counts).infer .scores = .ok (q .positions .positions) ∧
      (∀ t ∈ (q .positions .positions).terms, IsGreatest {n | ∃ s ∈ (q .docs .counts).terms,
        s.text = t.text ∧ s.field = t.field ∧
          (n = s.needed ∨ Imposed .scores (q .docs .counts) n s)} t.needed) ∧
      (q .positions .positions).infer .scores = .ok (q .positions .positions) ∧
      ∃ p', (q .counts .scores).infer .scores = .ok p' := by
  intro a b q
  have inferred : (q .docs .counts).infer .scores = .ok (q .positions .positions) := rfl
  obtain ⟨_, greatest, _, again, free⟩ := infer_greatest inferred
  exact ⟨inferred, greatest, again, free _ rfl⟩

end Query

end Retrieval
