import Retrieval.Evaluation.Session
import Retrieval.Proofs.Query.Inference
import Retrieval.Proofs.Query.Sums

/-!
# The field of a scorer

A scorer is normalised by the lengths of the one field that the terms below it are counted in
(`Session.scorerField_eq_ok`). Which field that is depends only on which fields the terms name, not
on how often or in which order.
-/

namespace Retrieval

namespace Query

variable {R : Type}

/-! ## Sets of names -/

lemma mem_nameSet {name : String} {names : List String} : name ∈ nameSet names ↔ name ∈ names := by
  rw [nameSet, List.mem_mergeSort, List.mem_eraseDups]

lemma nameSet_eq_nil {names : List String} : nameSet names = [] ↔ names = [] := by
  rw [List.eq_nil_iff_forall_not_mem, List.eq_nil_iff_forall_not_mem]
  exact forall_congr' fun name => not_congr mem_nameSet

lemma nameSet_eq_singleton {name : String} {names : List String} :
    nameSet names = [name] ↔ names ≠ [] ∧ ∀ other ∈ names, other = name := by
  constructor
  · intro only
    refine ⟨fun nil => ?_, fun other mem => ?_⟩
    · rw [nameSet_eq_nil.mpr nil] at only
      cases only
    · exact List.mem_singleton.mp (only ▸ mem_nameSet.mpr mem)
  · rintro ⟨some_, same⟩
    cases names with
    | nil => exact absurd rfl some_
    | cons first rest =>
      obtain ⟨rfl, same⟩ := List.forall_mem_cons.mp same
      have others : rest.filter (fun other => !other == first) = [] :=
        List.filter_eq_nil_iff.mpr fun other mem => by simp [same other mem]
      rw [nameSet, List.eraseDups_cons, others, List.eraseDups_nil]
      exact List.mergeSort_singleton first

lemma countedField_eq_ok {t : Term} {field : String} :
    t.countedField = .ok field ↔ t.field = some field := by
  rw [Term.countedField]
  cases t.field <;> simp

/-- Counted fields can be named if all terms have one. -/
lemma countedFields_eq_ok {q : Query R} {fields : List String} :
    q.countedFields = .ok fields ↔
      ∃ names, q.terms.map Term.field = names.map some ∧ nameSet names = fields := by
  have named {terms : List Term} {names : List String} :
      terms.mapM Term.countedField = .ok names ↔ terms.map Term.field = names.map some := by
    constructor
    · intro counted
      rw [← List.forall₂_eq_eq_eq, List.forall₂_map_left_iff, List.forall₂_map_right_iff]
      exact (forall₂_of_mapM counted).imp fun t name => countedField_eq_ok.mp
    · intro same
      induction terms generalizing names with
      | nil =>
        cases names with
        | nil => rfl
        | cons => cases same
      | cons t terms ih =>
        cases names with
        | nil => cases same
        | cons name names =>
          obtain ⟨first, rest⟩ := List.cons.inj same
          rw [List.mapM_cons, countedField_eq_ok.mpr first, ih rest]
          rfl
  rw [countedFields]
  constructor
  · intro counted
    cases h : q.terms.mapM Term.countedField with
    | error e =>
      rw [h] at counted
      cases counted
    | ok names =>
      rw [h] at counted
      exact ⟨names, named.mp h, Except.ok.inj counted⟩
  · rintro ⟨names, same, rfl⟩
    rw [named.mpr same]
    rfl

variable [Scalar R]

/-- Terms are counted in one field if all of them name it; the field is free where there are none.
-/
lemma onlyCountedField_eq_ok {q : Query R} {fallback field : String} :
    q.onlyCountedField fallback = .ok field ↔
      (∀ t ∈ q.terms, t.field = some field) ∧ (q.terms = [] → field = fallback) := by
  constructor
  · intro one
    obtain ⟨fields, counted, one⟩ := bind_eq_ok one
    obtain ⟨names, same, rfl⟩ := countedFields_eq_ok.mp counted
    cases h : nameSet names with
    | nil =>
      rw [h] at one
      cases one
      rw [nameSet_eq_nil.mp h, List.map_nil, List.map_eq_nil_iff] at same
      rw [same]
      exact ⟨List.forall_mem_nil _, fun _ => rfl⟩
    | cons f others =>
      rw [h] at one
      cases others with
      | cons => cases one
      | nil =>
        cases one
        obtain ⟨some_, each⟩ := nameSet_eq_singleton.mp h
        refine ⟨fun t mem => ?_, fun none => ?_⟩
        · have mem : t.field ∈ names.map some := same ▸ List.mem_map_of_mem mem
          obtain ⟨name, mem, named⟩ := List.mem_map.mp mem
          rw [← named, each name mem]
        · rw [none, List.map_nil, eq_comm, List.map_eq_nil_iff] at same
          exact absurd same some_
  · rintro ⟨each, none⟩
    have same : q.terms.map Term.field = (q.terms.map fun _ => field).map some := by
      rw [List.map_map]
      exact List.map_congr_left each
    have counted := countedFields_eq_ok.mpr ⟨_, same, rfl⟩
    rw [onlyCountedField, counted]
    cases terms : q.terms with
    | nil =>
      have nil : nameSet (([] : List Term).map fun _ => field) = [] := nameSet_eq_nil.mpr rfl
      rw [nil, none terms]
      rfl
    | cons t rest =>
      have one : nameSet ((t :: rest).map fun _ => field) = [field] :=
        nameSet_eq_singleton.mpr ⟨List.cons_ne_nil _ _, by simp⟩
      rw [one]
      rfl

/-- The field of a scorer is the one that its lengths name, or the one that its terms are counted
in. -/
lemma scorerField_eq_ok {q : Query R} {fallback field : String} :
    Session.scorerField fallback q = .ok field ↔
      (∃ stats, q = .leaf (.lengths ⟨some field, stats⟩)) ∨
        (∀ f stats, q ≠ .leaf (.lengths ⟨some f, stats⟩)) ∧
          (∀ t ∈ q.terms, t.field = some field) ∧ (q.terms = [] → field = fallback) := by
  unfold Session.scorerField
  split
  · next f stats =>
    constructor
    · rintro ⟨rfl⟩
      exact .inl ⟨stats, rfl⟩
    · rintro (⟨_, ⟨rfl⟩⟩ | ⟨other, _⟩)
      · rfl
      · exact absurd rfl (other f stats)
  · next other =>
    rw [onlyCountedField_eq_ok]
    constructor
    · exact fun h => .inr ⟨other, h⟩
    · rintro (⟨stats, rfl⟩ | ⟨_, h⟩)
      · exact absurd rfl (other field stats)
      · exact h

/-! ## Queries with the same fields -/

/-- The terms of both queries name the same fields, and if one is the lengths of a field so is the
other. -/
structure SameFields (q q' : Query R) : Prop where
  terms : ∀ f, (∃ t ∈ q.terms, t.field = f) ↔ ∃ t ∈ q'.terms, t.field = f
  lengths : ∀ l, q = .leaf (.lengths l) ↔ q' = .leaf (.lengths l)

omit [Scalar R] in
/-- Terms below a node name a field if those below some child do. -/
lemma exists_termsAll {f : Option String} {cs : List (Query R)} :
    (∃ t ∈ termsAll cs, t.field = f) ↔ ∃ c ∈ cs, ∃ t ∈ c.terms, t.field = f := by
  rw [termsAll_eq_flatMap]
  constructor
  · rintro ⟨t, mem, named⟩
    obtain ⟨c, within, mem⟩ := List.mem_flatMap.mp mem
    exact ⟨c, within, t, mem, named⟩
  · rintro ⟨c, within, t, mem, named⟩
    exact ⟨t, List.mem_flatMap.mpr ⟨c, within, mem⟩, named⟩

namespace SameFields

omit [Scalar R] in
lemma refl (q : Query R) : SameFields q q := ⟨fun _ => Iff.rfl, fun _ => Iff.rfl⟩

omit [Scalar R] in
lemma trans {q q' q'' : Query R} (same : SameFields q q') (same' : SameFields q' q'') :
    SameFields q q'' :=
  ⟨fun f => (same.terms f).trans (same'.terms f), fun l => (same.lengths l).trans (same'.lengths l)⟩

omit [Scalar R] in
lemma modify {m n : Modifier R} {c d : Query R} (same : SameFields c d) :
    SameFields (.modify m c) (.modify n d) :=
  ⟨same.terms, fun _ => ⟨nofun, nofun⟩⟩

omit [Scalar R] in
/-- Nodes whose children name the same fields name the same fields. -/
lemma of_members {op op' : Operator R} {cs ds : List (Query R)}
    (same : ∀ f, (∃ c ∈ cs, ∃ t ∈ c.terms, t.field = f) ↔ ∃ d ∈ ds, ∃ t ∈ d.terms, t.field = f) :
    SameFields (.join op cs) (.join op' ds) :=
  ⟨fun f => exists_termsAll.trans ((same f).trans exists_termsAll.symm), fun _ => ⟨nofun, nofun⟩⟩

omit [Scalar R] in
lemma join {op op' : Operator R} {cs ds : List (Query R)} (same : List.Forall₂ SameFields cs ds) :
    SameFields (.join op cs) (.join op' ds) := by
  obtain ⟨forth, back⟩ := exists_mem_of_forall₂ same
  refine of_members fun f => ⟨?_, ?_⟩
  · rintro ⟨c, mem, named⟩
    obtain ⟨d, mem, same⟩ := forth c mem
    exact ⟨d, mem, (same.terms f).mp named⟩
  · rintro ⟨d, mem, named⟩
    obtain ⟨c, mem, same⟩ := back d mem
    exact ⟨c, mem, (same.terms f).mpr named⟩

omit [Scalar R] in
lemma require {c v d w : Query R} (cond : SameFields c d) (value : SameFields v w) :
    SameFields (.require c v) (.require d w) := by
  refine ⟨fun f => ?_, fun _ => ⟨nofun, nofun⟩⟩
  simp only [Query.terms, List.mem_append, or_and_right, exists_or]
  exact or_congr (cond.terms f) (value.terms f)

omit [Scalar R] in
lemma symm {q q' : Query R} (same : SameFields q q') : SameFields q' q :=
  ⟨fun f => (same.terms f).symm, fun l => (same.lengths l).symm⟩

lemma scorerField_ok {q q' : Query R} (same : SameFields q q') {fallback field : String}
    (named : Session.scorerField fallback q = .ok field) :
    Session.scorerField fallback q' = .ok field := by
  rw [scorerField_eq_ok] at named ⊢
  rcases named with ⟨stats, lengths⟩ | ⟨other, each, none⟩
  · exact .inl ⟨stats, (same.lengths _).mp lengths⟩
  · refine .inr ⟨fun f stats lengths => other f stats ((same.lengths _).mpr lengths), ?_, ?_⟩
    · intro t mem
      obtain ⟨t', mem', same⟩ := (same.terms t.field).mpr ⟨t, mem, rfl⟩
      exact same ▸ each t' mem'
    · intro nil
      refine none (List.eq_nil_iff_forall_not_mem.mpr fun t mem => ?_)
      obtain ⟨t', mem', _⟩ := (same.terms t.field).mp ⟨t, mem, rfl⟩
      rw [nil] at mem'
      cases mem'

/-- Scorers of both queries are normalised by the same field, if by any. -/
theorem scorerField {q q' : Query R} (same : SameFields q q') (fallback : String) :
    (Session.scorerField fallback q).toOption = (Session.scorerField fallback q').toOption := by
  cases h : Session.scorerField fallback q with
  | ok field => rw [same.scorerField_ok h]
  | error e =>
    cases h' : Session.scorerField fallback q' with
    | ok field => rw [same.symm.scorerField_ok h'] at h; cases h
    | error e' => rfl

end SameFields

/-- Queries that compare as equal have the same fields, for scalars name none. -/
lemma sameFields_congruence : Congruence (SameFields (R := R)) where
  refl := .refl
  symm := .symm
  trans := .trans
  leaf {l k} equal := by
    change Leaf.beq l k = true at equal
    cases l with
    | constScore x =>
      cases k with
      | constScore y => exact ⟨fun _ => Iff.rfl, fun _ => ⟨nofun, nofun⟩⟩
      | _ => cases equal
    | _ => cases k <;> simp_all [Leaf.beq, SameFields.refl]
  modify _ same := same.modify
  join _ same := .join same
  require := .require

omit [Scalar R] in
/-- Sums name the fields that their summands name. -/
lemma exists_terms_sumOf {ps : List (Query R × R)} {f : Option String} :
    (∃ t ∈ (sumOf ps).terms, t.field = f) ↔ ∃ p ∈ ps, ∃ t ∈ p.1.terms, t.field = f := by
  rw [sumOf, terms, exists_termsAll]
  simp

omit [Scalar R] in
lemma sameFields_sumOf {ps qs : List (Query R × R)}
    (same : ∀ f, (∃ p ∈ ps, ∃ t ∈ p.1.terms, t.field = f) ↔ ∃ p ∈ qs, ∃ t ∈ p.1.terms, t.field = f) :
    SameFields (sumOf ps) (sumOf qs) :=
  ⟨fun f => exists_terms_sumOf.trans ((same f).trans exists_terms_sumOf.symm),
    fun _ => ⟨nofun, nofun⟩⟩

/-- The rules for weights keep fields. -/
lemma sameFields_sumLaws : SumLaws (SameFields (R := R)) where
  toCongruence := sameFields_congruence
  single w c := ⟨fun f => by simp [sumOf, weighted, terms, termsAll], fun _ => ⟨nofun, nofun⟩⟩
  nest ps qs rs w := by
    refine sameFields_sumOf fun f => ?_
    simp only [List.mem_append, List.mem_cons, or_and_right, exists_or, exists_eq_left,
      exists_terms_sumOf]
    simp
  swap rs w := sameFields_sumOf fun f => by simp
  merge ps qs rs c u w := by
    refine sameFields_sumOf fun f => ?_
    simp only [List.mem_append, List.mem_cons, or_and_right, exists_or, exists_eq_left]
    by_cases named : ∃ t ∈ c.terms, t.field = f <;> simp only [named, true_or, false_or, or_true]

omit [Scalar R]

mutual

/-- What is needed of terms does not matter to their fields. -/
theorem sameFields_unmarked : (q : Query R) → SameFields q.unmarked q
  | .leaf l => by
    cases l with
    | term t => exact ⟨fun f => by simp [unmarked, mapTerms, terms], fun _ => ⟨nofun, nofun⟩⟩
    | _ => exact .refl _
  | .modify m c => by
    rw [unmarked_modify]
    exact .modify (sameFields_unmarked c)
  | .join op cs => by
    rw [unmarked_join]
    exact .join (sameFields_unmarkedAll cs)
  | .require c v => by
    rw [unmarked_require]
    exact .require (sameFields_unmarked c) (sameFields_unmarked v)

theorem sameFields_unmarkedAll : (cs : List (Query R)) → List.Forall₂ SameFields (cs.map unmarked) cs
  | [] => .nil
  | c :: cs => .cons (sameFields_unmarked c) (sameFields_unmarkedAll cs)

end

end Query

end Retrieval
