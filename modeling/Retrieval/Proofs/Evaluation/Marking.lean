import Retrieval.Proofs.Evaluation.Adequacy
import Retrieval.Proofs.Evaluation.Success
import Retrieval.Proofs.Query.Marks

/-!
# Answers and marks

A query whose terms are marked with what is asked of them has the same answers however much more its
terms are marked with, and the same faults (`Setting.same_of_marked`). Only scores and explanations
are left out. What has positions also has a count (`Setting.counts_of_meaning`), and a query that is
marked for positions is marked for counts (`Query.Everywhere.lower`).
-/

namespace Retrieval

/-! ## Lists -/

namespace Reading

variable {α β γ : Type} {as : List α} {bs : List β}

lemma anyM_congr {answer : α → Reading Bool} {answer' : β → Reading Bool}
    (same : List.Forall₂ (fun a b => answer a = answer' b) as bs) :
    as.anyM answer = bs.anyM answer' := by
  induction same with
  | nil => rfl
  | cons first _ ih => rw [List.anyM, List.anyM, first, ih]

lemma allM_congr {answer : α → Reading Bool} {answer' : β → Reading Bool}
    (same : List.Forall₂ (fun a b => answer a = answer' b) as bs) :
    as.allM answer = bs.allM answer' := by
  induction same with
  | nil => rfl
  | cons first _ ih => rw [List.allM, List.allM, first, ih]

lemma mapM_congr {reading : α → Reading γ} {reading' : β → Reading γ}
    (same : List.Forall₂ (fun a b => reading a = reading' b) as bs) :
    as.mapM reading = bs.mapM reading' := by
  induction same with
  | nil => rfl
  | cons first _ ih => rw [List.mapM_cons, List.mapM_cons, first, ih]

lemma foldlM_congr {step : γ → α → Reading γ} {step' : γ → β → Reading γ}
    (same : List.Forall₂ (fun a b => ∀ c, step c a = step' c b) as bs) (init : γ) :
    as.foldlM step init = bs.foldlM step' init := by
  induction same generalizing init with
  | nil => rfl
  | cons first _ ih =>
    rw [List.foldlM_cons, List.foldlM_cons, first]
    exact bind_congr ih

end Reading

/-! ## Nodes with the same answers -/

namespace Answers

variable {R : Type} {need : Need} {b b' : Answers R Reading} {bs bs' : List (Answers R Reading)}

/-- Both nodes have the same answers as far as they go with a need, or refuse them alike; scores are
left out. -/
structure Same (need : Need) (b b' : Answers R Reading) : Prop where
  estimate : b.estimate = b'.estimate
  matched : b.matched = b'.matched
  count : need = .counts ∨ need = .positions → b.count = b'.count
  positions : need = .positions → b.positions = b'.positions

/-- Lists of nodes have the same answers node by node. -/
abbrev SameAll (need : Need) (bs bs' : List (Answers R Reading)) : Prop :=
  List.Forall₂ (Same need) bs bs'

namespace Same

lemma refl (b : Answers R Reading) : Same need b b := ⟨rfl, rfl, fun _ => rfl, fun _ => rfl⟩

variable [Scalar R] {name description : String} {estimate estimate' : Nat}
  {matched matched' : Reading Bool} {details details' : Reading (List (Explanation R))}

lemma boolean (guess : estimate = estimate') (hit : matched = matched') :
    Same need (.boolean name description estimate matched details)
      (.boolean name description estimate' matched' details') := by
  subst guess hit
  exact ⟨rfl, rfl, fun _ => rfl, fun _ => rfl⟩

omit [Scalar R] in
lemma scoring {description' : String} {score score' : Reading R} (guess : estimate = estimate')
    (hit : matched = matched') :
    Same need (.scoring name description estimate matched score details)
      (.scoring name description' estimate' matched' score' details') :=
  ⟨guess, hit, fun _ => rfl, fun _ => rfl⟩

lemma counting {count count' : Reading Nat} {positions positions' : Reading (List Nat)}
    (guess : estimate = estimate') (hit : matched = matched')
    (number : need = .counts ∨ need = .positions → count = count')
    (places : need = .positions → positions = positions') :
    Same need (.counting name description estimate matched count positions details)
      (.counting name description estimate' matched' count' positions' details') :=
  ⟨guess, hit, number, places⟩

end Same

namespace SameAll

variable (same : SameAll need bs bs')
include same

lemma estimates : bs.map estimate = bs'.map estimate :=
  forall₂_map_eq.mp (same.imp fun _ _ => Same.estimate)

lemma least : least bs = Answers.least bs' := by
  rw [Answers.least, estimates same, Answers.least]

lemma greatest : greatest bs = Answers.greatest bs' := by
  rw [Answers.greatest, estimates same, Answers.greatest]

lemma byRising : SameAll need (byRising bs) (Answers.byRising bs') :=
  forall₂_mergeSort same (fun _ _ => Same.estimate) fun m n => m ≤ n

lemma byFalling : SameAll need (byFalling bs) (Answers.byFalling bs') :=
  forall₂_mergeSort same (fun _ _ => Same.estimate) fun m n => n ≤ m

lemma allMatched : allMatched bs = Answers.allMatched bs' :=
  Reading.allM_congr (same.imp fun _ _ => Same.matched)

lemma anyMatched : anyMatched bs = Answers.anyMatched bs' :=
  Reading.anyM_congr (same.byFalling.imp fun _ _ => Same.matched)

/-- The counts of the children are put together alike. -/
lemma foldCounts (asked : need = .counts ∨ need = .positions) (step : Nat → Nat → Reading Nat)
    (init : Nat) : bs.foldlM (fun total b => do step total (← b.count)) init =
      (bs'.foldlM (fun total b => do step total (← b.count)) init : Reading Nat) :=
  Reading.foldlM_congr (same.imp fun _ _ same total => by rw [same.count asked]) init

/-- The positions of the children are gathered alike. -/
lemma gather (asked : need = .positions) : gather bs = Answers.gather bs' := by
  induction same with
  | nil => rfl
  | cons first _ ih => rw [Answers.gather, Answers.gather, first.matched, first.positions asked, ih]

/-- The child that speaks for a multi query has the same answers. -/
lemma multi (names : List String) : Same need (.multi names bs) (.multi names bs') := by
  refine ⟨same.greatest, same.anyMatched, fun asked => ?_, fun _ => rfl⟩
  obtain ⟨left, right⟩ | ⟨b, b', left, right, first⟩ := forall₂_getElem? same (primary names)
  · simp only [Answers.multi, left, right, same.length_eq]
  · simp only [Answers.multi, left, right, first.count asked]

variable [Scalar R]

lemma window (asked : need = .positions) (kind : Window) (need' : Need) :
    Same need' (.window id kind bs) (.window id kind bs') := by
  have starts : windowStarts kind bs = windowStarts kind bs' := by
    rw [windowStarts, same.gather asked, windowStarts]
  refine ⟨same.least, ?_, fun _ => ?_, fun _ => starts⟩
  · exact congrArg (fun starts : Reading _ => (return !(← starts).isEmpty : Reading Bool)) starts
  · exact congrArg (fun starts : Reading _ => (return (← starts).length : Reading Nat)) starts

lemma summary (asked : need = .counts) (plus : Nat → Nat → Reading Nat) (kind : Summary)
    (need' : Need) : Same need' (.summary plus kind bs) (.summary plus kind bs') := by
  have counts : bs.mapM count = bs'.mapM count :=
    Reading.mapM_congr (same.imp fun _ _ same => same.count (.inl asked))
  refine .counting same.least same.allMatched (fun _ => ?_) fun _ => rfl
  rw [same.allMatched, counts]

end SameAll

end Answers

/-! ## Meanings -/

/-- What a cursor was opened for does not matter to what it is on. -/
lemma Postings.at?_ofList (list : List Posting) (needed : Need) (doc : Nat) :
    (ofList list needed).at? doc = ((ofList list .docs).at? doc).map ({ · with needed }) := by
  have same : ((ofList list needed).advance doc).doc = ((ofList list .docs).advance doc).doc := rfl
  rw [at?, at?, same]
  split <;> rfl

/-- The postings of a cursor do not depend on what it is opened for. -/
lemma Segment.eq_of_cursor {segment : Segment} {text field : String} {needed : Need}
    {found : Option Postings} (opened : segment.cursor text field needed = .ok found) :
    found = ((segment.field? field).bind fun f => f.postings.lookup text).map
      (Postings.ofList · needed) := by
  rw [cursor] at opened
  split at opened
  · cases opened
  · exact (Except.ok.inj opened).symm

/-- Leaves without their marks are the same if they are terms with different marks, or the same. -/
lemma Query.leaf_cases_of_unmarked {R : Type} {l k : Leaf R}
    (same : unmarked (.leaf l) = unmarked (.leaf k)) :
    (∃ t needed, l = .term t ∧ k = .term { t with needed }) ∨ (∀ t, l ≠ .term t) ∧ l = k := by
  cases l with
  | term t =>
    cases k with
    | term s =>
      refine .inl ⟨t, s.needed, rfl, ?_⟩
      cases t
      cases s
      cases same
      rfl
    | _ => cases same
  | _ =>
    refine .inr ⟨nofun, ?_⟩
    cases k <;> cases same
    rfl

namespace Setting

open Answers

variable {R : Type} [Scalar R] {σ σ' : Setting} {need : Need}

/-- It does not matter how much more a term is opened for than is needed of it. -/
lemma occurring_same (label : String) {opened opened' : Need} (list : Option (List Posting))
    (le : need ≤ opened) (le' : need ≤ opened') :
    Same need (occurring (R := R) label opened (list.map (Postings.ofList · opened)))
      (occurring label opened' (list.map (Postings.ofList · opened'))) := by
  cases list with
  | none => exact .refl _
  | some list =>
    refine ⟨rfl, ?_, fun asked => ?_, fun asked => ?_⟩
    · funext doc
      change Except.ok (Option.isSome _) = Except.ok (Option.isSome _)
      rw [Postings.at?_ofList list opened, Postings.at?_ofList list opened', Option.isSome_map,
        Option.isSome_map]
    · have enough := Need.not_lt_of_le (Need.le_trans (Need.counts_le asked) le)
      have enough' := Need.not_lt_of_le (Need.le_trans (Need.counts_le asked) le')
      simp only [occurring, Option.map_some, Answers.term, if_neg enough, if_neg enough']
      funext doc
      change Except.ok (Option.elim _ 0 Postings.count) = Except.ok (Option.elim _ 0 Postings.count)
      rw [Postings.at?_ofList list opened, Postings.at?_ofList list opened', Option.elim_map,
        Option.elim_map]
      rfl
    · rw [asked] at le le'
      have enough := Need.not_lt_of_le le
      have enough' := Need.not_lt_of_le le'
      simp only [occurring, Option.map_some, Answers.term, if_neg enough, if_neg enough']
      funext doc
      have found (opened : Need) : (return (Postings.ofList list opened).at? (← read) : Reading _) doc
          = .ok (((Postings.ofList list .docs).at? doc).map ({ · with needed := opened })) :=
        congrArg Except.ok (Postings.at?_ofList list opened doc)
      refine (Reading.bind_of_ok _ (found opened)).trans
        (.trans ?_ (Reading.bind_of_ok _ (found opened')).symm)
      cases (Postings.ofList list .docs).at? doc with
      | none => rfl
      | some p =>
        simp only [Option.map_some, Postings.positions, if_neg enough, if_neg enough']

/-- Leaves that differ in their marks have the same answers if both are marked with what is asked. -/
lemma leaf_same {l k : Leaf R} {b b' : Answers R Reading} (segment : σ.segment = σ'.segment)
    (field : σ.defaultField = σ'.defaultField)
    (same : Query.unmarked (.leaf l) = Query.unmarked (.leaf k))
    (marked : Query.IsMarked need (.leaf l)) (marked' : Query.IsMarked need (.leaf k))
    (meant : σ.leaf l = .ok b) (meant' : σ'.leaf k = .ok b') : Same need b b' := by
  rcases Query.leaf_cases_of_unmarked same with ⟨t, needed, rfl, rfl⟩ | ⟨other, rfl⟩
  · obtain ⟨field, counted, meant⟩ := bind_eq_ok meant
    obtain ⟨field', counted', meant'⟩ := bind_eq_ok meant'
    cases counted.symm.trans counted'
    obtain ⟨found, opened, meant⟩ := bind_eq_ok meant
    obtain ⟨found', opened', meant'⟩ := bind_eq_ok meant'
    cases meant
    cases meant'
    rw [Segment.eq_of_cursor opened, Segment.eq_of_cursor opened', segment]
    exact occurring_same _ _ (Need.le_trans (marked t rfl) (σ.le_opened _ _))
      (Need.le_trans (marked' _ rfl) (σ'.le_opened _ _))
  · have meanings : σ.leaf l = σ'.leaf l := by
      cases l with
      | term t => exact absurd rfl (other t)
      | _ => simp only [leaf, lengths, segment, field]
    cases meant.symm.trans (meanings.trans meant')
    exact .refl b

/-- Modifiers keep the answers the same that their children have. -/
lemma modifier_same {m : Modifier R} {c c' : Query R}
    {change change' : Answers R Reading → Answers R Reading} {b b' : Answers R Reading}
    (segment : σ.segment = σ'.segment) (admits : Query.Admits need (.modify m c))
    (meant : σ.modifier m c = .ok change) (meant' : σ'.modifier m c' = .ok change')
    (inner : Same (m.childNeed need) b b') : Same need (change b) (change' b') := by
  cases m with
  | alwaysMatch =>
    cases meant
    cases meant'
    exact ⟨congrArg Segment.size segment, rfl, inner.count, inner.positions⟩
  | weight w =>
    cases meant
    cases meant'
    exact .scoring inner.estimate inner.matched
  | scorer model stats =>
    obtain ⟨_, _, meant⟩ := bind_eq_ok meant
    obtain ⟨_, _, meant⟩ := bind_eq_ok meant
    obtain ⟨_, _, meant'⟩ := bind_eq_ok meant'
    obtain ⟨_, _, meant'⟩ := bind_eq_ok meant'
    cases meant
    cases meant'
    exact ⟨inner.estimate, inner.matched, fun asked => (nomatch admits.counted asked),
      fun asked => nomatch admits.counted (.inr asked)⟩
  | countToScore =>
    cases meant
    cases meant'
    exact .scoring inner.estimate inner.matched
  | boolToScore t f =>
    cases meant
    cases meant'
    exact ⟨inner.estimate, inner.matched, fun _ => rfl, fun _ => rfl⟩
  | countToBool gt =>
    cases meant
    cases meant'
    refine .boolean inner.estimate ?_
    rw [inner.matched, inner.count (.inl rfl)]

/-- Operators keep the answers the same that their children have. -/
lemma operator_same {op : Operator R} {cs : List (Query R)} {bs bs' : List (Answers R Reading)}
    {b b' : Answers R Reading} (overflow : σ.overflow = σ'.overflow)
    (admits : Query.Admits need (.join op cs)) (meant : σ.operator bs op = .ok b)
    (meant' : σ'.operator bs' op = .ok b')
    (same : SameAll (op.childNeed need) bs bs') : Same need b b' := by
  cases op with
  | and =>
    cases meant
    cases meant'
    exact .boolean same.least same.byRising.allMatched
  | or =>
    cases meant
    cases meant'
    exact .boolean same.greatest same.anyMatched
  | combine ws =>
    cases meant
    cases meant'
    exact .scoring same.greatest same.anyMatched
  | max =>
    cases meant
    cases meant'
    refine ⟨same.greatest, same.anyMatched, fun asked => ?_, fun _ => rfl⟩
    have asked := asked.resolve_right fun asked => nomatch admits.placed asked
    subst asked
    exact same.foldCounts (.inl rfl) (fun best n => return Max.max best n) 0
  | mult =>
    cases meant
    cases meant'
    exact .scoring same.greatest same.anyMatched
  | synonym =>
    cases meant
    cases meant'
    refine .counting (congrArg addUp same.estimates) same.anyMatched (fun asked => ?_) fun asked => ?_
    · rw [overflow]
      exact same.foldCounts asked σ'.overflow.plus 0
    · rw [Reading.mapM_congr (same.imp fun _ _ same => same.positions asked)]
  | orderedWindow step =>
    cases meant
    cases meant'
    exact same.window rfl _ _
  | unorderedWindow width =>
    cases meant
    cases meant'
    exact same.window rfl _ _
  | prox width =>
    cases meant
    cases meant'
    exact same.window rfl _ _
  | smallerCount =>
    cases meant
    cases meant'
    rw [overflow]
    exact same.summary rfl _ _ _
  | windowCeiling width =>
    cases meant
    cases meant'
    rw [overflow]
    exact same.summary rfl _ _ _
  | multi names =>
    obtain ⟨_, _, rfl⟩ := named_of_operator meant
    obtain ⟨_, _, rfl⟩ := named_of_operator meant'
    exact same.multi names

/-- Queries that differ in their marks have the same answers, as far as they go with a need that both
are fit for and marked with. -/
theorem same_of_marked {q q' : Query R} {b b' : Answers R Reading}
    (segment : σ.segment = σ'.segment) (field : σ.defaultField = σ'.defaultField)
    (overflow : σ.overflow = σ'.overflow)
    (marked : Query.Everywhere (fun n c => Query.Fit n c ∧ Query.IsMarked n c) need q)
    (marked' : Query.Everywhere Query.IsMarked need q') (same : q.unmarked = q'.unmarked)
    (meant : σ.meaning q = .ok b) (meant' : σ'.meaning q' = .ok b') : Same need b b' := by
  induction marked generalizing q' b b' with
  | leaf here =>
    obtain ⟨k, rfl⟩ := Query.eq_leaf_of_unmarked same.symm
    exact leaf_same segment field same here.2 marked'.here meant meant'
  | modify here _ ih =>
    obtain ⟨c', rfl, below⟩ := Query.eq_modify_of_unmarked same.symm
    obtain ⟨change, modified, meant⟩ := bind_eq_ok meant
    obtain ⟨x, inner, meant⟩ := bind_eq_ok meant
    obtain ⟨change', modified', meant'⟩ := bind_eq_ok meant'
    obtain ⟨x', inner', meant'⟩ := bind_eq_ok meant'
    cases meant
    cases meant'
    cases marked' with
    | modify _ marked' =>
      exact modifier_same segment here.1.admits modified modified'
        (ih marked' below.symm inner inner')
  | @join need op cs here _ ih =>
    rw [Query.unmarked_join] at same
    obtain ⟨cs', rfl, below⟩ := Query.eq_join_of_unmarked same.symm
    obtain ⟨_, _, meant⟩ := bind_eq_ok meant
    obtain ⟨bs, inner, meant⟩ := bind_eq_ok meant
    obtain ⟨_, _, meant'⟩ := bind_eq_ok meant'
    obtain ⟨bs', inner', meant'⟩ := bind_eq_ok meant'
    rw [meanings_eq_mapM] at inner inner'
    cases marked' with
    | join _ marked' =>
      refine operator_same overflow here.1.admits meant meant' (forall₂_of_map_eq below.symm
        (fun c mem c' mem' same x x' => ?_) (forall₂_of_mapM inner) (forall₂_of_mapM inner'))
      exact ih c mem (marked' c' mem') same
  | require here _ _ ihc ihv =>
    obtain ⟨c', v', rfl, below, below'⟩ := Query.eq_require_of_unmarked same.symm
    obtain ⟨x, cond, meant⟩ := bind_eq_ok meant
    obtain ⟨y, value, meant⟩ := bind_eq_ok meant
    obtain ⟨x', cond', meant'⟩ := bind_eq_ok meant'
    obtain ⟨y', value', meant'⟩ := bind_eq_ok meant'
    cases meant
    cases meant'
    cases marked' with
    | require _ marked' marked'' =>
      have first := ihc marked' below.symm cond cond'
      have second := ihv marked'' below'.symm value value'
      refine ⟨first.estimate, first.matched, fun asked => ?_, fun asked => ?_⟩
      · simp only [Answers.require, first.matched, second.count asked]
      · simp only [Answers.require, first.matched, second.positions asked]

/-! ## What has positions has a count -/

end Setting

namespace Answers

variable {R : Type} {doc : Nat}

/-- A node that tells positions in the document tells a count there. -/
def Countable (doc : Nat) (b : Answers R Reading) : Prop :=
  ∀ ps, b.positions doc = .ok ps → ∃ n, b.count doc = .ok n

/-- The counts of children can be added up if there are counts and sums do not end calls. -/
lemma exists_sum {overflow : Overflow} (goes : overflow ≠ .stops) {bs : List (Answers R Reading)}
    (each : ∀ b ∈ bs, ∃ n, b.count doc = .ok n) (init : Nat) :
    ∃ n, (bs.foldlM (fun total b => do overflow.plus total (← b.count)) init : Reading Nat) doc
      = .ok n := by
  induction bs generalizing init with
  | nil => exact ⟨init, rfl⟩
  | cons b bs ih =>
    obtain ⟨⟨n, first⟩, rest⟩ := List.forall_mem_cons.mp each
    have ends : Succeeds False doc (overflow.plus init n) := .plus goes init n
    obtain ⟨sum, added⟩ := ends.exists_ok id
    obtain ⟨total, rest⟩ := ih rest sum
    refine ⟨total, ?_⟩
    rw [List.foldlM_cons, Reading.bind_of_ok _ ((Reading.bind_of_ok _ first).trans added)]
    exact rest

/-- Positions are gathered where all children match and have them; otherwise one does not match. -/
lemma gather_cases {bs : List (Answers R Reading)} {found : Option (List (List Nat))}
    (gathered : gather bs doc = .ok found) :
    found = none ∧ allMatched bs doc = .ok false ∨
      allMatched bs doc = .ok true ∧ ∀ b ∈ bs, ∃ ps, b.positions doc = .ok ps := by
  induction bs generalizing found with
  | nil => exact .inr ⟨rfl, List.forall_mem_nil _⟩
  | cons b bs ih =>
    obtain ⟨hit, first, gathered⟩ := Reading.bind_eq_ok gathered
    cases hit with
    | false =>
      cases gathered
      exact .inl ⟨rfl, Reading.bind_of_ok _ first⟩
    | true =>
      have all : allMatched (b :: bs) doc = allMatched bs doc := Reading.bind_of_ok _ first
      obtain ⟨ps, placed, gathered⟩ := Reading.bind_eq_ok gathered
      obtain ⟨found', rest, gathered⟩ := Reading.bind_eq_ok gathered
      cases gathered
      rcases ih rest with ⟨rfl, none⟩ | ⟨matched, each⟩
      · exact .inl ⟨rfl, all.trans none⟩
      · exact .inr ⟨all.trans matched, List.forall_mem_cons.mpr ⟨⟨ps, placed⟩, each⟩⟩

end Answers

namespace Setting

variable {R : Type} [Scalar R] {σ : Setting} {doc : Nat}

open Answers

lemma occurring_countable (label : String) (opened : Need) (found : Option Postings) :
    (occurring (R := R) label opened found).Countable doc := by
  intro ps told
  cases found with
  | none => exact ⟨0, rfl⟩
  | some p =>
    by_cases low : opened < .positions
    · simp only [occurring, Answers.term, if_pos low] at told
      cases told
    · have enough : ¬opened < .counts := fun lower => low (Nat.lt_trans lower (by decide))
      simp only [occurring, Answers.term, if_neg enough]
      exact ⟨_, rfl⟩

lemma leaf_countable {l : Leaf R} {b : Answers R Reading} (meant : σ.leaf l = .ok b) :
    b.Countable doc := by
  cases l with
  | term t =>
    obtain ⟨_, _, meant⟩ := bind_eq_ok meant
    obtain ⟨_, _, meant⟩ := bind_eq_ok meant
    cases meant
    exact occurring_countable _ _ _
  | raw text =>
    obtain ⟨found, _, meant⟩ := bind_eq_ok meant
    cases found with
    | none =>
      cases meant
      exact nofun
    | some p =>
      cases meant
      exact occurring_countable _ _ _
  | whitelist w =>
    obtain ⟨_, _, meant⟩ := bind_eq_ok meant
    cases meant
    exact nofun
  | _ =>
    cases meant
    exact nofun

lemma modifier_countable {m : Modifier R} {c : Query R}
    {change : Answers R Reading → Answers R Reading} {b : Answers R Reading}
    (meant : σ.modifier m c = .ok change) (inner : b.Countable doc) : (change b).Countable doc := by
  cases m with
  | alwaysMatch =>
    cases meant
    exact inner
  | scorer model stats =>
    obtain ⟨_, _, meant⟩ := bind_eq_ok meant
    obtain ⟨_, _, meant⟩ := bind_eq_ok meant
    cases meant
    exact nofun
  | _ =>
    cases meant
    exact nofun

lemma window_countable (kind : Window) (bs : List (Answers R Reading)) :
    (window id kind bs).Countable doc :=
  fun starts told => ⟨starts.length, Reading.bind_of_ok _ told⟩

lemma operator_countable {op : Operator R} {bs : List (Answers R Reading)} {b : Answers R Reading}
    (goes : σ.overflow ≠ .stops) (meant : σ.operator bs op = .ok b)
    (inner : ∀ b ∈ bs, b.Countable doc) : b.Countable doc := by
  cases op with
  | synonym =>
    cases meant
    intro ps told
    obtain ⟨lists, each, _⟩ := Reading.bind_eq_ok told
    refine exists_sum goes (fun b mem => ?_) 0
    obtain ⟨list, _, placed⟩ := (exists_mem_of_forall₂ (Reading.forall₂_of_mapM each)).1 b mem
    exact inner b mem list placed
  | orderedWindow step =>
    cases meant
    exact window_countable _ _
  | unorderedWindow width =>
    cases meant
    exact window_countable _ _
  | prox width =>
    cases meant
    exact window_countable _ _
  | multi names =>
    obtain ⟨_, _, rfl⟩ := named_of_operator meant
    intro ps told
    cases told
  | _ =>
    cases meant
    intro ps told
    cases told

mutual

/-- A query that tells its positions in a document tells its count there. -/
theorem meaning_countable (goes : σ.overflow ≠ .stops) {b : Answers R Reading} : (q : Query R) →
    σ.meaning q = .ok b → b.Countable doc
  | .leaf l, meant => leaf_countable meant
  | .modify m c, meant => by
    obtain ⟨change, modified, meant⟩ := bind_eq_ok meant
    obtain ⟨x, inner, meant⟩ := bind_eq_ok meant
    cases meant
    exact modifier_countable modified (meaning_countable goes c inner)
  | .join op cs, meant => by
    obtain ⟨_, _, meant⟩ := bind_eq_ok meant
    obtain ⟨bs, inner, meant⟩ := bind_eq_ok meant
    exact operator_countable goes meant (meanings_countable goes cs inner)
  | .require c v, meant => by
    obtain ⟨x, cond, meant⟩ := bind_eq_ok meant
    obtain ⟨y, value, meant⟩ := bind_eq_ok meant
    cases meant
    intro ps told
    obtain ⟨hit, matched, told⟩ := Reading.bind_eq_ok told
    cases hit with
    | false => exact ⟨0, Reading.bind_of_ok _ matched⟩
    | true =>
      obtain ⟨n, counted⟩ := meaning_countable goes v value ps told
      exact ⟨n, (Reading.bind_of_ok _ matched).trans counted⟩

theorem meanings_countable (goes : σ.overflow ≠ .stops) {bs : List (Answers R Reading)} :
    (cs : List (Query R)) → σ.meanings cs = .ok bs → ∀ b ∈ bs, b.Countable doc
  | [], meant => by
    cases meant
    exact List.forall_mem_nil _
  | c :: cs, meant => by
    obtain ⟨x, first, meant⟩ := bind_eq_ok meant
    obtain ⟨xs, rest, meant⟩ := bind_eq_ok meant
    cases meant
    exact List.forall_mem_cons.mpr ⟨meaning_countable goes c first,
      meanings_countable goes cs rest⟩

end

end Setting

/-! ## Lesser needs -/

namespace Query

variable {R : Type} {P : Need → Query R → Prop}

/-- What holds at every node for positions holds at every node for counts, if only nodes that tell
positions are asked for them and there is no difference at a single node. -/
lemma Everywhere.lower (placed : ∀ c, P .positions c → c.tellsPositions = true)
    (lower : ∀ c, P .positions c → P .counts c) {need : Need} {q : Query R}
    (h : Everywhere P need q) (asked : need = .positions) : Everywhere P .counts q := by
  induction h with
  | leaf here =>
    subst asked
    exact .leaf (lower _ here)
  | @modify _ m c here below ih =>
    subst asked
    have tells := placed _ here
    cases m with
    | alwaysMatch => exact .modify (lower _ here) (ih rfl)
    | _ => cases tells
  | @join _ op cs here below ih =>
    subst asked
    have tells := placed _ here
    cases op with
    | synonym => exact .join (lower _ here) fun c mem => ih c mem rfl
    | orderedWindow step => exact .join (lower _ here) below
    | unorderedWindow width => exact .join (lower _ here) below
    | prox width => exact .join (lower _ here) below
    | _ => cases tells
  | require here cond _ _ ihv =>
    subst asked
    exact .require (lower _ here) cond (ihv rfl)

/-- A node that is fit for positions is fit for counts. -/
lemma Fit.lower {q : Query R} (fit : Fit .positions q) : Fit .counts q :=
  ⟨⟨fun _ => fit.admits.counted (.inr rfl), nofun, nofun⟩, fit.enough⟩

lemma IsMarked.lower {q : Query R} (marked : IsMarked .positions q) : IsMarked .counts q :=
  fun t same => Need.le_trans (by decide) (marked t same)

end Query

end Retrieval
