import Retrieval.Proofs.Evaluation.Facts
import Retrieval.Proofs.Evaluation.History
import Mathlib.Data.List.Perm.Basic

/-!
# Answers are facts

Whatever the meaning of a query answers in a document is true of the query there
(`Setting.meaning_tells`): the answers depend on no need, and not on the order in which children are
asked. So are the answers of its compiled trees, whatever they were asked before
(`Session.tree_tells`). This says nothing of what a query refuses to answer. Where sums of counts that
are too large end calls, the calls that do not end so answer as if counts had no bound
(`Session.counting_tells`).
-/

namespace Retrieval

/-! ## Readings that tell -/

/-- The reading gives `a` in the document, if it gives anything. -/
def Says {α : Type} (reading : Reading α) (doc : Nat) (a : α) : Prop :=
  ∀ x, reading doc = .ok x → x = a

namespace Says

variable {α β γ δ : Type} {doc : Nat}

lemma pure (a : α) : Says (Pure.pure a) doc a := by
  rintro _ ⟨⟩
  rfl

lemma throw {e : Fault} {a : α} : Says (MonadExcept.throw e) doc a := nofun

lemma bind {reading : Reading α} {next : α → Reading β} {a : α} {b : β}
    (first : Says reading doc a) (rest : Says (next a) doc b) : Says (reading >>= next) doc b := by
  intro x answered
  obtain ⟨a', read, answered⟩ := bind_eq_ok (show (reading doc >>= (next · doc)) = _ from answered)
  rw [first a' read] at answered
  exact rest x answered

lemma ite {c : Prop} [Decidable c] {reading reading' : Reading α} {a b : α}
    (yes : Says reading doc a) (no : Says reading' doc b) :
    Says (if c then reading else reading') doc (if c then a else b) := by
  split
  · exact yes
  · exact no

/-- What may be refused is what comes after. -/
lemma allowed {c : Prop} [Decidable c] {e : Fault} {next : PUnit → Reading α} {reading : Reading α}
    {a : α} (h : Says reading doc a) :
    Says (if c then MonadExcept.throw e >>= next else reading) doc a := by
  split
  · exact nofun
  · exact h

lemma here : Says (read : Reading Nat) doc doc := by
  rintro _ ⟨⟩
  rfl

lemma ofExcept {result : Except Fault α} {a : α} (h : ∀ x, result = .ok x → x = a) :
    Says (MonadExcept.ofExcept result) doc a := by
  cases result with
  | error e => exact throw
  | ok x => exact h x rfl ▸ pure x

/-! ### Lists -/

variable {cs : List γ} {ds : List δ}

lemma mapM {reading : γ → Reading α} {value : δ → α}
    (each : List.Forall₂ (fun c d => Says (reading c) doc (value d)) cs ds) :
    Says (cs.mapM reading) doc (ds.map value) := by
  induction each with
  | nil => exact pure []
  | cons first _ ih =>
    rw [List.mapM_cons]
    exact first.bind (ih.bind (pure _))

lemma foldlM {reading : α → γ → Reading α} {value : α → δ → α}
    (each : List.Forall₂ (fun c d => ∀ a, Says (reading a c) doc (value a d)) cs ds) (init : α) :
    Says (cs.foldlM reading init) doc (ds.foldl value init) := by
  induction each generalizing init with
  | nil => exact pure init
  | cons first _ ih =>
    rw [List.foldlM_cons]
    exact (first init).bind (ih _)

lemma allM {answer : γ → Reading Bool} {holds : δ → Bool}
    (each : List.Forall₂ (fun c d => Says (answer c) doc (holds d)) cs ds) :
    Says (cs.allM answer) doc (ds.all holds) := by
  induction each with
  | nil => exact pure true
  | @cons c d cs ds first _ ih =>
    refine bind first ?_
    rw [List.all_cons]
    cases holds d with
    | true => exact ih
    | false => exact pure false

lemma anyM {answer : γ → Reading Bool} {holds : δ → Bool}
    (each : List.Forall₂ (fun c d => Says (answer c) doc (holds d)) cs ds) :
    Says (cs.anyM answer) doc (ds.any holds) := by
  induction each with
  | nil => exact pure false
  | @cons c d cs ds first _ ih =>
    refine bind first ?_
    rw [List.any_cons]
    cases holds d with
    | true => exact pure true
    | false => exact ih

/-! ### Sums of counts -/

variable {overflow : Overflow} (exact_ : overflow ≠ .wraps)
include exact_

/-- A sum that does not wrap is the sum. -/
lemma plus (n n' : Nat) : Says (overflow.plus n n') doc (n + n') := by
  cases overflow with
  | never => exact pure _
  | wraps => exact absurd rfl exact_
  | stops =>
    rw [Overflow.plus]
    split
    · exact pure _
    · exact throw

/-- The summary of counts is the one that adds them without a bound. -/
lemma fold (kind : Summary) (counts : List Nat) :
    Says (kind.fold overflow.plus counts) doc (kind.value counts) := by
  cases kind with
  | smallest => exact pure _
  | ceiling =>
    have same : List.Forall₂ Eq counts counts := List.forall₂_refl counts
    have total : Says (counts.foldlM overflow.plus 0) doc (counts.foldl (· + ·) 0) := by
      refine foldlM (same.imp ?_) 0
      rintro n _ rfl total
      exact plus exact_ total n
    rw [← List.sum_eq_foldl_nat] at total
    exact total.bind (pure _)

end Says

/-! ## Answers that tell -/

namespace Answers

variable {R : Type} [Scalar R]

/-- The answers in the document are the facts and the score, as far as there are answers. -/
structure Tells (doc : Nat) (b : Answers R Reading) (f : Facts) (s : R) : Prop where
  matched : Says b.matched doc f.matched
  count : Says b.count doc f.count
  positions : Says b.positions doc f.positions
  score : Says b.score doc s

namespace Tells

variable {doc : Nat} {name description : String} {estimate : Nat} {matched : Reading Bool}
  {details : Reading (List (Explanation R))} {hit : Bool}

lemma boolean (h : Says matched doc hit) :
    Tells doc (.boolean name description estimate matched details) (.boolean hit)
      (Scalar.ofBool hit) :=
  ⟨h, h.bind (.pure _), .throw, h.bind (.pure _)⟩

omit [Scalar R] in
lemma scoring {score : Reading R} {s : R} (h : Says matched doc hit) (value : Says score doc s) :
    Tells doc (.scoring name description estimate matched score details) (.scoring hit) s :=
  ⟨h, .throw, .throw, value⟩

lemma counting {count : Reading Nat} {n : Nat} {s : R} (h : Says matched doc hit)
    (number : Says count doc n) :
    Tells doc (.counting name description estimate matched count (noPositions name) details)
      (.counting hit n) s :=
  ⟨h, number, .throw, .throw⟩

end Tells

end Answers

/-! ## Leaves -/

/-- How the library's own models score. -/
def Spot.rate {R : Type} [Scalar R] (spot : Spot) : Rating R := fun model stats field count doc =>
  match Session.scorer (.leaf .never) model stats, field with
  | .ok s, some f => s.score count ((spot.segment.lengthOf doc f).toOption.getD 0)
  | _, _ => Scalar.miss

/-- It does not matter for what is found what a cursor was opened for. -/
lemma Facts.ofPostings_needed (p : Postings) (needed : Need) (doc : Nat) :
    ofPostings ({ p with needed := needed }.at? doc) = ofPostings (p.at? doc) := by
  have same : ({ p with needed := needed }.advance doc).doc = (p.advance doc).doc := rfl
  rw [Postings.at?, Postings.at?, same]
  split <;> rfl

namespace Setting

variable {R : Type} [Scalar R] {σ : Setting} {doc : Nat}

def spot (σ : Setting) (doc : Nat) : Spot := ⟨σ.segment, σ.defaultField, doc⟩

/-- The answers over postings tell what the cursor is on in the document, whatever it was opened
for. -/
lemma occurring_tells (doc : Nat) (label : String) (needed : Need) (found : Option Postings) (s : R) :
    (occurring label needed found).Tells doc
      (.ofPostings ((found.map ({ · with needed := .docs })).bind (·.at? doc))) s := by
  cases found with
  | none => exact ⟨.pure _, .pure _, .pure _, .throw⟩
  | some p =>
    rw [Option.map_some, Option.bind_some, Facts.ofPostings_needed]
    have here : Says (return p.at? (← read) : Reading _) doc (p.at? doc) := Says.here.bind (.pure _)
    cases found : p.at? doc with
    | none =>
      rw [found] at here
      exact ⟨here.bind (.pure _), .allowed (here.bind (.pure _)), .allowed (here.bind (.pure _)),
        .throw⟩
    | some q =>
      rw [found] at here
      refine ⟨here.bind (.pure _), .allowed (here.bind (.pure _)), .allowed (here.bind ?_), .throw⟩
      refine .ofExcept fun positions told => ?_
      rw [Postings.positions] at told
      rw [Facts.ofPostings]
      split at told
      · cases told
      · cases rest : q.rest <;> rw [rest] at told <;> cases told <;> rfl

/-- The lengths of a field tell the length of the document. -/
lemma lengths_tells (doc : Nat) (segment : Segment) (field : String) (s : R) :
    (Answers.lengths read segment field).Tells doc
      (.counting true ((segment.lengthOf doc field).toOption.getD 0)) s := by
  refine .counting (.pure _) (.bind .here (.ofExcept fun n told => ?_))
  rw [told]
  rfl

/-- The answers of a leaf tell what is true of it. -/
lemma leaf_tells {l : Leaf R} {b : Answers R Reading} (meant : σ.leaf l = .ok b) :
    b.Tells doc (l.facts (σ.spot doc)) (l.score (σ.spot doc)) := by
  cases l with
  | term t =>
    obtain ⟨field, counted, meant⟩ := bind_eq_ok meant
    obtain ⟨found, opened, meant⟩ := bind_eq_ok meant
    cases meant
    have facts : Leaf.facts (R := R) (σ.spot doc) (.term t) =
        .ofPostings ((found.map ({ · with needed := .docs })).bind (·.at? doc)) := by
      have opened' : (do (σ.spot doc).segment.cursor t.text (← t.countedField) .docs) =
          .ok (found.map ({ · with needed := .docs })) := by
        rw [counted]
        exact Segment.cursor_docs opened
      rw [Leaf.facts, Leaf.found, opened']
      rfl
    rw [facts]
    exact occurring_tells doc _ _ found _
  | lengths l =>
    cases meant
    exact lengths_tells doc _ _ _
  | constScore x =>
    cases meant
    exact .scoring (.pure _) (.pure _)
  | constCount n l =>
    cases meant
    exact .counting (.pure _) (.pure _)
  | constBool v =>
    cases meant
    exact .boolean (.pure _)
  | always =>
    cases meant
    exact .boolean (.pure _)
  | never =>
    cases meant
    exact .boolean (.pure _)
  | whitelist w =>
    obtain ⟨ids, within, meant⟩ := bind_eq_ok meant
    cases meant
    have facts : Leaf.facts (R := R) (σ.spot doc) (.whitelist w) = .boolean (ids.contains doc) := by
      change Facts.boolean (((Session.idsWithin σ.segment w).toOption.getD []).contains doc) = _
      rw [within]
      rfl
    rw [Leaf.score, facts]
    · exact .boolean (.bind .here (.pure _))
    · exact nofun
  | raw text =>
    obtain ⟨found, opened, meant⟩ := bind_eq_ok meant
    have facts : Leaf.facts (R := R) (σ.spot doc) (.raw text) =
        .ofPostings (found.bind (·.at? doc)) := by
      change Facts.ofPostings ((σ.segment.rawCursor text).toOption.join.bind (·.at? doc)) = _
      rw [opened]
      rfl
    cases found with
    | none =>
      cases meant
      rw [Leaf.score, facts]
      · exact .boolean (.pure _)
      · exact nofun
    | some p =>
      cases meant
      have tells (s : R) := occurring_tells doc s!"raw:{text}" .docs (some p) s
      rw [Option.map_some, Option.bind_some, Facts.ofPostings_needed] at tells
      rw [facts]
      exact tells _

/-! ## Nodes with children -/

/-- A scorer can be made whatever node it is for. -/
lemma scorer_congr {q q' : Query R} {model : Model R} {stats : Option Statistics} {s : Scorer R}
    (made : Session.scorer q model stats = .ok s) : Session.scorer q' model stats = .ok s := by
  have set {name : String} {x : Option R} {y : R} (h : Session.parameter q name x = .ok y) :
      Session.parameter q' name x = .ok y := by
    cases x with
    | none => cases h
    | some x => exact h
  cases stats with
  | none => cases made
  | some stats =>
    obtain ⟨_, given, made⟩ := bind_eq_ok made
    cases given
    cases model with
    | dirichlet mu =>
      obtain ⟨x, h, made⟩ := bind_eq_ok made
      change (Session.parameter q' "mu" mu >>= _) = _
      rw [set h]
      exact made
    | absoluteDiscounting delta =>
      obtain ⟨x, h, made⟩ := bind_eq_ok made
      change (Session.parameter q' "delta" delta >>= _) = _
      rw [set h]
      exact made
    | bm25 b k =>
      obtain ⟨x, h, made⟩ := bind_eq_ok made
      obtain ⟨y, h', made⟩ := bind_eq_ok made
      change (Session.parameter q' "b" b >>= _) = _
      rw [set h]
      change (Session.parameter q' "k" k >>= _) = _
      rw [set h']
      exact made

/-- The answers of a modified query tell what is true of it. -/
lemma modifier_tells {m : Modifier R} {c : Query R} {change : Answers R Reading → Answers R Reading}
    {x : Answers R Reading} {inner : R} (meant : σ.modifier m c = .ok change)
    (tells : x.Tells doc (c.facts (σ.spot doc)) inner) :
    (change x).Tells doc (m.facts (c.facts (σ.spot doc)))
      (m.score (σ.spot doc).rate (σ.spot doc) c inner) := by
  obtain ⟨matched, count, positions, score⟩ := tells
  cases m with
  | alwaysMatch =>
    cases meant
    exact ⟨.pure _, count, positions, score⟩
  | weight w =>
    cases meant
    exact .scoring matched (score.bind (.pure _))
  | scorer model stats =>
    obtain ⟨s, made, meant⟩ := bind_eq_ok meant
    obtain ⟨field, named, meant⟩ := bind_eq_ok meant
    cases meant
    have length := (lengths_tells (R := R) doc σ.segment field Scalar.zero).count
    have rated : Modifier.score (σ.spot doc).rate (σ.spot doc) c inner (.scorer model stats) =
        s.score (c.facts (σ.spot doc)).count ((σ.segment.lengthOf doc field).toOption.getD 0) := by
      change (match Session.scorer (.leaf .never) model stats,
        (Session.scorerField σ.defaultField c).toOption with
        | .ok s, some f => s.score (c.facts (σ.spot doc)).count
          ((σ.segment.lengthOf doc f).toOption.getD 0)
        | _, _ => Scalar.miss) = _
      rw [scorer_congr made, named]
      rfl
    rw [rated]
    exact ⟨matched, .throw, .throw, count.bind (length.bind (.pure _))⟩
  | countToScore =>
    cases meant
    exact .scoring matched (count.bind (.pure _))
  | boolToScore t f =>
    cases meant
    exact ⟨matched, .throw, .throw, matched.bind (.pure _)⟩
  | countToBool gt =>
    cases meant
    refine .boolean (matched.bind ?_)
    cases (c.facts (σ.spot doc)).matched with
    | true => exact count.bind (.pure _)
    | false => exact .pure false

section Operators

variable {γ : Type} {bs : List (Answers R Reading)} {cs : List γ} {f : γ → Facts} {s : γ → R}
  (tells : List.Forall₂ (fun x c => x.Tells doc (f c) (s c)) bs cs)

include tells

omit [Scalar R] in
/-- Some child matches, whichever is asked first. -/
lemma says_anyMatched :
    Says (Answers.anyMatched bs) doc ((cs.map f).any Facts.matched) := by
  obtain ⟨cs', tells', perm⟩ := List.perm_comp_forall₂ (List.mergeSort_perm bs _) tells
  rw [List.any_map, ← perm.any_eq]
  exact .anyM (tells'.imp fun _ _ => Answers.Tells.matched)

omit [Scalar R] in
/-- All children match, whichever is asked first. -/
lemma says_allMatched {bs' : List (Answers R Reading)} (perm : bs'.Perm bs) :
    Says (Answers.allMatched bs') doc ((cs.map f).all Facts.matched) := by
  obtain ⟨cs', tells', perm⟩ := List.perm_comp_forall₂ perm tells
  rw [List.all_map, ← perm.all_eq]
  exact .allM (tells'.imp fun _ _ => Answers.Tells.matched)

omit [Scalar R] in
/-- The counts of the children are put together. -/
lemma says_foldCounts {step : Nat → Nat → Reading Nat} {value : Nat → Nat → Nat}
    (each : ∀ n m, Says (step n m) doc (value n m)) (init : Nat) :
    Says (bs.foldlM (fun total x => do step total (← x.count)) init) doc
      (((cs.map f).map Facts.count).foldl value init) := by
  rw [List.map_map, List.foldl_map]
  refine .foldlM (tells.imp fun _ _ tells _ => ?_) init
  exact tells.count.bind (each _ _)

omit [Scalar R] in
/-- The scores of the children are put together. -/
lemma says_foldScores (step : R → R → R) (init : R) :
    Says (bs.foldlM (fun total x => return step total (← x.score)) init) doc
      ((cs.map s).foldl step init) := by
  rw [List.foldl_map]
  refine .foldlM (tells.imp fun _ _ tells _ => ?_) init
  exact tells.score.bind (.pure _)

omit [Scalar R] in
/-- Positions are gathered where all children match. -/
lemma says_gather : Says (Answers.gather bs) doc
    (if (cs.map f).all Facts.matched then some ((cs.map f).map Facts.positions) else none) := by
  induction tells with
  | nil => exact .pure _
  | @cons x c bs cs first _ ih =>
    refine first.matched.bind ?_
    rw [List.map_cons, List.all_cons]
    cases (f c).matched with
    | true =>
      refine first.positions.bind (ih.bind ?_)
      rw [Bool.true_and]
      split
      · exact .pure _
      · exact .pure none
    | false => exact .pure none

/-- The answers of a window tell where windows start. -/
lemma window_tells (kind : Window) (score : R) :
    (Answers.window id kind bs).Tells doc (.window kind (cs.map f)) score := by
  have starts : Says (Answers.windowStarts kind bs) doc
      (kind.find (if (cs.map f).all Facts.matched then (cs.map f).map Facts.positions else [])) := by
    refine (says_gather tells).bind ?_
    split
    · exact .pure _
    · exact .pure _
  exact ⟨starts.bind (.pure _), starts.bind (.pure _), starts, .throw⟩

/-- The answers of a summary tell the summary of the counts, where all children match. -/
lemma summary_tells {overflow : Overflow} (exact_ : overflow ≠ .wraps) (kind : Summary)
    (score : R) :
    (Answers.summary overflow.plus kind bs).Tells doc (.summary kind (cs.map f)) score := by
  have all := says_allMatched tells (.refl bs)
  have counts : Says (bs.mapM Answers.count) doc ((cs.map f).map Facts.count) := by
    rw [List.map_map]
    exact .mapM (tells.imp fun _ _ => Answers.Tells.count)
  exact .counting all (all.bind (.ite (counts.bind (.fold exact_ kind _)) (.pure 0)))

/-- The answers of a node with several children tell what is true of it if those of its children
do. -/
lemma operator_tells (exact_ : σ.overflow ≠ .wraps) {op : Operator R} {b : Answers R Reading}
    (meant : σ.operator bs op = .ok b) :
    b.Tells doc (op.facts (cs.map f)) (op.score (cs.map f) (cs.map s)) := by
  have any := says_anyMatched tells
  cases op with
  | and =>
    cases meant
    exact .boolean (says_allMatched tells (List.mergeSort_perm bs _))
  | or =>
    cases meant
    exact .boolean any
  | combine ws =>
    cases meant
    refine .scoring any ?_
    rw [Operator.score, List.zip_map_left, List.foldl_map]
    have same : List.Forall₂ Eq ws ws := List.forall₂_refl ws
    refine .foldlM ((forall₂_zip_zip tells same).imp ?_) _
    rintro ⟨x, w⟩ ⟨c, _⟩ ⟨tells, rfl⟩ sum
    exact tells.score.bind (.pure _)
  | max =>
    cases meant
    exact ⟨any, says_foldCounts tells (fun _ _ => .pure _) 0, .throw,
      says_foldScores tells Scalar.larger Scalar.bottom⟩
  | mult =>
    cases meant
    exact .scoring any (says_foldScores tells (· * ·) Scalar.one)
  | synonym =>
    cases meant
    have positions : Says (bs.mapM Answers.positions) doc ((cs.map f).map Facts.positions) := by
      rw [List.map_map]
      exact .mapM (tells.imp fun _ _ => Answers.Tells.positions)
    exact ⟨any, says_foldCounts tells (.plus exact_) 0, positions.bind (.pure _), .throw⟩
  | orderedWindow step =>
    cases meant
    exact window_tells tells _ _
  | unorderedWindow width =>
    cases meant
    exact window_tells tells _ _
  | prox width =>
    cases meant
    exact window_tells tells _ _
  | smallerCount =>
    cases meant
    exact summary_tells tells exact_ _ _
  | windowCeiling width =>
    cases meant
    exact summary_tells tells exact_ _ _
  | multi names =>
    obtain ⟨_, _, rfl⟩ := named_of_operator meant
    refine ⟨any, ?_, .throw, ?_⟩
    all_goals
      obtain ⟨left, right⟩ | ⟨x, c, left, right, told⟩ :=
        forall₂_getElem? tells (Answers.primary names)
      · simp only [Answers.multi, left]
        exact .throw
      · simp only [Answers.multi, left, Operator.facts, Operator.score, Facts.counting,
          List.getElem?_map, right, Option.map_some, Option.elim_some, Option.getD_some]
        first | exact told.count | exact told.score

end Operators

mutual

/-- The answers of a query tell what is true of it, where sums of counts do not wrap. -/
theorem meaning_tells (exact_ : σ.overflow ≠ .wraps) {b : Answers R Reading} :
    (q : Query R) → σ.meaning q = .ok b →
      b.Tells doc (q.facts (σ.spot doc)) (q.score (σ.spot doc).rate (σ.spot doc))
  | .leaf l, meant => leaf_tells meant
  | .modify m c, meant => by
    obtain ⟨change, modified, meant⟩ := bind_eq_ok meant
    obtain ⟨x, inner, meant⟩ := bind_eq_ok meant
    cases meant
    exact modifier_tells modified (meaning_tells exact_ c inner)
  | .join op cs, meant => by
    obtain ⟨_, _, meant⟩ := bind_eq_ok meant
    obtain ⟨bs, inner, meant⟩ := bind_eq_ok meant
    rw [Query.facts, Query.score, Query.factsAll_eq_map, Query.scoreAll_eq_map]
    exact operator_tells (meanings_tells exact_ cs inner) exact_ meant
  | .require c v, meant => by
    obtain ⟨x, cond, meant⟩ := bind_eq_ok meant
    obtain ⟨y, value, meant⟩ := bind_eq_ok meant
    cases meant
    obtain ⟨matched, _, _, _⟩ := meaning_tells exact_ c cond
    obtain ⟨_, count, positions, score⟩ := meaning_tells exact_ v value
    rw [Query.facts, Query.score, Facts.require]
    cases hit : (c.facts (σ.spot doc)).matched with
    | true =>
      rw [hit] at matched
      exact ⟨matched, matched.bind count, matched.bind positions, matched.bind score⟩
    | false =>
      rw [hit] at matched
      exact ⟨matched, matched.bind (.pure _), matched.bind (.pure _), matched.bind (.pure _)⟩

theorem meanings_tells (exact_ : σ.overflow ≠ .wraps) {bs : List (Answers R Reading)} :
    (cs : List (Query R)) → σ.meanings cs = .ok bs →
      List.Forall₂ (fun x (c : Query R) => x.Tells doc (c.facts (σ.spot doc))
        (c.score (σ.spot doc).rate (σ.spot doc))) bs cs
  | [], meant => by
    cases meant
    exact .nil
  | c :: cs, meant => by
    obtain ⟨x, first, meant⟩ := bind_eq_ok meant
    obtain ⟨xs, rest, meant⟩ := bind_eq_ok meant
    cases meant
    exact .cons (meaning_tells exact_ c first) (meanings_tells exact_ cs rest)

end

end Setting

/-! ## Compiled trees -/

namespace Tree

variable {R : Type} [Scalar R]

/-- The answers of a tree are the facts and the score, as far as there are answers. -/
structure Tells (t : Tree R) (f : Facts) (s : R) : Prop where
  matched : ∀ answer, t.matched.1 = .ok answer → answer = f.matched
  count : ∀ answer, t.count.1 = .ok answer → answer = f.count
  positions : ∀ answer, t.positions.1 = .ok answer → answer = f.positions
  score : ∀ answer, t.score.1 = .ok answer → answer = s

/-- A tree tells what the meaning of its query tells. -/
lemma Stands.tells {o : Origin} {place : Option Nat} {t : Tree R} {b : Answers R Reading} {f : Facts}
    {s : R} (stands : t.Stands o place) (agree : Answers.Agree o t.behaviour b)
    (tells : b.Tells (place.getD 0) f s) : t.Tells f s where
  matched answer told := tells.matched answer ((stands.ask agree.matched).1 ▸ told)
  count answer told := tells.count answer ((stands.ask agree.count).1 ▸ told)
  positions answer told := tells.positions answer ((stands.ask agree.positions).1 ▸ told)
  score answer told := tells.score answer ((stands.ask agree.score).1 ▸ told)

/-- Whatever was asked of a compiled tree before, it tells what is true of its query, unless its sums
wrap. -/
lemma Compiled.tells {σ : Setting} {o : Origin} {q : Query R} {t : Tree R}
    (compiled : t.Compiled σ o q) (stands : t.Stands o none) (exact_ : σ.overflow ≠ .wraps)
    {calls : List Tree.Call} {doc : Nat} (here : placeAfter none calls = some doc) :
    (t.after calls).Tells (q.facts (σ.spot doc)) (q.score (σ.spot doc).rate (σ.spot doc)) := by
  obtain ⟨compiled', stands'⟩ := compiled.after stands calls
  obtain ⟨b, meant, agree⟩ := compiled'.agree
  rw [here] at stands'
  exact stands'.tells agree (Setting.meaning_tells exact_ q meant)

end Tree

namespace Session

variable {R : Type} [Scalar R] {segment : Segment} {defaultField : String} {share : Bool} {q : Query R}
  {t : Tree R} {calls : List Tree.Call} {doc : Nat}

/-- Whatever was asked of a compiled tree before, its answers are what is true of its query in the
current document. -/
theorem tree_tells (compiled : tree segment defaultField share q = .ok t)
    (here : Tree.placeAfter none calls = some doc) :
    let spot : Spot := ⟨segment, defaultField, doc⟩
    (t.after calls).Tells (q.facts spot) (q.score spot.rate spot) := by
  obtain ⟨_, o, t', _, tree_eq, compiled', stands⟩ | ⟨e, _, failed⟩ :=
    tree_compiled segment defaultField share q
  · cases compiled.symm.trans tree_eq
    exact compiled'.tells stands nofun here
  · cases compiled.symm.trans failed

/-- The same holds of a program that sums of counts stop which are too large for it: as long as they
do not, it answers as if counts had no bound. -/
theorem counting_tells (compiled : tree segment defaultField share q = .ok t)
    (here : Tree.placeAfter none calls = some doc) :
    let spot : Spot := ⟨segment, defaultField, doc⟩
    ((t.counting .stops).after calls).Tells (q.facts spot) (q.score spot.rate spot) := by
  obtain ⟨_, o, t', _, tree_eq, _, compiled', stands⟩ | ⟨e, _, failed⟩ :=
    tree_counting .stops segment defaultField share q
  · cases compiled.symm.trans tree_eq
    exact compiled'.tells stands nofun here
  · cases compiled.symm.trans failed

end Session

end Retrieval
