import Retrieval.Proofs.Evaluation.Agreement

/-!
# Behaviours agree with readings

Each kind of node makes its answers from those of its children by steps that agreement is closed
under, so it agrees with its readings if its children do. By induction the behaviour of a plan
agrees with its answers as readings (`Plan.agree`), provided that no two of its windows remember
under the same number.
-/

namespace Retrieval

/-- Counts are summed up alike. -/
lemma Agrees.fold {o : Origin} (kind : Summary) (counts : List Nat) :
    Agrees o (kind.fold Eval.access.plus counts) (kind.fold o.access.plus counts) := by
  cases kind with
  | smallest => exact .pure _
  | ceiling =>
    have same : List.Forall₂ Eq counts counts := List.forall₂_refl counts
    refine .bind (.foldlM same ?_ 0) fun _ => .pure _
    rintro total n _ rfl
    exact .plus total n

/-! ## What nodes answer -/

namespace Answers

variable {R : Type}

/-- The answers of a node agree with readings, one by one. -/
structure Agree (o : Origin) (a : Behaviour R) (b : Answers R Reading) : Prop where
  name : a.name = b.name
  estimate : a.estimate = b.estimate
  matched : Agrees o a.matched b.matched
  count : Agrees o a.count b.count
  positions : Agrees o a.positions b.positions
  score : Agrees o a.score b.score
  explain : Agrees o a.explain b.explain

/-- Lists of nodes agree node by node. -/
abbrev AgreeAll (o : Origin) (cs : List (Behaviour R)) (ds : List (Answers R Reading)) : Prop :=
  List.Forall₂ (Agree o) cs ds

variable {o : Origin} {cs : List (Behaviour R)} {ds : List (Answers R Reading)}

namespace AgreeAll

/-- Nodes that agree have the same estimates. -/
lemma estimates (agree : AgreeAll o cs ds) : cs.map estimate = ds.map estimate := by
  induction agree with
  | nil => rfl
  | cons first _ ih => rw [List.map_cons, List.map_cons, first.estimate, ih]

lemma least (agree : AgreeAll o cs ds) : least cs = Answers.least ds := by
  rw [Answers.least, agree.estimates, Answers.least]

lemma greatest (agree : AgreeAll o cs ds) : greatest cs = Answers.greatest ds := by
  rw [Answers.greatest, agree.estimates, Answers.greatest]

/-- Sorting by estimates puts both lists in the same order. -/
lemma mergeSort (agree : AgreeAll o cs ds) (before : Nat → Nat → Bool) :
    AgreeAll o (cs.mergeSort fun a b => before a.estimate b.estimate)
      (ds.mergeSort fun a b => before a.estimate b.estimate) :=
  forall₂_mergeSort agree (fun _ _ agree => agree.estimate) before

lemma byRising (agree : AgreeAll o cs ds) : AgreeAll o (byRising cs) (Answers.byRising ds) :=
  agree.mergeSort fun m n => m ≤ n

lemma byFalling (agree : AgreeAll o cs ds) : AgreeAll o (byFalling cs) (Answers.byFalling ds) :=
  agree.mergeSort fun m n => n ≤ m

lemma anyMatched (agree : AgreeAll o cs ds) : Agrees o (anyMatched cs) (Answers.anyMatched ds) :=
  .anyM agree.byFalling fun _ _ agree => agree.matched

lemma allMatched (agree : AgreeAll o cs ds) : Agrees o (allMatched cs) (Answers.allMatched ds) :=
  .allM agree fun _ _ agree => agree.matched

lemma explanations (agree : AgreeAll o cs ds) :
    Agrees o (explanations cs) (Answers.explanations ds) :=
  .mapM agree fun _ _ agree => agree.explain

end AgreeAll

namespace Agree

variable [Scalar R]

/-! ## Kinds of answers -/

lemma boolean {name description : String} {estimate estimate' : Nat} {matched : Eval Bool}
    {matched' : Reading Bool} {details : Eval (List (Explanation R))}
    {details' : Reading (List (Explanation R))} (same : estimate = estimate')
    (hit : Agrees o matched matched') (inner : Agrees o details details') :
    Agree o (.boolean name description estimate matched details)
      (.boolean name description estimate' matched' details') where
  name := rfl
  estimate := same
  matched := hit
  count := .bind hit fun _ => .pure _
  positions := .throw _
  score := .bind hit fun _ => .pure _
  explain := .bind hit fun _ => .bind inner fun _ => .pure _

omit [Scalar R] in
lemma scoring {name description : String} {estimate estimate' : Nat} {matched : Eval Bool}
    {matched' : Reading Bool} {score : Eval R} {score' : Reading R}
    {details : Eval (List (Explanation R))} {details' : Reading (List (Explanation R))}
    (same : estimate = estimate') (hit : Agrees o matched matched') (value : Agrees o score score')
    (inner : Agrees o details details') :
    Agree o (.scoring name description estimate matched score details)
      (.scoring name description estimate' matched' score' details') where
  name := rfl
  estimate := same
  matched := hit
  count := .throw _
  positions := .throw _
  score := value
  explain := .bind hit fun _ => .bind value fun _ => .bind inner fun _ => .pure _

lemma counting {name description : String} {estimate estimate' : Nat} {matched : Eval Bool}
    {matched' : Reading Bool} {count : Eval Nat} {count' : Reading Nat}
    {positions : Eval (List Nat)} {positions' : Reading (List Nat)}
    {details : Eval (List (Explanation R))} {details' : Reading (List (Explanation R))}
    (same : estimate = estimate') (hit : Agrees o matched matched')
    (number : Agrees o count count') (places : Agrees o positions positions')
    (inner : Agrees o details details') :
    Agree o (.counting name description estimate matched count positions details)
      (.counting name description estimate' matched' count' positions' details') where
  name := rfl
  estimate := same
  matched := hit
  count := number
  positions := places
  score := .throw _
  explain := .bind hit fun _ => .bind number fun _ => .bind inner fun _ => .pure _

/-! ## Leaves -/

/-- A term agrees if it finds its cursor alike. -/
lemma term {found : Eval (Option Postings)} {found' : Reading (Option Postings)} (label : String)
    (needed : Need) (cost : Nat) (same : Agrees o found found') :
    Agree (R := R) o (.term found label needed cost) (.term found' label needed cost) where
  name := rfl
  estimate := rfl
  matched := .bind same fun _ => .pure _
  count := .ite (.throw _) (.bind same fun _ => .pure _)
  positions := .ite (.throw _) (.bind same fun found => by
    cases found with
    | none => exact .pure []
    | some p => exact .ofExcept p.positions)
  score := .throw _
  explain := .bind same fun _ => .pure _

lemma missing (label : String) : Agree (R := R) o (.missing label) (.missing label) :=
  .counting rfl (.pure _) (.pure _) (.pure _) (.pure _)

lemma lengths (segment : Segment) (field : String) :
    Agree (R := R) o (.lengths Eval.access.here segment field)
      (.lengths o.access.here segment field) :=
  .counting rfl (.pure _) (.bind .here fun _ => .ofExcept _) (.throw _) (.pure _)

lemma source (segment : Segment) (s : Source R) :
    Agree o (s.answers Eval.access segment) (s.answers o.access segment) := by
  cases s with
  | term slot label needed cost => exact term label needed cost (.found slot)
  | missing slot label => exact missing label
  | lengths field => exact lengths segment field
  | constScore value => exact scoring rfl (.pure _) (.pure _) (.pure _)
  | constCount count field =>
    have inner : Agree (R := R) o _ _ := lengths segment field
    exact counting inner.estimate inner.matched (.pure _) (.throw _)
      (AgreeAll.explanations (.cons inner .nil))
  | fixed matched estimate => exact boolean rfl (.pure _) (.pure _)
  | whitelist ids => exact boolean rfl (.bind .here fun _ => .pure _) (.pure _)

/-! ## One child -/

lemma adapter {c : Behaviour R} {d : Answers R Reading} (segment : Segment) (agree : Agree o c d)
    (a : Adapter R) :
    Agree o (a.answers Eval.access segment c) (a.answers o.access segment d) := by
  have inner : AgreeAll o [c] [d] := .cons agree .nil
  cases a with
  | alwaysMatch =>
    exact {
      name := rfl
      estimate := rfl
      matched := .pure _
      count := agree.count
      positions := agree.positions
      score := agree.score
      explain := .bind agree.explain fun _ => .pure _ }
  | weight w =>
    exact scoring agree.estimate agree.matched (.bind agree.score fun _ => .pure _)
      inner.explanations
  | scorer s field =>
    have length : Agree (R := R) o _ _ := lengths segment field
    exact {
      name := rfl
      estimate := agree.estimate
      matched := agree.matched
      count := .throw _
      positions := .throw _
      score := .bind agree.count fun _ => .bind length.count fun _ => .pure _
      explain := .bind agree.count fun _ => .bind length.count fun _ => .bind agree.matched fun _ =>
        .bind inner.explanations fun _ => .pure _ }
  | countToScore =>
    exact scoring agree.estimate agree.matched (.bind agree.count fun _ => .pure _)
      inner.explanations
  | boolToScore t f =>
    exact {
      name := rfl
      estimate := agree.estimate
      matched := agree.matched
      count := .throw _
      positions := .throw _
      score := .bind agree.matched fun _ => .pure _
      explain := .bind agree.matched fun _ => .bind agree.matched fun _ =>
        .bind inner.explanations fun _ => .pure _ }
  | countToBool gt =>
    exact boolean agree.estimate
      (.bind agree.matched fun _ => .ite (.bind agree.count fun _ => .pure _) (.pure _))
      inner.explanations

/-- A required condition agrees: its value is only asked where it matches. -/
lemma require {c v : Behaviour R} {d w : Answers R Reading} (cond : Agree o c d)
    (value : Agree o v w) : Agree o (.require c v) (.require d w) where
  name := rfl
  estimate := cond.estimate
  matched := cond.matched
  count := .bind cond.matched fun _ => .ite value.count (.pure _)
  positions := .bind cond.matched fun _ => .ite value.positions (.pure _)
  score := .bind cond.matched fun _ => .ite value.score (.pure _)
  explain := .bind cond.explain fun _ => .ite (.bind value.explain fun _ => .pure _) (.pure _)

end Agree

/-! ## Several children -/

namespace AgreeAll

variable (agree : AgreeAll o cs ds)
include agree

lemma gather : Agrees o (gather cs) (Answers.gather ds) := by
  induction agree with
  | nil => exact .pure _
  | cons first _ ih =>
    exact .bind first.matched fun _ => .ite
      (.bind first.positions fun _ => .bind ih fun _ => .pure _) (.pure _)

/-- Folds over the counts of the children agree if their steps do. -/
lemma foldCounts {step : Nat → Nat → Eval Nat} {step' : Nat → Nat → Reading Nat}
    (each : ∀ n m, Agrees o (step n m) (step' n m)) (init : Nat) :
    Agrees o (cs.foldlM (fun n c => do step n (← c.count)) init)
      (ds.foldlM (fun n c => do step' n (← c.count)) init) :=
  .foldlM agree (fun n _ _ agree => .bind agree.count (each n)) init

/-- Folds over the scores of the children agree. -/
lemma foldScores (step : R → R → R) (init : R) :
    Agrees o (cs.foldlM (fun x c => return step x (← c.score)) init)
      (ds.foldlM (fun x c => return step x (← c.score)) init) :=
  .foldlM agree (fun x _ _ agree => .bind agree.score fun y => .pure (step x y)) init

variable [Scalar R]

/-- A window agrees if nothing else remembers under its number. -/
lemma window {slot : Nat} (kind : Window) (once : (o.searches.map Prod.fst).Nodup)
    (known : (slot, Answers.windowStarts kind ds) ∈ o.searches) :
    Agree o (.window (Eval.access.remembered slot) kind cs)
      (.window (o.access.remembered slot) kind ds) := by
  have starts : Agrees o (Eval.remembered slot (Answers.windowStarts kind cs))
      (Answers.windowStarts kind ds) :=
    .remembered once known (.bind agree.gather fun _ => .pure _)
  exact {
    name := rfl
    estimate := agree.least
    matched := .bind starts fun _ => .pure _
    count := .bind starts fun _ => .pure _
    positions := starts
    score := .throw _
    explain := .bind starts fun _ => .bind agree.explanations fun _ => .pure _ }

lemma combine (ws : List R) : Agree o (.combine ws cs) (.combine ws ds) := by
  have same : List.Forall₂ Eq ws ws := List.forall₂_refl ws
  have weighted := forall₂_zip_zip agree same
  refine .scoring agree.greatest agree.anyMatched (.foldlM weighted ?_ _) agree.explanations
  rintro sum ⟨c, w⟩ ⟨d, w'⟩ ⟨agree, rfl⟩
  exact .bind agree.score fun _ => .pure _

lemma max : Agree o (.max cs) (.max ds) where
  name := rfl
  estimate := agree.greatest
  matched := agree.anyMatched
  count := agree.foldCounts (fun _ _ => .pure _) 0
  positions := .throw _
  score := agree.foldScores Scalar.larger Scalar.bottom
  explain := .bind agree.anyMatched fun _ =>
    .bind (agree.foldScores Scalar.larger Scalar.bottom) fun _ =>
      .bind agree.explanations fun _ => .pure _

omit [Scalar R] in
lemma multi (names : List String) : Agree o (.multi names cs) (.multi names ds) := by
  have same : List.Forall₂ Eq names names := List.forall₂_refl names
  have named := forall₂_zip_zip same agree
  have count : Agrees o (Answers.multi names cs).count (Answers.multi names ds).count := by
    obtain ⟨left, right⟩ | ⟨c, d, left, right, agree⟩ := forall₂_getElem? agree (primary names)
    · simp only [Answers.multi, left, right, agree.length_eq]
      exact .throw _
    · simp only [Answers.multi, left, right]
      exact agree.count
  have score : Agrees o (Answers.multi names cs).score (Answers.multi names ds).score := by
    obtain ⟨left, right⟩ | ⟨c, d, left, right, agree⟩ := forall₂_getElem? agree (primary names)
    · simp only [Answers.multi, left, right, agree.length_eq]
      exact .throw _
    · simp only [Answers.multi, left, right]
      exact agree.score
  refine ⟨rfl, agree.greatest, agree.anyMatched, count, .throw _, score, ?_⟩
  refine .bind (.mapM named ?_) fun _ => .bind agree.anyMatched fun _ => .bind score fun _ => .pure _
  rintro ⟨name, c⟩ ⟨name', d⟩ ⟨rfl, agree⟩
  exact .bind agree.explain fun _ => .pure _

/-- Operators agree; where the operator is a window, it has to be known. -/
lemma joint (j : Joint R) (once : (o.searches.map Prod.fst).Nodup)
    (known : ∀ slot kind, j = .window slot kind →
      (slot, Answers.windowStarts kind ds) ∈ o.searches) :
    Agree o (j.answers Eval.access cs) (j.answers o.access ds) := by
  cases j with
  | and =>
    exact .boolean agree.least agree.byRising.allMatched agree.byRising.explanations
  | or => exact .boolean agree.greatest agree.anyMatched agree.explanations
  | combine ws => exact agree.combine ws
  | max => exact agree.max
  | mult =>
    exact .scoring agree.greatest agree.anyMatched
      (agree.foldScores (· * ·) Scalar.one) agree.explanations
  | synonym =>
    exact .counting (congrArg addUp agree.estimates) agree.anyMatched
      (agree.foldCounts .plus 0)
      (.bind (.mapM agree fun _ _ agree => agree.positions) fun _ => .pure _) agree.explanations
  | window slot kind => exact agree.window kind once (known slot kind rfl)
  | summary kind =>
    exact .counting agree.least agree.allMatched
      (.bind agree.allMatched fun _ =>
        .ite (.bind (.mapM agree fun _ _ agree => agree.count) (.fold kind)) (.pure _))
      (.throw _) agree.explanations
  | multi names => exact agree.multi names

end AgreeAll

end Answers

/-! ## Whole trees -/

namespace Plan

variable {R : Type} [Scalar R] (segment : Segment)

/-- What the operator of a node looks for over these children, if it is a window. -/
def ownSearches (cs : List (Answers R Reading)) : Joint R → List (Nat × Reading (List Nat))
  | .window slot kind => [(slot, Answers.windowStarts kind cs)]
  | _ => []

mutual

/-- What the windows of a plan look for, under the numbers that they remember it by. -/
def searches (access : Access Reading) : Plan R → List (Nat × Reading (List Nat))
  | .leaf _ => []
  | .modify _ c => searches access c
  | .join j cs =>
    searchesAll access cs ++ ownSearches (answersAll access segment cs) j
  | .require c v => searches access c ++ searches access v

def searchesAll (access : Access Reading) : List (Plan R) → List (Nat × Reading (List Nat))
  | [] => []
  | c :: cs => searches access c ++ searchesAll access cs

end

mutual

/-- The behaviour of a plan agrees with its answers as readings. -/
theorem agree {o : Origin} (once : (o.searches.map Prod.fst).Nodup) :
    (p : Plan R) → p.searches segment o.access ⊆ o.searches →
      Answers.Agree o (p.behaviour segment) (p.answers o.access segment)
  | .leaf s, _ => .source segment s
  | .modify a c, known => .adapter segment (agree once c known) a
  | .join j cs, known => by
    obtain ⟨inner, own⟩ := List.append_subset.mp known
    apply (agreeAll once cs inner).joint j once
    rintro slot kind rfl
    exact own (List.mem_singleton_self _)
  | .require c v, known => by
    obtain ⟨left, right⟩ := List.append_subset.mp known
    exact .require (agree once c left) (agree once v right)

theorem agreeAll {o : Origin} (once : (o.searches.map Prod.fst).Nodup) :
    (cs : List (Plan R)) → searchesAll segment o.access cs ⊆ o.searches →
      Answers.AgreeAll o (behaviours segment cs)
        (answersAll o.access segment cs)
  | [], _ => .nil
  | c :: cs, known => by
    obtain ⟨left, right⟩ := List.append_subset.mp known
    exact .cons (agree once c left) (agreeAll once cs right)

end

end Plan

end Retrieval
