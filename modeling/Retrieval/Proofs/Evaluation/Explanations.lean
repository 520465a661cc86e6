import Retrieval.Proofs.Evaluation.Soundness

/-!
# Explanations say what nodes answer

Every kind of node makes its explanation in its own way: it asks for its score, reckons it anew from
the answers of its children, or reads it off what a child explains. All the same, where a node is
explained its explanation matches if the node does, and its value is the node's score wherever the
node is asked for scores (`Setting.explains_score`). The details are explanations of children in
their turn, so a whole explanation is a trace of what the nodes of the plan answer (`Plan.traces`),
and of what those of a tree answer that has come to the document (`Tree.Compiled.explained`).
-/

namespace Retrieval

/-! ## One node -/

namespace Answers

variable {R : Type}

/-- The explanation of a node says whether the node matches, and has these details. -/
structure Explains (b : Answers R Reading) (details : Reading (List (Explanation R))) (d : Nat)
    (x : Explanation R) : Prop where
  matched : b.matched d = .ok x.matched
  details : details d = .ok x.details

/-- The explanation of a node says, in addition, what the node scores. -/
structure ExplainsScore (b : Answers R Reading) (details : Reading (List (Explanation R))) (d : Nat)
    (x : Explanation R) : Prop extends Explains b details d x where
  value : b.score d = .ok x.value

variable {details : Reading (List (Explanation R))} {d : Nat} {x : Explanation R}

namespace Explains

lemma scoring {name description : String} {estimate : Nat} {matched : Reading Bool}
    {score : Reading R}
    (explained : (scoring name description estimate matched score details).explain d = .ok x) :
    ExplainsScore (.scoring name description estimate matched score details) details d x := by
  obtain ⟨hit, matches_, explained⟩ := Reading.bind_eq_ok explained
  obtain ⟨s, scores, explained⟩ := Reading.bind_eq_ok explained
  obtain ⟨inner, children, explained⟩ := Reading.bind_eq_ok explained
  cases explained
  exact ⟨⟨matches_, children⟩, scores⟩

variable [Scalar R]

lemma boolean {name description : String} {estimate : Nat} {matched : Reading Bool}
    (explained : (boolean name description estimate matched details).explain d = .ok x) :
    ExplainsScore (.boolean name description estimate matched details) details d x := by
  obtain ⟨hit, matches_, explained⟩ := Reading.bind_eq_ok explained
  obtain ⟨inner, children, explained⟩ := Reading.bind_eq_ok explained
  cases explained
  exact ⟨⟨matches_, children⟩, Reading.bind_of_ok _ matches_⟩

lemma counting {name description : String} {estimate : Nat} {matched : Reading Bool}
    {count : Reading Nat} {positions : Reading (List Nat)}
    (explained : (counting name description estimate matched count positions details).explain d =
      .ok x) :
    Explains (.counting name description estimate matched count positions details) details d x := by
  obtain ⟨hit, matches_, explained⟩ := Reading.bind_eq_ok explained
  obtain ⟨n, counted, explained⟩ := Reading.bind_eq_ok explained
  obtain ⟨inner, children, explained⟩ := Reading.bind_eq_ok explained
  cases explained
  exact ⟨matches_, children⟩

lemma term {found : Reading (Option Postings)} {label : String} {needed : Need} {cost : Nat}
    (explained : (Answers.term found label needed cost).explain d = .ok x) :
    Explains (.term found label needed cost) (pure []) d x := by
  obtain ⟨p, here, explained⟩ := Reading.bind_eq_ok explained
  cases explained
  exact ⟨Reading.bind_of_ok _ here, rfl⟩

omit [Scalar R] in
lemma alwaysMatch {segment : Segment} {c : Answers R Reading}
    (explained : (alwaysMatch segment c).explain d = .ok x) :
    Explains (.alwaysMatch segment c) (explanations [c]) d x ∧
      ∃ inner, c.explain d = .ok inner ∧ inner.value = x.value := by
  obtain ⟨inner, child, explained⟩ := Reading.bind_eq_ok explained
  cases explained
  refine ⟨⟨rfl, ?_⟩, inner, child, rfl⟩
  rw [explanations, List.mapM_cons, Reading.bind_of_ok _ child]
  rfl

lemma scored {s : Scorer R} {lengths c : Answers R Reading}
    (explained : (scored s lengths c).explain d = .ok x) :
    ExplainsScore (.scored s lengths c) (explanations [c]) d x := by
  obtain ⟨count, counted, explained⟩ := Reading.bind_eq_ok explained
  obtain ⟨length, long, explained⟩ := Reading.bind_eq_ok explained
  obtain ⟨hit, matches_, explained⟩ := Reading.bind_eq_ok explained
  obtain ⟨inner, child, explained⟩ := Reading.bind_eq_ok explained
  cases explained
  refine ⟨⟨matches_, child⟩, ?_⟩
  show (c.count >>= _) d = _
  rw [Reading.bind_of_ok _ counted, Reading.bind_of_ok _ long]
  rfl

lemma boolToScore {t f : R} {c : Answers R Reading}
    (explained : (boolToScore t f c).explain d = .ok x) :
    ExplainsScore (.boolToScore t f c) (explanations [c]) d x := by
  obtain ⟨hit, matches_, explained⟩ := Reading.bind_eq_ok explained
  obtain ⟨again, matches_', explained⟩ := Reading.bind_eq_ok explained
  obtain ⟨inner, child, explained⟩ := Reading.bind_eq_ok explained
  cases explained
  exact ⟨⟨matches_, child⟩, Reading.bind_of_ok _ matches_'⟩

lemma max {cs : List (Answers R Reading)} (explained : (max cs).explain d = .ok x) :
    ExplainsScore (.max cs) (explanations cs) d x := by
  obtain ⟨hit, matches_, explained⟩ := Reading.bind_eq_ok explained
  obtain ⟨s, scores, explained⟩ := Reading.bind_eq_ok explained
  obtain ⟨inner, children, explained⟩ := Reading.bind_eq_ok explained
  cases explained
  exact ⟨⟨matches_, children⟩, scores⟩

lemma window {remembered : Reading (List Nat) → Reading (List Nat)} {kind : Window}
    {cs : List (Answers R Reading)} (explained : (window remembered kind cs).explain d = .ok x) :
    Explains (.window remembered kind cs) (explanations cs) d x := by
  obtain ⟨starts, found, explained⟩ := Reading.bind_eq_ok explained
  obtain ⟨inner, children, explained⟩ := Reading.bind_eq_ok explained
  cases explained
  refine ⟨(Reading.bind_of_ok _ found).trans (congrArg Except.ok ?_), children⟩
  cases starts <;> rfl

/-- What the child is called stands before its description. -/
def named (p : String × Answers R Reading) : Reading (Explanation R) := do
  let e ← p.2.explain
  return { e with description := s!"{p.1}: {e.description}" }

omit [Scalar R] in
lemma multi {names : List String} {cs : List (Answers R Reading)}
    (explained : (multi names cs).explain d = .ok x) :
    ExplainsScore (.multi names cs) ((names.zip cs).mapM named) d x := by
  obtain ⟨inner, children, explained⟩ := Reading.bind_eq_ok explained
  obtain ⟨hit, matches_, explained⟩ := Reading.bind_eq_ok explained
  obtain ⟨s, scores, explained⟩ := Reading.bind_eq_ok explained
  cases explained
  exact ⟨⟨matches_, children⟩, scores⟩

omit [Scalar R] in
/-- Details that are explanations under names are explanations but for their descriptions. -/
lemma forall₂_of_named {ps : List (String × Answers R Reading)} {xs : List (Explanation R)}
    (details : ps.mapM named d = .ok xs) :
    List.Forall₂ (fun p x => ∃ e s, p.2.explain d = .ok e ∧ x = { e with description := s }) ps
      xs := by
  refine (Reading.forall₂_of_mapM details).imp fun p x explained => ?_
  obtain ⟨e, child, explained⟩ := Reading.bind_eq_ok explained
  cases explained
  exact ⟨e, _, child, rfl⟩

/-- A required condition is explained first, and its value only where the condition matches. -/
lemma require {c v : Answers R Reading} (explained : (require c v).explain d = .ok x)
    (cond : ∀ y, c.explain d = .ok y → c.matched d = .ok y.matched) :
    Explains (.require c v) (explanations (if x.matched then [c, v] else [c])) d x ∧
      ((∀ y, v.explain d = .ok y → v.score d = .ok y.value) →
        (Answers.require c v).score d = .ok x.value) := by
  obtain ⟨y, first, explained⟩ := Reading.bind_eq_ok explained
  have hit := cond y first
  have score : (Answers.require c v).score d =
      (if y.matched then v.score else return Scalar.miss : Reading R) d :=
    Reading.bind_of_ok _ hit
  -- the value is explained where the condition matches, and left alone where it does not
  cases yes : y.matched with
  | true =>
    rw [yes] at explained hit score
    obtain ⟨z, second, explained⟩ := Reading.bind_eq_ok explained
    cases explained
    refine ⟨⟨hit, ?_⟩, fun value => score.trans (value z second)⟩
    rw [if_pos rfl, explanations, List.mapM_cons, List.mapM_cons, Reading.bind_of_ok _ first,
      Reading.bind_of_ok _ (Reading.bind_of_ok _ second)]
    rfl
  | false =>
    rw [yes] at explained hit score
    cases explained
    refine ⟨⟨hit, ?_⟩, fun _ => score⟩
    rw [if_neg Bool.false_ne_true, explanations, List.mapM_cons, Reading.bind_of_ok _ first]
    rfl

end Explains

end Answers

/-! ## Scores -/

/-- The node is not asked for a score, or has one. -/
def Query.HasScore {R : Type} (need : Need) (q : Query R) : Prop :=
  need = .scores → q.onlyCounts = false

namespace Setting

variable {R : Type} [Scalar R] {σ : Setting} {d : Nat} {b : Answers R Reading} {x : Explanation R}

lemma occurring_explains {label : String} {needed : Need} {postings : Option Postings}
    (explained : (occurring label needed postings).explain d = .ok x) :
    (occurring (R := R) label needed postings).matched d = .ok x.matched := by
  cases postings with
  | none => exact (Answers.Explains.counting explained).matched
  | some p => exact (Answers.Explains.term explained).matched

/-- A leaf is explained by whether it matches, and by its score if it has one. -/
lemma leaf_explains {l : Leaf R} (meant : σ.leaf l = .ok b) (explained : b.explain d = .ok x) :
    b.matched d = .ok x.matched ∧
      ((Query.leaf l).onlyCounts = false → b.score d = .ok x.value) := by
  cases l with
  | term t =>
    obtain ⟨field, _, meant⟩ := bind_eq_ok meant
    obtain ⟨postings, _, meant⟩ := bind_eq_ok meant
    cases meant
    exact ⟨occurring_explains explained, nofun⟩
  | lengths l =>
    cases meant
    exact ⟨(Answers.Explains.counting explained).matched, nofun⟩
  | constCount n l =>
    cases meant
    exact ⟨(Answers.Explains.counting explained).matched, nofun⟩
  | raw text =>
    obtain ⟨postings, _, meant⟩ := bind_eq_ok meant
    cases postings with
    | none =>
      cases meant
      exact ⟨(Answers.Explains.boolean explained).matched, nofun⟩
    | some p =>
      cases meant
      exact ⟨occurring_explains explained, nofun⟩
  | constScore v =>
    cases meant
    have told := Answers.Explains.scoring explained
    exact ⟨told.matched, fun _ => told.value⟩
  | whitelist w =>
    obtain ⟨ids, _, meant⟩ := bind_eq_ok meant
    cases meant
    have told := Answers.Explains.boolean explained
    exact ⟨told.matched, fun _ => told.value⟩
  | constBool _ | always | never =>
    cases meant
    have told := Answers.Explains.boolean explained
    exact ⟨told.matched, fun _ => told.value⟩

/-- A node with one child is explained by whether it matches, and by its score. -/
lemma modifier_explains {m : Modifier R} {c : Query R} {a : Answers R Reading}
    {change : Answers R Reading → Answers R Reading} (meant : σ.modifier m c = .ok change)
    (explained : (change a).explain d = .ok x) :
    (change a).matched d = .ok x.matched ∧
      ((m = .alwaysMatch → ∀ y, a.explain d = .ok y → a.score d = .ok y.value) →
        (change a).score d = .ok x.value) := by
  cases m with
  | alwaysMatch =>
    cases meant
    obtain ⟨told, y, child, same⟩ := Answers.Explains.alwaysMatch explained
    exact ⟨told.matched, fun inner => same ▸ inner rfl y child⟩
  | scorer model stats =>
    obtain ⟨scorer, _, meant⟩ := bind_eq_ok meant
    obtain ⟨field, _, meant⟩ := bind_eq_ok meant
    cases meant
    have told := Answers.Explains.scored explained
    exact ⟨told.matched, fun _ => told.value⟩
  | boolToScore t f =>
    cases meant
    have told := Answers.Explains.boolToScore explained
    exact ⟨told.matched, fun _ => told.value⟩
  | countToBool gt =>
    cases meant
    have told := Answers.Explains.boolean explained
    exact ⟨told.matched, fun _ => told.value⟩
  | weight _ | countToScore =>
    cases meant
    have told := Answers.Explains.scoring explained
    exact ⟨told.matched, fun _ => told.value⟩

/-- A node with a list of children is explained by whether it matches, and by its score if it has
one. -/
lemma operator_explains {op : Operator R} {cs : List (Query R)} {bs : List (Answers R Reading)}
    (meant : σ.operator bs op = .ok b) (explained : b.explain d = .ok x) :
    b.matched d = .ok x.matched ∧
      ((Query.join op cs).onlyCounts = false → b.score d = .ok x.value) := by
  cases op with
  | and | or =>
    cases meant
    have told := Answers.Explains.boolean explained
    exact ⟨told.matched, fun _ => told.value⟩
  | combine _ | mult =>
    cases meant
    have told := Answers.Explains.scoring explained
    exact ⟨told.matched, fun _ => told.value⟩
  | max =>
    cases meant
    have told := Answers.Explains.max explained
    exact ⟨told.matched, fun _ => told.value⟩
  | synonym | smallerCount | windowCeiling _ =>
    cases meant
    exact ⟨(Answers.Explains.counting explained).matched, nofun⟩
  | orderedWindow _ | unorderedWindow _ | prox _ =>
    cases meant
    exact ⟨(Answers.Explains.window explained).matched, nofun⟩
  | multi names =>
    obtain ⟨_, _, rfl⟩ := named_of_operator meant
    have told := Answers.Explains.multi explained
    exact ⟨told.matched, fun _ => told.value⟩

/-- A query is explained by whether it matches, and by its score if it is asked for one and has
one. -/
theorem explains_score {b : Answers R Reading} {x : Explanation R} :
    (q : Query R) → σ.meaning q = .ok b → b.explain d = .ok x →
      b.matched d = .ok x.matched ∧
        (q.Everywhere Query.HasScore .scores → b.score d = .ok x.value)
  | .leaf l, meant, explained => by
    obtain ⟨hit, value⟩ := leaf_explains meant explained
    exact ⟨hit, fun scored => value (scored.here rfl)⟩
  | .modify m c, meant, explained => by
    obtain ⟨change, modified, meant⟩ := bind_eq_ok meant
    obtain ⟨a, inner, meant⟩ := bind_eq_ok meant
    cases meant
    obtain ⟨hit, value⟩ := modifier_explains modified explained
    refine ⟨hit, fun scored => value ?_⟩
    rintro rfl y child
    cases scored with
    | modify _ scored => exact (explains_score c inner child).2 scored
  | .join op cs, meant, explained => by
    obtain ⟨_, _, meant⟩ := bind_eq_ok meant
    obtain ⟨bs, _, meant⟩ := bind_eq_ok meant
    obtain ⟨hit, value⟩ := operator_explains meant explained
    exact ⟨hit, fun scored => value (scored.here rfl)⟩
  | .require c v, meant, explained => by
    obtain ⟨b, cond, meant⟩ := bind_eq_ok meant
    obtain ⟨w, value, meant⟩ := bind_eq_ok meant
    cases meant
    obtain ⟨told, score⟩ := Answers.Explains.require explained fun y first =>
      (explains_score c cond first).1
    refine ⟨told.matched, fun scored => score fun y second => ?_⟩
    cases scored with
    | require _ _ inner => exact (explains_score v value second).2 inner

end Setting

/-! ## Whole trees -/

namespace Plan

variable {R : Type} [Scalar R] {segment : Segment}

/-- The nodes that the explanation of a node goes into where the node matches or not. A conjunction
goes through its children as it asks them, and a required value is left out where its condition does
not match. -/
def explained (segment : Segment) (hit : Bool) : Plan R → List (Plan R)
  | .leaf (.constCount _ field) => [.leaf (.lengths field)]
  | .leaf _ => []
  | .modify _ c => [c]
  | .join .and cs =>
    cs.mergeSort fun a b => (a.behaviour segment).estimate ≤ (b.behaviour segment).estimate
  | .join (.multi names) cs => (names.zip cs).map Prod.snd
  | .join _ cs => cs
  | .require c v => if hit then [c, v] else [c]

/-- The explanation of a node says whether the node is judged to match, and so do its details, each
of the node that it explains. -/
inductive Traces (judge : Plan R → Except Fault Bool) (segment : Segment) :
    Plan R → Explanation R → Prop where
  | node {p x} :
    judge p = .ok x.matched →
    x.details.length = (p.explained segment x.matched).length →
    (∀ c y, (c, y) ∈ (p.explained segment x.matched).zip x.details → Traces judge segment c y) →
    Traces judge segment p x

lemma answersAll_eq_map {m : Type → Type} [Monad m] [MonadExceptOf Fault m] (access : Access m)
    (segment : Segment) (cs : List (Plan R)) :
    answersAll access segment cs = cs.map (answers access segment) := by
  induction cs with
  | nil => rfl
  | cons c cs ih => rw [answersAll, ih, List.map_cons]

mutual

/-- Estimates do not depend on what calls can read. -/
theorem estimate_eq (access : Access Reading) : (p : Plan R) →
    (p.answers access segment).estimate = (p.behaviour segment).estimate
  | .leaf s => by cases s <;> rfl
  | .modify a c => by
    cases a with
    | alwaysMatch => rfl
    | _ => exact estimate_eq access c
  | .join j cs => by
    have each := estimates_eq access cs
    have least : Answers.least (answersAll access segment cs) =
        Answers.least (behaviours segment cs) := congrArg (fun ns => ns.min?.getD 0) each
    have greatest : Answers.greatest (answersAll access segment cs) =
        Answers.greatest (behaviours segment cs) := congrArg (fun ns => ns.max?.getD 0) each
    cases j with
    | and | window _ _ | summary _ => exact least
    | synonym => exact congrArg addUp each
    | _ => exact greatest
  | .require c v => estimate_eq access c

theorem estimates_eq (access : Access Reading) : (cs : List (Plan R)) →
    (answersAll access segment cs).map Answers.estimate =
      (behaviours segment cs).map Answers.estimate
  | [] => rfl
  | c :: cs => by
    show _ :: _ = _ :: _
    rw [estimate_eq access c]
    exact congrArg _ (estimates_eq access cs)

end

variable {access : Access Reading} {d : Nat} {p : Plan R} {x : Explanation R}

/-- The answers of a plan as readings. -/
abbrev read (access : Access Reading) (segment : Segment) (p : Plan R) : Answers R Reading :=
  p.answers access segment

/-- A node is traced by its explanation if the details are explanations, but for descriptions, of
nodes that are traced by theirs. -/
lemma Traces.of_details {judge : Plan R → Except Fault Bool}
    {explain : Plan R → Except Fault (Explanation R)}
    (judged : judge p = .ok x.matched)
    (details : List.Forall₂ (fun c y => ∃ e s, explain c = .ok e ∧ y = { e with description := s })
      (p.explained segment x.matched) x.details)
    (inner : ∀ c ∈ p.explained segment x.matched, ∀ y, explain c = .ok y →
      Traces judge segment c y) : Traces judge segment p x := by
  refine .node judged details.length_eq.symm fun c y mem => ?_
  obtain ⟨e, s, explained, rfl⟩ := List.forall₂_zip details mem
  -- no part of a trace reads a description
  cases inner c (List.of_mem_zip mem).1 e explained with
  | node judged' length inner' => exact .node judged' length inner'

/-- The explanation traces how a plan, as a reading, matches the document. -/
abbrev ReadTraces (access : Access Reading) (segment : Segment) (d : Nat) :
    Plan R → Explanation R → Prop :=
  Traces (fun c => (c.read access segment).matched d) segment

/-- A node is traced if its details are the explanations of nodes that are traced by theirs. -/
lemma ReadTraces.of_explains
    (told : Answers.Explains (p.read access segment)
      (Answers.explanations ((p.explained segment x.matched).map (read access segment))) d x)
    (inner : ∀ c ∈ p.explained segment x.matched, ∀ y, (c.read access segment).explain d = .ok y →
      ReadTraces access segment d c y) : ReadTraces access segment d p x := by
  have details := Reading.forall₂_of_mapM told.details
  rw [List.forall₂_map_left_iff] at details
  refine Traces.of_details told.matched (details.imp fun c y explained => ?_) inner
  cases y
  exact ⟨_, _, explained, rfl⟩

/-- A node without details is traced by its explanation. -/
lemma ReadTraces.childless
    (told : Answers.Explains (p.read access segment) (pure []) d x)
    (none : p.explained segment x.matched = []) : ReadTraces access segment d p x := by
  refine .of_explains ⟨told.matched, ?_⟩ ?_
  · rw [none]
    exact told.details
  · rw [none]
    exact List.forall_mem_nil _

lemma traces_source {s : Source R}
    (explained : ((leaf s).read access segment).explain d = .ok x) :
    ReadTraces access segment d (.leaf s) x := by
  cases s with
  | term slot label needed cost => exact .childless (.term explained) rfl
  | missing slot label => exact .childless (.counting explained) rfl
  | lengths field => exact .childless (.counting explained) rfl
  | constScore value => exact .childless (Answers.Explains.scoring explained).toExplains rfl
  | fixed matched estimate => exact .childless (Answers.Explains.boolean explained).toExplains rfl
  | whitelist ids => exact .childless (Answers.Explains.boolean explained).toExplains rfl
  | constCount count field =>
    refine .of_explains (.counting explained) fun c mem y explained => ?_
    cases List.mem_singleton.mp mem
    exact .childless (.counting explained) rfl

lemma traces_adapter {a : Adapter R} {c : Plan R}
    (explained : ((modify a c).read access segment).explain d = .ok x)
    (inner : ∀ y, (c.read access segment).explain d = .ok y → ReadTraces access segment d c y) :
    ReadTraces access segment d (.modify a c) x := by
  have child : ∀ c' ∈ [c], ∀ y, (c'.read access segment).explain d = .ok y →
      ReadTraces access segment d c' y := List.forall_mem_singleton.mpr inner
  cases a with
  | alwaysMatch => exact .of_explains (Answers.Explains.alwaysMatch explained).1 child
  | weight w => exact .of_explains (Answers.Explains.scoring explained).toExplains child
  | scorer s field => exact .of_explains (Answers.Explains.scored explained).toExplains child
  | countToScore => exact .of_explains (Answers.Explains.scoring explained).toExplains child
  | boolToScore t f => exact .of_explains (Answers.Explains.boolToScore explained).toExplains child
  | countToBool gt => exact .of_explains (Answers.Explains.boolean explained).toExplains child

/-- Conjunctions explain their children in the order in which they ask them. -/
lemma byRising_read (cs : List (Plan R)) (hit : Bool) :
    Answers.byRising (cs.map (read access segment)) =
      ((join .and cs).explained segment hit).map (read access segment) := by
  symm
  apply List.map_mergeSort
  intro a _ b _
  rw [estimate_eq, estimate_eq]

lemma traces_joint {j : Joint R} {cs : List (Plan R)}
    (explained : ((join j cs).read access segment).explain d = .ok x)
    (inner : ∀ c ∈ cs, ∀ y, (c.read access segment).explain d = .ok y →
      ReadTraces access segment d c y) : ReadTraces access segment d (.join j cs) x := by
  have same := answersAll_eq_map access segment cs
  cases j with
  | and =>
    have told := Answers.Explains.boolean explained
    refine .of_explains ⟨told.matched, ?_⟩ fun c mem => inner c (List.mem_mergeSort.mp mem)
    rw [← byRising_read, ← same]
    exact told.details
  | or => exact .of_explains (same ▸ (Answers.Explains.boolean explained).toExplains) inner
  | combine ws => exact .of_explains (same ▸ (Answers.Explains.scoring explained).toExplains) inner
  | max => exact .of_explains (same ▸ (Answers.Explains.max explained).toExplains) inner
  | mult => exact .of_explains (same ▸ (Answers.Explains.scoring explained).toExplains) inner
  | synonym => exact .of_explains (same ▸ Answers.Explains.counting explained) inner
  | window slot kind => exact .of_explains (same ▸ Answers.Explains.window explained) inner
  | summary kind => exact .of_explains (same ▸ Answers.Explains.counting explained) inner
  | multi names =>
    have told := (Answers.Explains.multi explained).toExplains
    have details := Answers.Explains.forall₂_of_named told.details
    rw [same, List.zip_map_right, List.forall₂_map_left_iff] at details
    have children : List.Forall₂ (fun c y => ∃ e s, (c.read access segment).explain d = .ok e ∧
        y = { e with description := s }) ((join (.multi names) cs).explained segment x.matched)
        x.details := List.forall₂_map_left_iff.mpr details
    refine Traces.of_details told.matched children fun c mem => inner c ?_
    obtain ⟨p, within, rfl⟩ := List.mem_map.mp mem
    exact (List.of_mem_zip within).2

lemma Traces.judged {judge : Plan R → Except Fault Bool} (traces : Traces judge segment p x) :
    judge p = .ok x.matched := by
  cases traces
  assumption

lemma traces_require {c v : Plan R}
    (explained : ((require c v).read access segment).explain d = .ok x)
    (cond : ∀ y, (c.read access segment).explain d = .ok y → ReadTraces access segment d c y)
    (value : ∀ y, (v.read access segment).explain d = .ok y → ReadTraces access segment d v y) :
    ReadTraces access segment d (.require c v) x := by
  obtain ⟨told, _⟩ := Answers.Explains.require explained fun y first => (cond y first).judged
  refine .of_explains ⟨told.matched, ?_⟩ fun p mem => ?_
  · rw [Plan.explained, apply_ite (List.map _)]
    exact told.details
  · have among : p = c ∨ p = v := by
      rw [Plan.explained] at mem
      split at mem
      · rwa [List.mem_cons, List.mem_singleton] at mem
      · exact .inl (List.mem_singleton.mp mem)
    rcases among with rfl | rfl
    · exact cond
    · exact value

mutual

/-- The explanation of a plan traces how its nodes match, as readings. -/
theorem traces : (p : Plan R) → ∀ x, (p.read access segment).explain d = .ok x →
    ReadTraces access segment d p x
  | .leaf _, _, explained => traces_source explained
  | .modify _ c, _, explained => traces_adapter explained (traces c)
  | .join _ cs, _, explained => traces_joint explained (tracesAll cs)
  | .require c v, _, explained => traces_require explained (traces c) (traces v)

theorem tracesAll : (cs : List (Plan R)) → ∀ c ∈ cs, ∀ x,
    (c.read access segment).explain d = .ok x → ReadTraces access segment d c x
  | [] => List.forall_mem_nil _
  | c :: cs => List.forall_mem_cons.mpr ⟨traces c, tracesAll cs⟩

end

/-- The windows below the nodes that an explanation goes into are among those of the node. -/
lemma searches_subset_of_explained {c : Plan R} {hit : Bool} (mem : c ∈ p.explained segment hit) :
    c.searches segment access ⊆ p.searches segment access := by
  cases p with
  | leaf s =>
    cases s with
    | constCount count field =>
      cases List.mem_singleton.mp mem
      exact List.nil_subset _
    | _ => cases mem
  | modify a c => exact searches_subset segment access mem
  | join j cs =>
    apply searches_subset segment access
    cases j with
    | and => exact List.mem_mergeSort.mp mem
    | multi names =>
      obtain ⟨p, within, rfl⟩ := List.mem_map.mp mem
      exact (List.of_mem_zip within).2
    | _ => exact mem
  | require c v =>
    apply searches_subset segment access
    rw [explained] at mem
    split at mem
    · exact mem
    · exact List.mem_cons.mpr (.inl (List.mem_singleton.mp mem))

end Plan

namespace Tree

variable {R : Type} [Scalar R] {o : Origin} {place : Option Nat} {t : Tree R}

/-- Whether the node of a tree matches the current document. -/
def judge (t : Tree R) (p : Plan R) : Except Fault Bool := ({ t with root := p }).matched.1

/-- A trace of readings is a trace of what the nodes of a tree answer that stands in the place. -/
lemma Stands.traces (stands : t.Stands o place) (once : (o.searches.map Prod.fst).Nodup)
    {p : Plan R} {x : Explanation R} (traces : Plan.ReadTraces o.access t.segment (place.getD 0) p x)
    (known : p.searches t.segment o.access ⊆ o.searches) :
    Plan.Traces t.judge t.segment p x := by
  induction traces with
  | @node p x judged length inner ih =>
    -- windows are remembered in one state, so they are known below every node of the trace
    have stands' : Stands o place { t with root := p } :=
      ⟨stands.fits, stands.doc, stands.positioned⟩
    have agree := (p.agree t.segment once known).matched
    refine .node ((stands'.ask agree).1.trans judged) length fun c y mem => ih c y mem ?_
    exact List.Subset.trans (Plan.searches_subset_of_explained (List.of_mem_zip mem).1) known

/-- The tree, where it stands, is as the explanation says: it matches or not, it has the value as
its score, and the explanation traces what its nodes answer. -/
structure Explained (t : Tree R) (x : Explanation R) : Prop where
  matched : t.matched.1 = .ok x.matched
  value : t.score.1 = .ok x.value
  trace : Plan.Traces t.judge t.segment t.root x

/-- A compiled tree that is asked for scores is as its query is explained. -/
theorem Compiled.explained {σ : Setting} {q : Query R} {b : Answers R Reading} {x : Explanation R}
    (compiled : t.Compiled σ o q) (stands : t.Stands o place) (meant : σ.meaning q = .ok b)
    (scored : q.Everywhere Query.HasScore .scores) (explained : b.explain (place.getD 0) = .ok x) :
    t.Explained x := by
  obtain ⟨b', meant', reads⟩ := compiled.root.reads
  cases meant.symm.trans meant'
  obtain ⟨_, meant'', agree⟩ := compiled.agree
  cases meant.symm.trans meant''
  obtain ⟨hit, value⟩ := Setting.explains_score q meant explained
  have matches_ := (stands.ask agree.matched).1.trans hit
  have scores := (stands.ask agree.score).1.trans (value scored)
  refine ⟨matches_, scores, ?_⟩
  rw [Session.Reads, ← compiled.segment, compiled.access] at reads
  apply stands.traces compiled.once (Plan.traces t.root x _) compiled.known
  rw [Plan.read, reads]
  exact explained

end Tree

end Retrieval
