import Retrieval.Proofs.Evaluation.Adequacy
import Retrieval.Proofs.Query.Nodes

/-!
# Typed queries have answers

The meaning of a typed query has every answer that goes with its need, in every document of the
segment (`Setting.meaning_gives`). Each kind of node asks its children only for what the need comes
down to, so the answers of the children are there, and the node itself does not refuse. Where sums
of counts that are too large end calls, such a sum can be in the way. It is not if there is room
for the exact sums, since whatever count a child has answered is exact.
-/

namespace Retrieval

/-! ## Readings that succeed -/

/-- How a call ends that nothing refuses: with an answer or, if counts are `limited`, with a sum of
counts that is too large. -/
inductive Ends {α : Type} (limited : Prop) : Except Fault α → Prop where
  | ok (a : α) :
    Ends limited (.ok a)
  | overflow :
    limited →
    Ends limited (.error .overflow)

/-- Where counts are not limited there is an answer. -/
lemma Ends.exists_ok {α : Type} {limited : Prop} {result : Except Fault α}
    (ends : Ends limited result) (free : ¬limited) : ∃ a, result = .ok a := by
  cases ends with
  | ok a => exact ⟨a, rfl⟩
  | overflow short => exact absurd short free

/-- The reading succeeds in the document, unless counts are limited. -/
def Succeeds {α : Type} (limited : Prop) (doc : Nat) (reading : Reading α) : Prop :=
  Ends limited (reading doc)

/-- The readings tell counts in the document, and there is room for their sum. -/
def SumFits (doc : Nat) (readings : List (Reading Nat)) : Prop :=
  ∃ counts, List.Forall₂ (fun reading n => Says reading doc n) readings counts ∧
    addUp counts < countLimit

namespace Succeeds

variable {limited : Prop} {doc : Nat} {overflow : Overflow} {α β γ : Type}

lemma pure (a : α) : Succeeds limited doc (Pure.pure a : Reading α) := .ok a

/-- What is known of a first answer may be used for the rest. -/
lemma bind_of (known : α → Prop) {reading : Reading α} {next : α → Reading β}
    (first : Succeeds limited doc reading) (told : ∀ a, reading doc = .ok a → known a)
    (rest : ∀ a, known a → Succeeds limited doc (next a)) :
    Succeeds limited doc (reading >>= next) := by
  have ends : Ends limited (reading doc) := first
  change Ends limited (reading doc >>= (next · doc))
  generalize reading doc = result at ends told ⊢
  cases ends with
  | ok a => exact rest a (told a rfl)
  | overflow short => exact .overflow short

lemma bind {reading : Reading α} {next : α → Reading β} (first : Succeeds limited doc reading)
    (rest : ∀ a, Succeeds limited doc (next a)) : Succeeds limited doc (reading >>= next) :=
  first.bind_of (fun _ => True) (fun _ _ => trivial) fun a _ => rest a

lemma ite {c : Prop} [Decidable c] {reading reading' : Reading α}
    (yes : Succeeds limited doc reading) (no : Succeeds limited doc reading') :
    Succeeds limited doc (if c then reading else reading') := by
  split
  · exact yes
  · exact no

/-- A reading that is not refused succeeds if what comes after does. -/
lemma otherwise {c : Prop} [Decidable c] {reading reading' : Reading α} (not : ¬c)
    (h : Succeeds limited doc reading') :
    Succeeds limited doc (if c then reading else reading') := by
  rw [if_neg not]
  exact h

lemma here : Succeeds limited doc (read : Reading Nat) := .ok doc

variable {cs : List γ}

lemma mapM {reading : γ → Reading α} (each : ∀ c ∈ cs, Succeeds limited doc (reading c)) :
    Succeeds limited doc (cs.mapM reading) := by
  induction cs with
  | nil => exact pure []
  | cons c cs ih =>
    obtain ⟨first, rest⟩ := List.forall_mem_cons.mp each
    rw [List.mapM_cons]
    exact first.bind fun a => (ih rest).bind fun as => pure (a :: as)

lemma foldlM {reading : α → γ → Reading α}
    (each : ∀ c ∈ cs, ∀ a, Succeeds limited doc (reading a c)) (init : α) :
    Succeeds limited doc (cs.foldlM reading init) := by
  induction cs generalizing init with
  | nil => exact pure init
  | cons c cs ih =>
    obtain ⟨first, rest⟩ := List.forall_mem_cons.mp each
    rw [List.foldlM_cons]
    exact (first init).bind fun a => ih rest a

lemma anyM {reading : γ → Reading Bool} (each : ∀ c ∈ cs, Succeeds limited doc (reading c)) :
    Succeeds limited doc (cs.anyM reading) := by
  induction cs with
  | nil => exact pure false
  | cons c cs ih =>
    obtain ⟨first, rest⟩ := List.forall_mem_cons.mp each
    apply first.bind
    intro hit
    cases hit with
    | true => exact pure true
    | false => exact ih rest

lemma allM {reading : γ → Reading Bool} (each : ∀ c ∈ cs, Succeeds limited doc (reading c)) :
    Succeeds limited doc (cs.allM reading) := by
  induction cs with
  | nil => exact pure true
  | cons c cs ih =>
    obtain ⟨first, rest⟩ := List.forall_mem_cons.mp each
    apply first.bind
    intro hit
    cases hit with
    | true => exact ih rest
    | false => exact pure false

/-! ### Sums of counts -/

/-- Nothing but its size can be in the way of a sum. -/
lemma plus (stops : overflow = .stops → limited) (n n' : Nat) :
    Succeeds limited doc (overflow.plus n n') := by
  cases overflow with
  | never => exact pure _
  | wraps => exact pure _
  | stops => exact ite (pure _) (.overflow (stops rfl))

/-- Counts that are told can be added up if there is room for their sum. -/
lemma foldlM_plus {reading : γ → Reading Nat} (each : ∀ c ∈ cs, Succeeds limited doc (reading c))
    {counts : List Nat} (told : List.Forall₂ (fun c n => Says (reading c) doc n) cs counts)
    (total : Nat) (room : total + addUp counts < countLimit) :
    Succeeds limited doc
      (cs.foldlM (fun total c => do overflow.plus total (← reading c)) total) := by
  induction told generalizing total with
  | nil => exact pure total
  | @cons c n cs counts told _ ih =>
    obtain ⟨first, rest⟩ := List.forall_mem_cons.mp each
    have room : total + (n + addUp counts) < countLimit := room
    rw [List.foldlM_cons, bind_assoc]
    refine first.bind_of (· = n) told ?_
    rintro _ rfl
    rw [Overflow.plus_of_lt (by omega), pure_bind]
    exact ih rest _ (by omega)

/-- Counts can be added up. Where too large a sum ends calls and counts are not limited, there has
to be room for theirs. -/
lemma sum {reading : γ → Reading Nat} (each : ∀ c ∈ cs, Succeeds limited doc (reading c))
    (room : overflow = .stops → ¬limited → SumFits doc (cs.map reading)) :
    Succeeds limited doc (cs.foldlM (fun total c => do overflow.plus total (← reading c)) 0) := by
  by_cases tight : overflow = .stops ∧ ¬limited
  · obtain ⟨counts, told, room⟩ := room tight.1 tight.2
    exact foldlM_plus each (List.forall₂_map_left_iff.mp told) 0 (by omega)
  · have stops : overflow = .stops → limited := fun stops =>
      by_contra fun free => tight ⟨stops, free⟩
    exact foldlM (fun c mem total => (each c mem).bind fun n => plus stops total n) 0

/-- Counts can be summed up, under the same condition if they are added for it. -/
lemma fold (kind : Summary) {counts : List Nat}
    (room : kind = .ceiling → overflow = .stops → ¬limited → addUp counts < countLimit) :
    Succeeds limited doc (kind.fold overflow.plus counts) := by
  cases kind with
  | smallest => exact pure _
  | ceiling =>
    have known : List.Forall₂ (fun n n' => Says (Pure.pure n) doc n') counts counts :=
      List.forall₂_same.mpr fun n _ => .pure n
    have total : Succeeds limited doc (counts.foldlM (fun total n => do
        overflow.plus total (← (Pure.pure n : Reading Nat))) 0) :=
      sum (fun n _ => pure n) fun stops free =>
        ⟨counts, List.forall₂_map_left_iff.mpr known, room rfl stops free⟩
    simp only [pure_bind] at total
    exact total.bind fun _ => pure _

end Succeeds

/-- Where there is room for the sums of a query, there is room for those of a child. -/
lemma Query.SumsFit.child {R : Type} {spot : Spot} {q c : Query R} (fits : q.SumsFit spot)
    (mem : c ∈ q.children) : c.SumsFit spot :=
  fun op cs among => fits op cs (nodes_subset mem among)

/-! ## Answers that are there -/

namespace Answers

variable {R : Type}

/-- The answers that go with a need are there in the document, unless counts are limited. -/
structure Gives (limited : Prop) (doc : Nat) (need : Need) (b : Answers R Reading) : Prop where
  matched : Succeeds limited doc b.matched
  count : need = .counts ∨ need = .positions → Succeeds limited doc b.count
  positions : need = .positions → Succeeds limited doc b.positions
  score : need = .scores → Succeeds limited doc b.score

variable {limited : Prop} {doc : Nat} {need : Need}

namespace Gives

variable [Scalar R] {name description : String} {estimate : Nat} {matched : Reading Bool}
  {details : Reading (List (Explanation R))}

/-- A node that only matches or not has everything but positions. -/
lemma boolean (hit : Succeeds limited doc matched) (other : need ≠ .positions) :
    Gives limited doc need (.boolean name description estimate matched details) where
  matched := hit
  count _ := hit.bind fun _ => .pure _
  positions asked := absurd asked other
  score _ := hit.bind fun _ => .pure _

omit [Scalar R] in
/-- A node that is scored has a score where one is asked for. -/
lemma scoring {score : Reading R} (hit : Succeeds limited doc matched)
    (other : ¬(need = .counts ∨ need = .positions))
    (value : need = .scores → Succeeds limited doc score) :
    Gives limited doc need (.scoring name description estimate matched score details) where
  matched := hit
  count asked := absurd asked other
  positions asked := absurd (.inr asked) other
  score := value

/-- A node that is counted has counts and positions where they are asked for. -/
lemma counting {count : Reading Nat} {positions : Reading (List Nat)}
    (hit : Succeeds limited doc matched) (other : need ≠ .scores)
    (number : need = .counts ∨ need = .positions → Succeeds limited doc count)
    (places : need = .positions → Succeeds limited doc positions) :
    Gives limited doc need
      (.counting name description estimate matched count positions details) where
  matched := hit
  count := number
  positions := places
  score asked := absurd asked other

end Gives

end Answers

/-! ## Leaves -/

namespace Need

lemma not_lt_of_le {m n : Need} (le : m ≤ n) : ¬n < m := Nat.not_lt.mpr le

/-- A need for positions is one for counts too. -/
lemma counts_le {n : Need} (asked : n = .counts ∨ n = .positions) : .counts ≤ n := by
  cases asked with
  | inl asked => rw [asked]; decide
  | inr asked => rw [asked]; decide

end Need

namespace Setting

variable {R : Type} [Scalar R] {σ : Setting} {limited : Prop} {doc : Nat} {need : Need}

/-- A term is opened for at least what is needed of it. -/
lemma le_opened (σ : Setting) (key : TermKey) (needed : Need) : needed ≤ σ.opened key needed := by
  rw [opened]
  cases σ.registered.lookup key with
  | none => exact Need.le_refl needed
  | some n => exact Need.le_max_right n needed

/-- A term has counts and positions if it is opened for them. -/
lemma occurring_gives (label : String) {opened : Need} {postings : Option Postings}
    (le : need ≤ opened) (other : need ≠ .scores)
    (held : ∀ p, postings = some p → p.needed = opened) :
    (occurring (R := R) label opened postings).Gives limited doc need := by
  cases postings with
  | none => exact .counting (.pure _) other (fun _ => .pure _) fun _ => .pure _
  | some p =>
    have found : Succeeds limited doc (return p.at? (← read) : Reading _) :=
      .bind .here fun _ => .pure _
    refine ⟨found.bind fun _ => .pure _, fun asked => ?_, fun asked => ?_, fun asked => ?_⟩
    · have enough := Need.not_lt_of_le (Need.le_trans (Need.counts_le asked) le)
      exact .otherwise enough (found.bind fun _ => .pure _)
    · rw [asked] at le
      -- a cursor keeps the need that it was opened for while it moves
      have atNeed : ∀ found, (return p.at? (← read) : Reading _) doc = .ok found →
          ∀ q, found = some q → q.needed = opened := by
        rintro _ ⟨⟩ q here
        rw [Postings.at?] at here
        split at here
        · cases here
          exact held p rfl
        · cases here
      refine .otherwise (Need.not_lt_of_le le) (found.bind_of _ atNeed fun found same => ?_)
      cases found with
      | none => exact .pure _
      | some q =>
        have enough : ¬q.needed < .positions := same q rfl ▸ Need.not_lt_of_le le
        dsimp only
        rw [Postings.positions, if_neg enough]
        cases q.rest <;> exact .pure _
    · exact absurd asked other

/-- Every document of the segment has a length in every field. -/
lemma length_succeeds {segment : Segment} (inside : doc < segment.size) (field : String) :
    Succeeds limited doc (Answers.lengths (R := R) read segment field).count := by
  change Ends limited ((MonadExcept.ofExcept (segment.lengthOf doc field) : Reading Nat) doc)
  rw [Segment.lengthOf, if_neg (Nat.not_le.mpr inside)]
  exact .ok _

/-- A leaf that admits a need has the answers that go with it. -/
lemma leaf_gives {l : Leaf R} {b : Answers R Reading} (inside : doc < σ.segment.size)
    (meant : σ.leaf l = .ok b) (admits : Query.Admits need (.leaf l))
    (marked : ∀ t, l = .term t → need ≤ t.needed)
    (docs : ∀ text, l = .raw text → need = .docs) : b.Gives limited doc need := by
  cases l with
  | term t =>
    obtain ⟨field, _, meant⟩ := bind_eq_ok meant
    obtain ⟨postings, opened, meant⟩ := bind_eq_ok meant
    cases meant
    have le := Need.le_trans (marked t rfl) (σ.le_opened (t.text, field) t.needed)
    refine occurring_gives _ le (fun asked => nomatch admits.scored asked) fun p found => ?_
    subst found
    exact Segment.needed_of_cursor opened
  | lengths l =>
    cases meant
    exact .counting (.pure _) (fun asked => nomatch admits.scored asked)
      (fun _ => length_succeeds (R := R) inside _) fun asked => nomatch admits.placed asked
  | constScore x =>
    cases meant
    exact .scoring (.pure _) (fun asked => nomatch admits.counted asked) fun _ => .pure _
  | constCount n l =>
    cases meant
    exact .counting (.pure _) (fun asked => nomatch admits.scored asked) (fun _ => .pure _)
      fun asked => nomatch admits.placed asked
  | constBool v =>
    cases meant
    exact .boolean (.pure _) fun asked => nomatch admits.placed asked
  | always =>
    cases meant
    exact .boolean (.pure _) fun asked => nomatch admits.placed asked
  | never =>
    cases meant
    exact .boolean (.pure _) fun asked => nomatch admits.placed asked
  | whitelist w =>
    obtain ⟨ids, _, meant⟩ := bind_eq_ok meant
    cases meant
    exact .boolean (.bind .here fun _ => .pure _) fun asked => nomatch admits.placed asked
  | raw text =>
    cases docs text rfl
    obtain ⟨postings, opened, meant⟩ := bind_eq_ok meant
    cases postings with
    | none =>
      cases meant
      exact .boolean (.pure _) nofun
    | some p =>
      cases meant
      refine occurring_gives _ (Need.le_refl _) nofun fun q same => ?_
      cases same
      exact Segment.needed_of_rawCursor opened

/-! ## Nodes with children -/

/-- A modifier that admits a need keeps the answers that go with it. -/
lemma modifier_gives {m : Modifier R} {c : Query R} {change : Answers R Reading → Answers R Reading}
    {d : Answers R Reading} (inside : doc < σ.segment.size) (meant : σ.modifier m c = .ok change)
    (admits : Query.Admits need (.modify m c))
    (inner : d.Gives limited doc (m.childNeed need)) :
    (change d).Gives limited doc need := by
  cases m with
  | alwaysMatch =>
    cases meant
    exact ⟨.pure _, inner.count, inner.positions, inner.score⟩
  | weight w =>
    cases meant
    exact .scoring inner.matched (fun asked => nomatch admits.counted asked)
      fun _ => (inner.score rfl).bind fun _ => .pure _
  | scorer model stats =>
    obtain ⟨scorer, _, meant⟩ := bind_eq_ok meant
    obtain ⟨field, _, meant⟩ := bind_eq_ok meant
    cases meant
    have length : Succeeds limited doc _ := length_succeeds (R := R) inside field
    refine ⟨inner.matched, fun asked => (nomatch admits.counted asked),
      fun asked => (nomatch admits.counted (.inr asked)), fun _ => ?_⟩
    exact (inner.count (.inl rfl)).bind fun _ => length.bind fun _ => .pure _
  | countToScore =>
    cases meant
    exact .scoring inner.matched (fun asked => nomatch admits.counted asked)
      fun _ => (inner.count (.inl rfl)).bind fun _ => .pure _
  | boolToScore t f =>
    cases meant
    exact ⟨inner.matched, fun asked => (nomatch admits.counted asked),
      fun asked => (nomatch admits.counted (.inr asked)),
      fun _ => inner.matched.bind fun _ => .pure _⟩
  | countToBool gt =>
    cases meant
    refine .boolean ?_ fun asked => nomatch admits.placed asked
    exact inner.matched.bind fun _ =>
      .ite ((inner.count (.inl rfl)).bind fun _ => .pure _) (.pure _)

omit [Scalar R] in
/-- The positions of children that have them can be gathered. -/
lemma gather_succeeds {bs : List (Answers R Reading)}
    (inner : ∀ b ∈ bs, b.Gives limited doc .positions) :
    Succeeds limited doc (Answers.gather bs) := by
  induction bs with
  | nil => exact .pure _
  | cons b bs ih =>
    obtain ⟨first, rest⟩ := List.forall_mem_cons.mp inner
    exact first.matched.bind fun _ => .ite
      ((first.positions rfl).bind fun _ => (ih rest).bind fun _ => .pure _) (.pure _)

/-- A window over children that have positions has a count and positions. -/
lemma window_gives {bs : List (Answers R Reading)} (kind : Window)
    (inner : ∀ b ∈ bs, b.Gives limited doc .positions) (other : need ≠ .scores) :
    (Answers.window id kind bs).Gives limited doc need := by
  have starts : Succeeds limited doc (Answers.windowStarts kind bs) :=
    (gather_succeeds inner).bind fun _ => .pure _
  exact ⟨starts.bind fun _ => .pure _, fun _ => starts.bind fun _ => .pure _, fun _ => starts,
    fun asked => absurd asked other⟩

/-- A summary of children that have counts has a count. -/
lemma summary_gives {overflow : Overflow} {bs : List (Answers R Reading)} (kind : Summary)
    (inner : ∀ b ∈ bs, b.Gives limited doc .counts) (other : need ≠ .scores)
    (other' : need ≠ .positions)
    (room : kind = .ceiling → overflow = .stops → ¬limited → SumFits doc (bs.map Answers.count)) :
    (Answers.summary overflow.plus kind bs).Gives limited doc need := by
  have all : Succeeds limited doc (Answers.allMatched bs) :=
    .allM fun b mem => (inner b mem).matched
  have counts : Succeeds limited doc (bs.mapM Answers.count) :=
    .mapM fun b mem => (inner b mem).count (.inl rfl)
  -- counts that are there are the ones that there is room for
  have known : ∀ ns, bs.mapM Answers.count doc = .ok ns →
      kind = .ceiling → overflow = .stops → ¬limited → addUp ns < countLimit := by
    intro ns read ceiling stops free
    obtain ⟨ms, told, room⟩ := room ceiling stops free
    have same : Says (bs.mapM Answers.count) doc (ms.map id) :=
      .mapM (List.forall₂_map_left_iff.mp told)
    rw [same ns read, List.map_id]
    exact room
  refine .counting all other (fun _ => all.bind fun _ => .ite ?_ (.pure _))
    fun asked => absurd asked other'
  exact counts.bind_of _ known fun _ room => .fold kind room

omit [Scalar R] in
/-- Where there is a name for each child, one of the children speaks for all. -/
lemma primary_mem {names : List String} {bs : List (Answers R Reading)}
    (even : names.length = bs.length) (some_ : bs.length ≠ 0) :
    ∃ b ∈ bs, bs[Answers.primary names]? = some b := by
  have inside : Answers.primary names < bs.length := by
    rw [Answers.primary, ← even]
    cases found : names.findIdx? (· = "primary") with
    | none => simp only [Option.getD_none]; omega
    | some i =>
      obtain ⟨inside, _⟩ := List.findIdx?_eq_some_iff_getElem.mp found
      exact inside
  exact ⟨bs[Answers.primary names], List.getElem_mem inside, List.getElem?_eq_getElem inside⟩

/-- An operator that admits a need has the answers that go with it if its children have theirs. -/
lemma operator_gives {op : Operator R} {cs : List (Query R)} {bs : List (Answers R Reading)}
    {b : Answers R Reading} (meant : σ.operator bs op = .ok b)
    (admits : Query.Admits need (.join op cs))
    (inner : ∀ d ∈ bs, d.Gives limited doc (op.childNeed need))
    (room : op.adds = true → σ.overflow = .stops → ¬limited → SumFits doc (bs.map Answers.count)) :
    b.Gives limited doc need := by
  have matched : ∀ d ∈ bs, Succeeds limited doc d.matched := fun d mem => (inner d mem).matched
  have any : Succeeds limited doc (Answers.anyMatched bs) := .anyM fun d mem =>
    matched d (List.mem_mergeSort.mp mem)
  cases op with
  | and =>
    cases meant
    refine .boolean (.allM fun d mem => matched d (List.mem_mergeSort.mp mem)) fun asked => ?_
    exact nomatch admits.placed asked
  | or =>
    cases meant
    exact .boolean any fun asked => nomatch admits.placed asked
  | combine ws =>
    cases meant
    refine .scoring any (fun asked => nomatch admits.counted asked) fun _ => ?_
    refine .foldlM (fun p mem _ => ?_) _
    exact ((inner p.1 (List.of_mem_zip mem).1).score rfl).bind fun _ => .pure _
  | max =>
    cases meant
    refine ⟨any, fun asked => ?_, fun asked => (nomatch admits.placed asked), fun asked => ?_⟩
    · have asked : need = .counts := asked.resolve_right fun asked => nomatch admits.placed asked
      subst asked
      exact .foldlM (fun d mem _ => ((inner d mem).count (.inl rfl)).bind fun _ => .pure _) _
    · subst asked
      exact .foldlM (fun d mem _ => ((inner d mem).score rfl).bind fun _ => .pure _) _
  | mult =>
    cases meant
    refine .scoring any (fun asked => nomatch admits.counted asked) fun _ => ?_
    exact .foldlM (fun d mem _ => ((inner d mem).score rfl).bind fun _ => .pure _) _
  | synonym =>
    cases meant
    refine .counting any (fun asked => nomatch admits.scored asked) (fun asked => ?_)
      fun asked => ?_
    · exact .sum (fun d mem => (inner d mem).count asked) (room rfl)
    · exact (Succeeds.mapM fun d mem => (inner d mem).positions asked).bind fun _ => .pure _
  | orderedWindow step =>
    cases meant
    exact window_gives _ inner fun asked => nomatch admits.scored asked
  | unorderedWindow width =>
    cases meant
    exact window_gives _ inner fun asked => nomatch admits.scored asked
  | prox width =>
    cases meant
    exact window_gives _ inner fun asked => nomatch admits.scored asked
  | smallerCount =>
    cases meant
    exact summary_gives _ inner (fun asked => nomatch admits.scored asked)
      (fun asked => nomatch admits.placed asked) fun ceiling => by cases ceiling
  | windowCeiling width =>
    cases meant
    exact summary_gives _ inner (fun asked => nomatch admits.scored asked)
      (fun asked => nomatch admits.placed asked) fun _ => room rfl
  | multi names =>
    obtain ⟨even, some_, rfl⟩ := named_of_operator meant
    obtain ⟨d, mem, chosen⟩ := primary_mem even some_
    refine ⟨any, fun asked => ?_, fun asked => (nomatch admits.placed asked), fun asked => ?_⟩
    · simp only [Answers.multi, chosen]
      exact (inner d mem).count asked
    · simp only [Answers.multi, chosen]
      exact (inner d mem).score asked

/-- Where there is room for the sums of a query, there is room for what its children answer. -/
lemma sumFits_of_meanings {op : Operator R} {cs : List (Query R)} {bs : List (Answers R Reading)}
    (inner : σ.meanings cs = .ok bs) (fits : (Query.join op cs).SumsFit (σ.spot doc))
    (adds : op.adds = true) (stops : σ.overflow = .stops) : SumFits doc (bs.map Answers.count) := by
  have exact_ : σ.overflow ≠ .wraps := by
    rw [stops]
    nofun
  have told : List.Forall₂
      (fun b (c : Query R) => Says b.count doc (c.facts (σ.spot doc)).count) bs cs :=
    (meanings_tells exact_ cs inner).imp fun _ _ => Answers.Tells.count
  refine ⟨_, ?_, fits op cs List.mem_cons_self adds⟩
  rw [Query.factsAll_eq_map, List.map_map, List.forall₂_map_left_iff, List.forall₂_map_right_iff]
  exact told

/-- The meaning of a typed query has the answers that go with its need. Where too large a sum ends
calls and counts are not limited, there has to be room for the sums of the query. -/
theorem meaning_gives {q : Query R} {b : Answers R Reading} (typed : Query.Typed need q)
    (meant : σ.meaning q = .ok b) (inside : doc < σ.segment.size)
    (fits : σ.overflow = .stops → ¬limited → q.SumsFit (σ.spot doc)) :
    b.Gives limited doc need := by
  have child {q c : Query R} (fits : σ.overflow = .stops → ¬limited → q.SumsFit (σ.spot doc))
      (mem : c ∈ q.children) : σ.overflow = .stops → ¬limited → c.SumsFit (σ.spot doc) :=
    fun stops free => (fits stops free).child mem
  induction typed generalizing b with
  | leaf admits marked docs => exact leaf_gives inside meant admits marked docs
  | modify admits _ ih =>
    obtain ⟨change, modified, meant⟩ := bind_eq_ok meant
    obtain ⟨d, inner, meant⟩ := bind_eq_ok meant
    cases meant
    exact modifier_gives inside modified admits (ih inner (child fits List.mem_cons_self))
  | join admits _ _ ih =>
    obtain ⟨_, _, meant⟩ := bind_eq_ok meant
    obtain ⟨bs, inner, meant⟩ := bind_eq_ok meant
    refine operator_gives meant admits (fun d mem => ?_) fun adds stops free =>
      sumFits_of_meanings inner (fits stops free) adds stops
    obtain ⟨c, mem, meant⟩ := (mem_meanings inner).2.2 d mem
    exact ih c mem meant (child fits mem)
  | require _ _ _ ihc ihv =>
    obtain ⟨d, cond, meant⟩ := bind_eq_ok meant
    obtain ⟨w, value, meant⟩ := bind_eq_ok meant
    cases meant
    have hit := (ihc cond (child fits List.mem_cons_self)).matched
    have value := ihv value (child fits (List.mem_cons_of_mem _ List.mem_cons_self))
    exact ⟨hit, fun asked => hit.bind fun _ => .ite (value.count asked) (.pure _),
      fun asked => hit.bind fun _ => .ite (value.positions asked) (.pure _),
      fun asked => hit.bind fun _ => .ite (value.score asked) (.pure _)⟩

/-- Where calls do not end in sums, there need not be room for them. -/
lemma meaning_gives_unless {q : Query R} {b : Answers R Reading} (typed : Query.Typed need q)
    (meant : σ.meaning q = .ok b) (inside : doc < σ.segment.size)
    (stops : σ.overflow = .stops → limited) : b.Gives limited doc need :=
  meaning_gives typed meant inside fun ends free => absurd (stops ends) free

end Setting

end Retrieval
