import Retrieval.Evaluation.Tree
import Retrieval.Proofs.Collection.Rising
import Retrieval.Proofs.Query.Typing
import Mathlib.Tactic.Lemma

/-!
# Readings

A reading is a call without a state: all that it sees is the current document. The meaning of a
query is made of the same answers as its compiled trees, but every one of them is a reading. It
opens each term once for the most that is needed of it, looks the term up afresh in each document,
and searches each window again, so nothing in it can depend on what was asked before.

`Setting.meaning` fails where compilation fails, with the same fault.
-/

namespace Retrieval

section State

variable {σ α β : Type} {step : ExceptT Fault (StateM σ) α} {next : α → ExceptT Fault (StateM σ) β}
  {s s' : σ}

/-- After a step that succeeds, a computation runs on from the state that the step leaves. -/
lemma runState_bind_ok {a : α} (ran : StateT.run (ExceptT.run step) s = (.ok a, s')) :
    StateT.run (ExceptT.run (step >>= next)) s = StateT.run (ExceptT.run (next a)) s' := by
  simp only [ExceptT.run_bind, StateT.run_bind, ran]
  rfl

/-- A step that fails ends a computation in the state that the step leaves. -/
lemma runState_bind_error {e : Fault}
    (ran : StateT.run (ExceptT.run step) s = (.error e, s')) :
    StateT.run (ExceptT.run (step >>= next)) s = (.error e, s') := by
  simp only [ExceptT.run_bind, StateT.run_bind, ran]
  rfl

end State

/-- A call that sees nothing but the current document. -/
abbrev Reading (α : Type) := ReaderT Nat (Except Fault) α

namespace Postings

/-- The cursor on a document, if it has a posting there. -/
def at? (doc : Nat) (p : Postings) : Option Postings :=
  if (p.advance doc).doc = doc then some (p.advance doc) else none

lemma isSome_at? {p : Postings} {doc : Nat} :
    (p.at? doc).isSome = true ↔ (p.advance doc).doc = doc := by
  rw [at?]
  split
  · next here => exact iff_of_true rfl here
  · next other => exact iff_of_false Bool.false_ne_true other

/-- A cursor that is found on a real document has a posting there. -/
lemma mem_of_isSome_at? {p : Postings} {doc : Nat} (real : doc < noMoreDocs)
    (found : (p.at? doc).isSome = true) : ∃ q ∈ p.rest, q.doc = doc := by
  have here := isSome_at?.mp found
  rcases (p.advance doc).doc_mem with used | ⟨q, mem, same⟩
  · omega
  · exact ⟨q, (List.dropWhile_sublist _).subset mem, same.trans here⟩

/-- A rising cursor is found on every document that it has a posting of. -/
lemma Rising.isSome_at? {p : Postings} (rising : p.Rising) {q : Posting} (mem : q ∈ p.rest) :
    (p.at? q.doc).isSome = true := by
  have le := (rising.advance q.doc).doc_le (rising.mem_advance.mpr ⟨Nat.le_refl _, mem⟩)
  have real := rising.2 q mem
  rw [Postings.isSome_at?]
  rcases (p.advance q.doc).doc_mem with used | ⟨r, ahead, same⟩
  · omega
  · have ge := (rising.mem_advance.mp ahead).1
    omega

end Postings

namespace Overflow

variable {overflow : Overflow}

/-- A sum that is not too large is the same in every build. -/
lemma plus_of_lt {n n' : Nat} (room : n + n' < countLimit) :
    (overflow.plus n n' : Reading Nat) = pure (n + n') := by
  cases overflow with
  | never => rfl
  | wraps => rw [plus, Nat.mod_eq_of_lt room]
  | stops => rw [plus, if_pos room]

variable (unbounded : overflow = .never)
include unbounded

lemma ne_wraps : overflow ≠ .wraps := by
  rw [unbounded]
  nofun

lemma ne_stops : overflow ≠ .stops := by
  rw [unbounded]
  nofun

end Overflow

namespace Reading

/-- Readings go through each list from its beginning and remember nothing. -/
def access (overflow : Overflow) (cursors : Array Postings) : Access Reading where
  here := read
  found slot := return cursors[slot]?.bind (·.at? (← read))
  remembered _ search := search
  plus := overflow.plus

section Steps

variable {α β γ : Type} {d : Nat}

/-- A reading that has succeeded has succeeded at each step. -/
lemma bind_eq_ok {first : Reading α} {next : α → Reading β} {b : β}
    (h : (first >>= next) d = .ok b) : ∃ a, first d = .ok a ∧ next a d = .ok b :=
  Retrieval.bind_eq_ok (show (first d >>= (next · d)) = _ from h)

/-- After a step that has succeeded, a reading goes on from its answer. -/
lemma bind_of_ok {first : Reading α} {a : α} (next : α → Reading β) (h : first d = .ok a) :
    (first >>= next) d = next a d := by
  show (first d >>= (next · d)) = _
  rw [h]
  rfl

/-- A list of readings is read one by one. -/
lemma mapM_apply (reading : γ → Reading α) (cs : List γ) (d : Nat) :
    cs.mapM reading d = cs.mapM fun c => reading c d := by
  induction cs with
  | nil => rfl
  | cons c cs ih =>
    rw [List.mapM_cons, List.mapM_cons, ← ih]
    rfl

/-- Where a list of readings has succeeded, each of them has. -/
lemma forall₂_of_mapM {reading : γ → Reading α} {cs : List γ} {as : List α}
    (h : cs.mapM reading d = .ok as) : List.Forall₂ (fun c a => reading c d = .ok a) cs as :=
  Retrieval.forall₂_of_mapM (mapM_apply reading cs d ▸ h)

/-- A list of readings succeeds if each of them does. -/
lemma exists_mapM_eq_ok {reading : γ → Reading α} {cs : List γ}
    (each : ∀ c ∈ cs, ∃ a, reading c d = .ok a) : ∃ as, cs.mapM reading d = .ok as :=
  mapM_apply reading cs d ▸ Retrieval.exists_mapM_eq_ok each

end Steps

section Lists

variable {γ : Type} {answer : γ → Reading Bool} {cs : List γ} {d : Nat}

lemma forall_of_allM (h : cs.allM answer d = .ok true) : ∀ c ∈ cs, answer c d = .ok true := by
  induction cs with
  | nil => exact nofun
  | cons c cs ih =>
    obtain ⟨hit, first, rest⟩ := bind_eq_ok (show (answer c d >>= _) = _ from h)
    cases hit with
    | true => exact List.forall_mem_cons.mpr ⟨first, ih rest⟩
    | false => cases rest

lemma exists_of_anyM (h : cs.anyM answer d = .ok true) : ∃ c ∈ cs, answer c d = .ok true := by
  induction cs with
  | nil => cases h
  | cons c cs ih =>
    obtain ⟨hit, first, rest⟩ := bind_eq_ok (show (answer c d >>= _) = _ from h)
    cases hit with
    | true => exact ⟨c, List.mem_cons_self, first⟩
    | false =>
      obtain ⟨c', mem, yes⟩ := ih rest
      exact ⟨c', List.mem_cons_of_mem c mem, yes⟩

end Lists

end Reading

/-- A cursor is opened for what it was asked for. -/
lemma Segment.needed_of_cursor {segment : Segment} {text field : String} {needed : Need}
    {p : Postings} (opened : segment.cursor text field needed = .ok (some p)) :
    p.needed = needed := by
  rw [cursor] at opened
  split at opened
  · cases opened
  · obtain ⟨list, _, rfl⟩ := Option.map_eq_some_iff.mp (Except.ok.inj opened)
    rfl

/-- A raw query is opened for documents. -/
lemma Segment.needed_of_rawCursor {segment : Segment} {text : String} {p : Postings}
    (opened : segment.rawCursor text = .ok (some p)) : p.needed = .docs := by
  rw [rawCursor] at opened
  split at opened
  · exact needed_of_cursor opened
  · cases opened

/-- A term that can be opened for more can be opened for documents, on the same postings. -/
lemma Segment.cursor_docs {segment : Segment} {text field : String} {needed : Need}
    {found : Option Postings} (opened : segment.cursor text field needed = .ok found) :
    segment.cursor text field .docs = .ok (found.map ({ · with needed := .docs })) := by
  rw [cursor] at opened ⊢
  split at opened
  · cases opened
  · cases opened
    have other : ¬Need.docs = Need.scores := by decide
    rw [if_neg other, Option.map_map]
    rfl

/-- What a query is read in. -/
structure Setting where
  segment : Segment
  /-- The field of lengths that name none. -/
  defaultField : String
  /-- The most that is needed of each term. -/
  registered : List (TermKey × Need)
  /-- How counts are added. -/
  overflow : Overflow := .never

namespace Setting

variable (σ : Setting)

/-- What readings in the setting can read, once cursors are allotted. -/
def access (cursors : Array Postings) : Access Reading := Reading.access σ.overflow cursors

/-- What a term is opened for where `needed` is asked of it. -/
def opened (key : TermKey) (needed : Need) : Need :=
  (σ.registered.lookup key).elim needed (max · needed)

variable {R : Type} [Scalar R]

/-- The answers over the postings that were found, if any. -/
def occurring (label : String) (needed : Need) : Option Postings → Answers R Reading
  | some p => .term (return p.at? (← read)) label needed p.cost
  | none => .missing label

/-- The answers of a term. -/
def term (text field : String) (needed : Need) : Except Fault (Answers R Reading) := do
  let needed := σ.opened (text, field) needed
  return occurring s!"{field}:{text}" needed (← σ.segment.cursor text field needed)

/-- The answers of a field's lengths. -/
def lengths (field : Option String) : Answers R Reading :=
  .lengths read σ.segment (field.getD σ.defaultField)

/-- The answers of a leaf. -/
def leaf : Leaf R → Except Fault (Answers R Reading)
  | .term t => do σ.term t.text (← t.countedField) t.needed
  | .lengths l => .ok (σ.lengths l.field)
  | .constScore x => .ok (.constScore x)
  | .constCount n l => .ok (.constCount n (σ.lengths l.field))
  | .constBool b => .ok (.fixed b (if b then σ.segment.size else 0))
  | .always => .ok (.fixed true σ.segment.size)
  | .never => .ok (.fixed false 0)
  | .whitelist w => do return .whitelist read (← Session.idsWithin σ.segment w)
  | .raw q => do
    match ← σ.segment.rawCursor q with
    | some p => return occurring s!"raw:{q}" .docs (some p)
    | none => return .fixed false 0

/-- What a modifier over `child` makes of the child's answers. -/
def modifier (m : Modifier R) (child : Query R) :
    Except Fault (Answers R Reading → Answers R Reading) :=
  match m with
  | .alwaysMatch => .ok (.alwaysMatch σ.segment)
  | .weight w => .ok (.weight w)
  | .scorer model stats => do
    let s ← Session.scorer (.modify m child) model stats
    let field ← Session.scorerField σ.defaultField child
    return .scored s (.lengths read σ.segment field)
  | .countToScore => .ok .countToScore
  | .boolToScore t f => .ok (.boolToScore t f)
  | .countToBool gt => .ok (.countToBool gt)

/-- What an operator makes of its children's answers. -/
def operator (cs : List (Answers R Reading)) : Operator R → Except Fault (Answers R Reading)
  | .combine ws => .ok (.combine ws cs)
  | .and => .ok (.and cs)
  | .or => .ok (.or cs)
  | .max => .ok (.max cs)
  | .mult => .ok (.mult cs)
  | .synonym => .ok (.synonym σ.overflow.plus cs)
  | .orderedWindow step => .ok (.window id (.ordered step) cs)
  | .unorderedWindow width => .ok (.window id (.unordered width) cs)
  | .prox width => .ok (.window id (.prox width) cs)
  | .smallerCount => .ok (.summary σ.overflow.plus .smallest cs)
  | .windowCeiling _ => .ok (.summary σ.overflow.plus .ceiling cs)
  | .multi names =>
    if names.length = cs.length ∧ cs.length ≠ 0 then .ok (.multi names cs)
    else .error (.unevenNames names.length cs.length)

mutual

/-- What a query answers in each document of the segment. -/
def meaning : Query R → Except Fault (Answers R Reading)
  | .leaf l => σ.leaf l
  | .modify m c => do
    let change ← σ.modifier m c
    return change (← meaning c)
  | .join op cs => do
    Session.checkOperator (.join op cs) op cs.length
    σ.operator (← meanings cs) op
  | .require c v => do
    let c ← meaning c
    return .require c (← meaning v)

def meanings : List (Query R) → Except Fault (List (Answers R Reading))
  | [] => .ok []
  | c :: cs => do
    let c ← meaning c
    return c :: (← meanings cs)

end

lemma meanings_eq_mapM (σ : Setting) (cs : List (Query R)) :
    σ.meanings cs = cs.mapM σ.meaning := by
  induction cs with
  | nil => rfl
  | cons c cs ih => rw [meanings, ih, List.mapM_cons]

/-- The answers of a list of queries are those of its queries. -/
lemma mem_meanings {σ : Setting} {cs : List (Query R)} {bs : List (Answers R Reading)}
    (meant : σ.meanings cs = .ok bs) :
    bs.length = cs.length ∧ (∀ c ∈ cs, ∃ b ∈ bs, σ.meaning c = .ok b) ∧
      ∀ b ∈ bs, ∃ c ∈ cs, σ.meaning c = .ok b := by
  rw [meanings_eq_mapM] at meant
  exact mapM_eq_ok meant

/-- Named queries have a meaning only if there is a name for each of them, and there are some. -/
lemma named_of_operator {σ : Setting} {names : List String} {cs : List (Answers R Reading)}
    {b : Answers R Reading} (meant : σ.operator cs (.multi names) = .ok b) :
    names.length = cs.length ∧ cs.length ≠ 0 ∧ b = .multi names cs := by
  rw [operator] at meant
  split at meant
  · next even =>
    cases meant
    exact ⟨even.1, even.2, rfl⟩
  · cases meant

end Setting

namespace Query

variable {R : Type}

/-- The most that a query needs of each term; fails at the first term without a field. -/
def registered (q : Query R) : Except Fault (List (TermKey × Need)) :=
  q.terms.foldlM (fun known t => do
    return Session.raise (t.text, ← t.countedField) t.needed known) []

/-- What a query answers in each document of a segment. -/
def meaning [Scalar R] (segment : Segment) (defaultField : String) (q : Query R) :
    Except Fault (Answers R Reading) := do
  Setting.meaning { segment, defaultField, registered := ← q.registered } q

end Query

end Retrieval
