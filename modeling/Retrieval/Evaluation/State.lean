import Retrieval.Collection.Postings

/-!
# The state of an evaluation

The nodes of a compiled query read one current document. Each term has a cursor that follows it
lazily, so cursors lag behind by different amounts, and each window remembers where it found windows
last. A failing call keeps the state that it has reached.
-/

namespace Retrieval

/-- What becomes of a sum of counts that is too large for a count. It depends on how the program was
built. There is no difference as long as no sum gets that large, so the trees of a session are made
with `never`, and `Tree.counting` gives those of either build. -/
inductive Overflow where
  /-- It stands: counts are numbers of any size. -/
  | never
  /-- It loses what is beyond the range. -/
  | wraps
  /-- It ends the call. -/
  | stops
  deriving Repr, DecidableEq

/-- Adds two counts. -/
def Overflow.plus {m : Type → Type} [Monad m] [MonadExceptOf Fault m] (overflow : Overflow)
    (n n' : Nat) : m Nat :=
  match overflow with
  | never => return n + n'
  | wraps => return (n + n') % countLimit
  | stops => if n + n' < countLimit then return n + n' else throw .overflow

/-- What the nodes compiled in one session share. -/
structure EvalState where
  /-- The current document. -/
  doc : Nat := 0
  /-- Whether a document has been chosen yet. -/
  positioned : Bool := false
  /-- The cursors of the terms. -/
  cursors : Array Postings := #[]
  /-- The last document that each window was looked for in, with what was found. -/
  windows : Array (Option (Nat × List Nat)) := #[]
  /-- How counts are added. -/
  overflow : Overflow := .never
  deriving Repr

/-- A call on a node. -/
abbrev Eval (α : Type) := ExceptT Fault (StateM EvalState) α

/-- What calls in a monad can read beside the answers of other nodes. -/
structure Access (m : Type → Type) where
  /-- The current document. -/
  here : m Nat
  /-- The cursor with a number, if it is on the current document. -/
  found : Nat → m (Option Postings)
  /-- What a search finds, remembered under a number. -/
  remembered : Nat → m (List Nat) → m (List Nat)
  /-- The sum of two counts. -/
  plus : Nat → Nat → m Nat

namespace EvalState

/-- Makes `doc` the current document. Documents are visited in order. -/
def moveTo (doc : Nat) (s : EvalState) : Except Fault EvalState :=
  if s.positioned && doc < s.doc then .error (.outOfOrder doc s.doc)
  else .ok { s with doc, positioned := true }

end EvalState

namespace Eval

/-- Runs a call; the state outlives a fault. -/
def run {α : Type} (call : Eval α) (s : EvalState) : Except Fault α × EvalState :=
  StateT.run (ExceptT.run call) s

/-- Brings a term's cursor up to the current document and returns it. -/
def catchUp (slot : Nat) : Eval (Option Postings) := do
  let s ← get
  match s.cursors[slot]? with
  | none => return none
  | some p =>
    let p := if p.doc < s.doc then p.advance s.doc else p
    set { s with cursors := s.cursors.setIfInBounds slot p }
    return if p.doc = s.doc then some p else none

/-- What a window found in the current document; `search` looks if it was not looked for before. -/
def remembered (slot : Nat) (search : Eval (List Nat)) : Eval (List Nat) := do
  let s ← get
  let fresh : Eval (List Nat) := do
    let starts ← search
    modify fun t => { t with windows := t.windows.setIfInBounds slot (some (t.doc, starts)) }
    return starts
  match s.windows[slot]? with
  | some (some (doc, starts)) => if doc = s.doc then return starts else fresh
  | _ => fresh

/-- Calls read the state of the evaluation. -/
def access : Access Eval where
  here := return (← get).doc
  found := catchUp
  remembered := remembered
  plus n n' := do (← get).overflow.plus n n'

end Eval

end Retrieval
