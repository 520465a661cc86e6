import Retrieval.Query.Fields
import Retrieval.Evaluation.Behaviour

/-!
# Sessions

A session compiles queries for one segment. It owns the evaluation state that all its plans share,
it remembers how much is needed of every term, and where cursors are shared it gives out one leaf
for all occurrences of a term. A failing call keeps what was compiled before it failed.
-/

namespace Retrieval

/-- A term together with its field. -/
abbrev TermKey := String × String

/-- What the queries compiled for a segment share. -/
structure Session (R : Type) where
  segment : Segment
  /-- The field of lengths that name none. -/
  defaultField : String
  /-- Whether equal terms share one cursor. -/
  share : Bool
  /-- The most that is needed of each term. -/
  registered : List (TermKey × Need) := []
  /-- The leaves given out so far, where they are shared. -/
  shared : List (TermKey × Plan R) := []
  state : EvalState := {}

/-- A step of compilation. -/
abbrev Compile (R α : Type) := ExceptT Fault (StateM (Session R)) α

namespace Session

variable {R : Type}

/-- Runs a step; the session outlives a fault. -/
def run {α : Type} (step : Compile R α) (s : Session R) : Except Fault α × Session R :=
  StateT.run (ExceptT.run step) s

def ofExcept {α : Type} (result : Except Fault α) : Compile R α := ExceptT.mk (pure result)

/-- Raises what is needed of a term. -/
def raise (key : TermKey) (needed : Need) : List (TermKey × Need) → List (TermKey × Need)
  | [] => [(key, max .docs needed)]
  | (k, n) :: rest =>
    if k = key then (k, max n needed) :: rest else (k, n) :: raise key needed rest

/-- Records how much a query needs of its terms, so that a shared cursor is opened for the most that
is needed anywhere. -/
def recordNeeds (q : Query R) : Compile R Unit :=
  q.terms.forM fun t => do
    let field ← ofExcept t.countedField
    modify fun s =>
      { s with registered := raise (t.text, field) t.needed s.registered }

/-- Adds a cursor to the state and returns its number. -/
def newCursor (p : Postings) : Compile R Nat := do
  let s ← get
  set { s with state := { s.state with cursors := s.state.cursors.push p } }
  return s.state.cursors.size

/-- Adds a window that has not been looked for yet, and returns its number. -/
def newWindow : Compile R Nat := do
  let s ← get
  set { s with state := { s.state with windows := s.state.windows.push none } }
  return s.state.windows.size

/-- A leaf over the postings that were found, if any. -/
def newTerm (label : String) (needed : Need) : Option Postings → Compile R (Plan R)
  | some p => return .leaf (.term (← newCursor p) label needed p.cost)
  | none => return .leaf (.missing (← newCursor (.ofList [] needed)) label)

/-- The leaf of a term, opened for `needed` or for the most that was registered. -/
def term (text field : String) (needed : Need) : Compile R (Plan R) := do
  let s ← get
  let key := (text, field)
  match if s.share then s.shared.lookup key else none with
  | some leaf => return leaf
  | none =>
    let needed := (s.registered.lookup key).elim needed (max · needed)
    let postings ← ofExcept (s.segment.cursor text field needed)
    let leaf ← newTerm s!"{field}:{text}" needed postings
    if s.share then modify fun s => { s with shared := (key, leaf) :: s.shared }
    return leaf

/-- The documents of a whitelist that lie in the segment, numbered there, in rising order. -/
def idsWithin (segment : Segment) (w : Whitelist) : Except Fault (List Nat) :=
  match w.ids with
  | none => .error .unresolvedWhitelist
  | some ids =>
    let inside := ids.filter fun id => segment.base ≤ id && id < segment.base + segment.size
    .ok (Answers.sortedOnce (inside.map (· - segment.base)))

variable [Scalar R]

/-- The field whose lengths normalise a scorer: the one that its child is counted in. -/
def scorerField (defaultField : String) (child : Query R) : Except Fault String :=
  match child with
  | .leaf (.lengths { field := some f, .. }) => .ok f
  | _ => child.onlyCountedField defaultField

/-- A parameter that binding has to have set. -/
def parameter (q : Query R) (name : String) : Option R → Except Fault R
  | some x => .ok x
  | none => .error (.unsetParameter name q.display)

/-- The scorer for the node `q`, which has to be bound and to have statistics. -/
def scorer (q : Query R) (m : Model R) (stats : Option Statistics) : Except Fault (Scorer R) := do
  let stats ← match stats with
    | some s => .ok s
    | none => .error (.noStats q.display)
  match m with
  | .dirichlet mu => return .dirichlet (← parameter q "mu" mu) stats
  | .absoluteDiscounting delta =>
    return .absoluteDiscounting (← parameter q "delta" delta) stats
  | .bm25 b k =>
    let b ← parameter q "b" b
    return .bm25 b (← parameter q "k" k) stats

/-- The plan of a leaf. -/
def leaf (l : Leaf R) : Compile R (Plan R) := do
  let s ← get
  let size := s.segment.size
  match l with
  | .term t => term t.text (← ofExcept t.countedField) t.needed
  | .lengths l => return .leaf (.lengths (l.field.getD s.defaultField))
  | .constScore x => return .leaf (.constScore x)
  | .constCount n l => return .leaf (.constCount n (l.field.getD s.defaultField))
  | .constBool b => return .leaf (.fixed b (if b then size else 0))
  | .always => return .leaf (.fixed true size)
  | .never => return .leaf (.fixed false 0)
  | .whitelist w => return .leaf (.whitelist (← ofExcept (idsWithin s.segment w)))
  | .raw q =>
    match ← ofExcept (s.segment.rawCursor q) with
    | some p => newTerm s!"raw:{q}" .docs (some p)
    | none => return .leaf (.fixed false 0)

/-- What a modifier over `child` becomes. -/
def adapter (m : Modifier R) (child : Query R) : Compile R (Adapter R) := do
  match m with
  | .alwaysMatch => return .alwaysMatch
  | .weight w => return .weight w
  | .scorer model stats =>
    let s ← ofExcept (scorer (.modify m child) model stats)
    return .scorer s (← ofExcept (scorerField (← get).defaultField child))
  | .countToScore => return .countToScore
  | .boolToScore t f => return .boolToScore t f
  | .countToBool gt => return .countToBool gt

/-- What an operator becomes over compiled children. -/
def joint (op : Operator R) (children : Nat) : Compile R (Joint R) :=
  match op with
  | .combine ws => return .combine ws
  | .and => return .and
  | .or => return .or
  | .max => return .max
  | .mult => return .mult
  | .synonym => return .synonym
  | .orderedWindow step => return .window (← newWindow) (.ordered step)
  | .unorderedWindow width => return .window (← newWindow) (.unordered width)
  | .prox width => return .window (← newWindow) (.prox width)
  | .smallerCount => return .summary .smallest
  | .windowCeiling _ => return .summary .ceiling
  | .multi names =>
    if names.length = children ∧ children ≠ 0 then return .multi names
    else throw (.unevenNames names.length children)

/-- Fails if a weighted sum does not have one weight for each child. -/
def checkOperator (q : Query R) (op : Operator R) (children : Nat) : Except Fault Unit :=
  match op with
  | .combine ws =>
    if children = ws.length then .ok ()
    else .error (.unevenWeights q.display children ws.length)
  | _ => .ok ()

mutual

/-- The plan of a query, children from left to right. -/
def plan : Query R → Compile R (Plan R)
  | .leaf l => leaf l
  | .modify m c => do
    let a ← adapter m c
    return .modify a (← plan c)
  | .join op cs => do
    ofExcept (checkOperator (.join op cs) op cs.length)
    let children ← plans cs
    return .join (← joint op cs.length) children
  | .require c v => do
    let c ← plan c
    return .require c (← plan v)

def plans : List (Query R) → Compile R (List (Plan R))
  | [] => return []
  | c :: cs => do
    let c ← plan c
    return c :: (← plans cs)

end

/-- Compiles a query whose needs are registered first. -/
def compile (q : Query R) : Compile R (Plan R) := do
  recordNeeds q
  plan q

end Session

end Retrieval
