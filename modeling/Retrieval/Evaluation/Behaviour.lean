import Retrieval.Evaluation.Plan

/-!
# What nodes answer

The answers of a node are what it says about the current document: whether it matches, its count,
its positions, its score, and an explanation. Each kind of node makes its answers from those of its
children, and `Plan.answers` puts a whole tree together.

The calls run in any monad with access to what leaves and windows read. The behaviour of a plan is
its answers in the monad that keeps cursors and memories in a state.

Conjunctions ask their children in the order of rising estimates and stop at the first that does not
match; alternatives are asked in the order of falling estimates up to the first that does.
-/

namespace Retrieval

/-- The answers of a node. -/
structure Answers (R : Type) (m : Type → Type) where
  /-- A short name, for explanations and faults. -/
  name : String
  /-- About how many documents match. -/
  estimate : Nat
  matched : m Bool
  count : m Nat
  positions : m (List Nat)
  score : m R
  explain : m (Explanation R)

namespace Answers

variable {R : Type} [Scalar R] {m : Type → Type} [Monad m] [MonadExceptOf Fault m]

/-! ## Lists of nodes -/

omit [Scalar R] in
def least (cs : List (Answers R m)) : Nat := (cs.map estimate).min?.getD 0

omit [Scalar R] in
def greatest (cs : List (Answers R m)) : Nat := (cs.map estimate).max?.getD 0

omit [Scalar R] in
/-- Those that fail soonest come first. -/
def byRising (cs : List (Answers R m)) : List (Answers R m) :=
  cs.mergeSort fun a b => a.estimate ≤ b.estimate

omit [Scalar R] in
/-- Those that match soonest come first. -/
def byFalling (cs : List (Answers R m)) : List (Answers R m) :=
  cs.mergeSort fun a b => b.estimate ≤ a.estimate

omit [Scalar R] in
def anyMatched (cs : List (Answers R m)) : m Bool := (byFalling cs).anyM matched

omit [Scalar R] in
def allMatched (cs : List (Answers R m)) : m Bool := cs.allM matched

omit [Scalar R] in
def explanations (cs : List (Answers R m)) : m (List (Explanation R)) := cs.mapM explain

/-! ## Common answers -/

omit [Scalar R] in
def noPositions {α : Type} (name : String) : m α := throw (.noPositions name)

omit [Scalar R] in
def uncounted {α : Type} (name : String) : m α := throw (.uncounted name)

omit [Scalar R] in
def unscored {α : Type} (name : String) : m α := throw (.unscored name)

/-- A node that only matches or not: its count and its score say no more. -/
def boolean (name description : String) (estimate : Nat) (matched : m Bool)
    (details : m (List (Explanation R))) : Answers R m where
  name
  estimate
  matched
  count := return if ← matched then 1 else 0
  positions := noPositions name
  score := return Scalar.ofBool (← matched)
  explain := do
    let hit ← matched
    return ⟨Scalar.ofBool hit, hit, description, ← details⟩

omit [Scalar R] in
/-- A node that has a score but no count. -/
def scoring (name description : String) (estimate : Nat) (matched : m Bool) (score : m R)
    (details : m (List (Explanation R))) : Answers R m where
  name
  estimate
  matched
  count := uncounted name
  positions := noPositions name
  score
  explain := do
    let hit ← matched
    let s ← score
    return ⟨s, hit, description, ← details⟩

/-- A node that has a count but no score. -/
def counting (name description : String) (estimate : Nat) (matched : m Bool) (count : m Nat)
    (positions : m (List Nat)) (details : m (List (Explanation R))) : Answers R m where
  name
  estimate
  matched
  count
  positions
  score := unscored name
  explain := do
    let hit ← matched
    let n ← count
    return ⟨Scalar.ofNat n, hit, description, ← details⟩

/-! ## Leaves -/

/-- A term: each answer first looks for its cursor on the current document. -/
def term (found : m (Option Postings)) (label : String) (needed : Need) (cost : Nat) :
    Answers R m where
  name := "term"
  estimate := cost
  matched := return (← found).isSome
  count := do
    if needed < .counts then throw (.openedTooLow "count" label needed.text)
    return (← found).elim 0 Postings.count
  positions := do
    if needed < .positions then throw (.openedTooLow "positions" label needed.text)
    match ← found with
    | some p => MonadExcept.ofExcept p.positions
    | none => return []
  score := throw (.bareTerm label)
  explain := do
    let found ← found
    let count := found.elim 0 fun p => if .counts ≤ needed then p.count else 1
    return ⟨Scalar.ofNat count, found.isSome, s!"{label} at {needed.text}", []⟩

/-- A term that does not occur. -/
def missing (label : String) : Answers R m :=
  counting "missing-term" s!"{label} does not occur in this segment" 0 (pure false) (pure 0)
    (pure []) (pure [])

/-- The document lengths of a field. -/
def lengths (here : m Nat) (segment : Segment) (field : String) : Answers R m :=
  let name := "lengths"
  counting name s!"length of {field}" segment.size (pure true)
    (do MonadExcept.ofExcept (segment.lengthOf (← here) field)) (noPositions name) (pure [])

omit [Scalar R] in
def constScore (value : R) : Answers R m :=
  scoring "const-score" "constant score" 0 (pure false) (pure value) (pure [])

/-- A count that is the same wherever its lengths match. -/
def constCount (count : Nat) (lengths : Answers R m) : Answers R m :=
  let name := "const-count"
  counting name "constant count" lengths.estimate lengths.matched (pure count) (noPositions name)
    (explanations [lengths])

def fixed (matched : Bool) (estimate : Nat) : Answers R m :=
  let name := if matched then "always" else "never"
  boolean name name estimate (pure matched) (pure [])

def whitelist (here : m Nat) (ids : List Nat) : Answers R m :=
  boolean "whitelist" s!"whitelist of {ids.length} documents" ids.length
    (return ids.contains (← here)) (pure [])

/-! ## One child -/

omit [Scalar R] in
def alwaysMatch (segment : Segment) (c : Answers R m) : Answers R m where
  name := "always-match"
  estimate := segment.size
  matched := pure true
  count := c.count
  positions := c.positions
  score := c.score
  explain := do
    let inner ← c.explain
    return ⟨inner.value, true, "always-match", [inner]⟩

def weight (w : R) (c : Answers R m) : Answers R m :=
  scoring "weight" s!"weight {Scalar.text w}" c.estimate c.matched (return w * (← c.score))
    (explanations [c])

/-- Scores the child's count by a model. -/
def scored (s : Scorer R) (lengths c : Answers R m) : Answers R m where
  name := s.name
  estimate := c.estimate
  matched := c.matched
  count := uncounted s.name
  positions := noPositions s.name
  score := do
    let count ← c.count
    return s.score count (← lengths.count)
  explain := do
    let count ← c.count
    let length ← lengths.count
    let hit ← c.matched
    return ⟨s.score count length, hit, s!"{count}/{length} with {s.describe}",
      ← explanations [c]⟩

def countToScore (c : Answers R m) : Answers R m :=
  scoring "count-to-score" "count as score" c.estimate c.matched
    (return Scalar.ofNat (← c.count)) (explanations [c])

def boolToScore (whenTrue whenFalse : R) (c : Answers R m) : Answers R m where
  name := "bool-to-score"
  estimate := c.estimate
  matched := c.matched
  count := uncounted "bool-to-score"
  positions := noPositions "bool-to-score"
  score := return if ← c.matched then whenTrue else whenFalse
  explain := do
    let hit ← c.matched
    let s := if ← c.matched then whenTrue else whenFalse
    return ⟨s, hit, s!"bool {Scalar.text (Scalar.ofBool hit : R)} as score", ← explanations [c]⟩

def countToBool (gt : Nat) (c : Answers R m) : Answers R m :=
  boolean "count-to-bool" s!"count > {gt}" c.estimate
    (do if ← c.matched then return gt < (← c.count) else return false) (explanations [c])

/-! ## Several children -/

def and (cs : List (Answers R m)) : Answers R m :=
  boolean "and" "and" (least cs) (allMatched (byRising cs)) (explanations (byRising cs))

def or (cs : List (Answers R m)) : Answers R m :=
  boolean "or" "or" (greatest cs) (anyMatched cs) (explanations cs)

/-- Adds the weighted scores from left to right. -/
def weightedSum (ws : List R) (cs : List (Answers R m)) : m R :=
  (cs.zip ws).foldlM (fun sum p => return sum + p.2 * (← p.1.score)) Scalar.zero

def combine (ws : List R) (cs : List (Answers R m)) : Answers R m :=
  let weights := "[" ++ ", ".intercalate (ws.map Scalar.literal) ++ "]"
  scoring "combine" s!"combine {weights}" (greatest cs) (anyMatched cs) (weightedSum ws cs)
    (explanations cs)

def max (cs : List (Answers R m)) : Answers R m :=
  let score := cs.foldlM (fun best c => return Scalar.larger best (← c.score)) Scalar.bottom
  { scoring "max" "max" (greatest cs) (anyMatched cs) score (explanations cs) with
    count := cs.foldlM (fun best c => return Max.max best (← c.count)) 0 }

def mult (cs : List (Answers R m)) : Answers R m :=
  scoring "mult" "mult" (greatest cs) (anyMatched cs)
    (cs.foldlM (fun product c => return product * (← c.score)) Scalar.one) (explanations cs)

/-- Positions in rising order, each once. -/
def sortedOnce (positions : List Nat) : List Nat :=
  (positions.mergeSort fun a b => a ≤ b).eraseDups

def synonym (plus : Nat → Nat → m Nat) (cs : List (Answers R m)) : Answers R m :=
  counting "synonym" "synonym" (addUp (cs.map estimate)) (anyMatched cs)
    (cs.foldlM (fun total c => do plus total (← c.count)) 0)
    (return sortedOnce (← cs.mapM positions).flatten) (explanations cs)

omit [Scalar R] in
/-- The positions of all children, if all of them match. -/
def gather : List (Answers R m) → m (Option (List (List Nat)))
  | [] => return some []
  | c :: cs => do
    if ← c.matched then
      let positions ← c.positions
      return (← gather cs).map (positions :: ·)
    else return none

omit [Scalar R] in
/-- Where the windows of the current document start; there are none unless all children match. -/
def windowStarts (kind : Window) (cs : List (Answers R m)) : m (List Nat) := do
  return kind.find ((← gather cs).getD [])

/-- A window: it is looked for once in each document, and every answer comes from that. -/
def window (remembered : m (List Nat) → m (List Nat)) (kind : Window) (cs : List (Answers R m)) :
    Answers R m where
  name := kind.name
  estimate := least cs
  matched := return !(← starts).isEmpty
  count := return (← starts).length
  positions := starts
  score := unscored kind.name
  explain := do
    let n := (← starts).length
    return ⟨Scalar.ofNat n, 0 < n, kind.text, ← explanations cs⟩
where
  starts : m (List Nat) := remembered (windowStarts kind cs)

def summary (plus : Nat → Nat → m Nat) (kind : Summary) (cs : List (Answers R m)) : Answers R m :=
  counting kind.name kind.name (least cs) (allMatched cs)
    (do if ← allMatched cs then kind.fold plus (← cs.mapM count) else return 0)
    (noPositions kind.name) (explanations cs)

/-- The place of the child that speaks for a multi query: the one named `primary`, or the first. -/
def primary (names : List String) : Nat := (names.findIdx? (· = "primary")).getD 0

/-- Named queries; one of them gives count and score. -/
def multi (names : List String) (cs : List (Answers R m)) : Answers R m :=
  let chosen {α : Type} (ask : Answers R m → m α) : m α :=
    match cs[primary names]? with
    | some c => ask c
    | none => throw (.unevenNames names.length cs.length)
  { name := "multi"
    estimate := greatest cs
    matched := anyMatched cs
    count := chosen count
    positions := noPositions "multi"
    score := chosen score
    explain := do
      let details ← (names.zip cs).mapM fun p => do
        let e ← p.2.explain
        return { e with description := s!"{p.1}: {e.description}" }
      let hit ← anyMatched cs
      let s ← chosen score
      let name := names.getD (primary names) ""
      return ⟨s, hit, s!"multi, primary={name}", details⟩ }

/-- Candidates and misses from `c`, values from `v`. -/
def require (c v : Answers R m) : Answers R m where
  name := "require"
  estimate := c.estimate
  matched := c.matched
  count := do if ← c.matched then v.count else return 0
  positions := do if ← c.matched then v.positions else return []
  score := do if ← c.matched then v.score else return Scalar.miss
  explain := do
    let cond ← c.explain
    if cond.matched then
      let value ← v.explain
      return ⟨value.value, true, "require", [cond, value]⟩
    else return ⟨Scalar.miss, false, "require: condition failed", [cond]⟩

end Answers

/-! ## Whole trees -/

section Trees

variable {R : Type} [Scalar R] {m : Type → Type} [Monad m] [MonadExceptOf Fault m]
variable (access : Access m) (segment : Segment)

def Source.answers : Source R → Answers R m
  | .term slot label needed cost => .term (access.found slot) label needed cost
  | .missing _ label => .missing label
  | .lengths field => .lengths access.here segment field
  | .constScore value => .constScore value
  | .constCount count field => .constCount count (.lengths access.here segment field)
  | .fixed matched estimate => .fixed matched estimate
  | .whitelist ids => .whitelist access.here ids

def Adapter.answers (c : Answers R m) : Adapter R → Answers R m
  | .alwaysMatch => .alwaysMatch segment c
  | .weight w => .weight w c
  | .scorer s field => .scored s (.lengths access.here segment field) c
  | .countToScore => .countToScore c
  | .boolToScore t f => .boolToScore t f c
  | .countToBool gt => .countToBool gt c

def Joint.answers (cs : List (Answers R m)) : Joint R → Answers R m
  | .and => .and cs
  | .or => .or cs
  | .combine ws => .combine ws cs
  | .max => .max cs
  | .mult => .mult cs
  | .synonym => .synonym access.plus cs
  | .window slot kind => .window (access.remembered slot) kind cs
  | .summary kind => .summary access.plus kind cs
  | .multi names => .multi names cs

namespace Plan

mutual

/-- What a compiled query answers in a segment, with what calls can read. -/
def answers : Plan R → Answers R m
  | .leaf s => s.answers access segment
  | .modify a c => a.answers access segment (answers c)
  | .join j cs => j.answers access (answersAll cs)
  | .require c v => .require (answers c) (answers v)

def answersAll : List (Plan R) → List (Answers R m)
  | [] => []
  | c :: cs => answers c :: answersAll cs

end

end Plan

end Trees

/-- Answers from the state of an evaluation. -/
abbrev Behaviour (R : Type) := Answers R Eval

namespace Plan

variable {R : Type} [Scalar R]

/-- What a compiled query answers in a segment, from the state of its evaluation. -/
def behaviour (segment : Segment) (p : Plan R) : Behaviour R := p.answers Eval.access segment

def behaviours (segment : Segment) (ps : List (Plan R)) : List (Behaviour R) :=
  answersAll Eval.access segment ps

end Plan

end Retrieval
