import Retrieval.Query.Need
import Retrieval.Statistics

/-!
# Query expressions

A query is a tree. Its leaves read the index or are constants, a modifier changes what one child
means, an operator joins a list of children, and `require` takes its candidates from one child and
its values from another. Passes over queries recurse on these four shapes.

Two queries are equal when they are built alike from equal parts, and scalars are compared as
numbers: `Query.beq` is that comparison.
-/

namespace Retrieval

/-- A term in a field, with statistics that may be drawn from another field. -/
structure Term where
  text : String
  /-- Where occurrences are looked for; the environment fills it in. -/
  field : Option String := none
  /-- Where statistics are drawn from, if not from `field`. -/
  statsField : Option String := none
  stats : Option Statistics := none
  /-- What the nodes above ask of the term. -/
  needed : Need := .docs
  deriving Repr, DecidableEq

/-- The document lengths of a field. -/
structure Lengths where
  field : Option String := none
  stats : Option Statistics := none
  deriving Repr, DecidableEq

/-- A fixed set of documents, by name or by number. -/
structure Whitelist where
  names : Option (List String) := none
  ids : Option (List Nat) := none
  deriving Repr, DecidableEq

/-- A query without children. -/
inductive Leaf (R : Type) where
  | term (t : Term)
  /-- The length of a document, as a count. -/
  | lengths (l : Lengths)
  /-- A score that never makes a document match. -/
  | constScore (value : R)
  /-- A count that is the same everywhere. -/
  | constCount (count : Nat) (l : Lengths)
  | constBool (value : Bool)
  | whitelist (w : Whitelist)
  | always
  | never
  /-- A query in the words of the index. -/
  | raw (query : String)
  deriving Repr

/-- A retrieval model with those of its parameters that are set. -/
inductive Model (R : Type) where
  | dirichlet (mu : Option R)
  | absoluteDiscounting (delta : Option R)
  | bm25 (b k : Option R)
  deriving Repr

/-- What is done to a single child. -/
inductive Modifier (R : Type) where
  /-- Every document becomes a candidate. -/
  | alwaysMatch
  | weight (w : R)
  /-- The child's count is scored by a model. -/
  | scorer (model : Model R) (stats : Option Statistics)
  | countToScore
  | boolToScore (whenTrue whenFalse : R)
  /-- Matches where the child's count is above a bound. -/
  | countToBool (gt : Nat)
  deriving Repr

/-- How a list of children is joined. -/
inductive Operator (R : Type) where
  /-- The weighted sum of the children's scores. -/
  | combine (weights : List R)
  | and
  | or
  | max
  | mult
  /-- Several terms that count as one. -/
  | synonym
  /-- Terms in order, each at most `step` positions after the one before. -/
  | orderedWindow (step : Nat)
  /-- Terms in any order within `width` positions. -/
  | unorderedWindow (width : Nat)
  /-- The first term, with every other within `width` positions. -/
  | prox (width : Nat)
  /-- The smallest of the counts, where all are positive. -/
  | smallerCount
  /-- A bound on the unordered windows that the counts allow. -/
  | windowCeiling (width : Nat)
  /-- Named queries that are evaluated together. -/
  | multi (names : List String)
  deriving Repr

/-- A ranked-retrieval query. -/
inductive Query (R : Type) where
  | leaf (l : Leaf R)
  | modify (m : Modifier R) (child : Query R)
  | join (op : Operator R) (children : List (Query R))
  /-- Candidates come from `cond`, values from `value`. -/
  | require (cond value : Query R)
  deriving Repr

variable {R : Type}

instance : Inhabited (Query R) := ⟨.leaf .never⟩

/-! ## Equality -/

section Equality

variable [BEq R]

def Leaf.beq : Leaf R → Leaf R → Bool
  | .term s, .term t => s == t
  | .lengths l, .lengths m => l == m
  | .constScore x, .constScore y => x == y
  | .constCount m l, .constCount n k => m == n && l == k
  | .constBool a, .constBool b => a == b
  | .whitelist v, .whitelist w => v == w
  | .always, .always | .never, .never => true
  | .raw p, .raw q => p == q
  | _, _ => false

def Model.beq : Model R → Model R → Bool
  | .dirichlet m, .dirichlet n => m == n
  | .absoluteDiscounting d, .absoluteDiscounting e => d == e
  | .bm25 b k, .bm25 c l => b == c && k == l
  | _, _ => false

instance : BEq (Leaf R) := ⟨Leaf.beq⟩
instance : BEq (Model R) := ⟨Model.beq⟩

def Modifier.beq : Modifier R → Modifier R → Bool
  | .alwaysMatch, .alwaysMatch | .countToScore, .countToScore => true
  | .weight v, .weight w => v == w
  | .scorer m s, .scorer n t => m == n && s == t
  | .boolToScore s t, .boolToScore u v => s == u && t == v
  | .countToBool m, .countToBool n => m == n
  | _, _ => false

def Operator.beq : Operator R → Operator R → Bool
  | .combine v, .combine w => v == w
  | .and, .and | .or, .or | .max, .max | .mult, .mult | .synonym, .synonym
  | .smallerCount, .smallerCount => true
  | .orderedWindow m, .orderedWindow n | .unorderedWindow m, .unorderedWindow n
  | .prox m, .prox n | .windowCeiling m, .windowCeiling n => m == n
  | .multi ms, .multi ns => ms == ns
  | _, _ => false

instance : BEq (Modifier R) := ⟨Modifier.beq⟩
instance : BEq (Operator R) := ⟨Operator.beq⟩

mutual

def Query.beq : Query R → Query R → Bool
  | .leaf l, .leaf k => l == k
  | .modify m c, .modify n d => m == n && Query.beq c d
  | .join o cs, .join p ds => o == p && Query.beqAll cs ds
  | .require c v, .require d w => Query.beq c d && Query.beq v w
  | _, _ => false

def Query.beqAll : List (Query R) → List (Query R) → Bool
  | [], [] => true
  | c :: cs, d :: ds => Query.beq c d && Query.beqAll cs ds
  | _, _ => false

end

instance : BEq (Query R) := ⟨Query.beq⟩

end Equality

namespace Query

/-! ## Constructors by name -/

def term (text : String) (field : Option String := none) : Query R :=
  .leaf (.term { text, field })

def always : Query R := .leaf .always
def never : Query R := .leaf .never

def weighted (w : R) (q : Query R) : Query R := .modify (.weight w) q

def and (children : List (Query R)) : Query R := .join .and children
def or (children : List (Query R)) : Query R := .join .or children

/-! ## Children and leaves -/

/-- The children of a node, in order. -/
def children : Query R → List (Query R)
  | .leaf _ => []
  | .modify _ c => [c]
  | .join _ cs => cs
  | .require c v => [c, v]

mutual

/-- The number of nodes. -/
def size : Query R → Nat
  | .leaf _ => 1
  | .modify _ c => size c + 1
  | .join _ cs => sizeAll cs + 1
  | .require c v => size c + size v + 1

def sizeAll : List (Query R) → Nat
  | [] => 0
  | c :: cs => size c + sizeAll cs

end

mutual

/-- The term leaves, from left to right. -/
def terms : Query R → List Term
  | .leaf (.term t) => [t]
  | .leaf _ => []
  | .modify _ c => terms c
  | .join _ cs => termsAll cs
  | .require c v => terms c ++ terms v

def termsAll : List (Query R) → List Term
  | [] => []
  | c :: cs => terms c ++ termsAll cs

end

mutual

/-- Every node, parents before children. -/
def nodes : Query R → List (Query R)
  | .leaf l => [.leaf l]
  | .modify m c => .modify m c :: nodes c
  | .join op cs => .join op cs :: nodesAll cs
  | .require c v => .require c v :: (nodes c ++ nodes v)

def nodesAll : List (Query R) → List (Query R)
  | [] => []
  | c :: cs => nodes c ++ nodesAll cs

end

/-! ## Rebuilding a query

A pass that keeps the shape of a query says what becomes of its leaves and of its modifiers, the
latter with the child as already rebuilt. The first fault from left to right ends it. -/

section Rebuild

variable {ε : Type}

mutual

def rebuild (onLeaf : Leaf R → Except ε (Leaf R))
    (onModifier : Modifier R → Query R → Except ε (Modifier R)) : Query R → Except ε (Query R)
  | .leaf l => do return .leaf (← onLeaf l)
  | .modify m c => do
    let c ← rebuild onLeaf onModifier c
    return .modify (← onModifier m c) c
  | .join op cs => do return .join op (← rebuildAll onLeaf onModifier cs)
  | .require c v => do
    let c ← rebuild onLeaf onModifier c
    return .require c (← rebuild onLeaf onModifier v)

def rebuildAll (onLeaf : Leaf R → Except ε (Leaf R))
    (onModifier : Modifier R → Query R → Except ε (Modifier R)) :
    List (Query R) → Except ε (List (Query R))
  | [] => .ok []
  | c :: cs => do
    let c ← rebuild onLeaf onModifier c
    return c :: (← rebuildAll onLeaf onModifier cs)

end

end Rebuild

mutual

/-- Replaces every term leaf. -/
def mapTerms (f : Term → Term) : Query R → Query R
  | .leaf (.term t) => .leaf (.term (f t))
  | .leaf l => .leaf l
  | .modify m c => .modify m (mapTerms f c)
  | .join op cs => .join op (mapTermsAll f cs)
  | .require c v => .require (mapTerms f c) (mapTerms f v)

def mapTermsAll (f : Term → Term) : List (Query R) → List (Query R)
  | [] => []
  | c :: cs => mapTerms f c :: mapTermsAll f cs

end

end Query

end Retrieval
