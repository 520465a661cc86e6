import Retrieval.Query.Fields

/-!
# Simplifying queries

A pass first works on weights: nested weights are multiplied, a weight over a weighted sum moves
into it, equal summands are merged and nested sums are flattened. Then it works on conjunctions and
disjunctions: those of the same kind are flattened, equal members are dropped, and so are the leaves
that decide a node or do not matter to it. `simplify` repeats passes until one changes nothing.

A pass says whether a rule has fired. Each rule that fires makes the tree smaller.
-/

namespace Retrieval

/-- A simplified value, and whether a rule has fired on the way to it. -/
structure Simplified (α : Type) where
  value : α
  changed : Bool := false
  deriving Repr

namespace Simplified

variable {α β : Type}

def map (f : α → β) (r : Simplified α) : Simplified β := ⟨f r.value, r.changed⟩

/-- Joins two values; a rule has fired if it has on either side. -/
def map₂ {γ : Type} (f : α → β → γ) (r : Simplified α) (s : Simplified β) : Simplified γ :=
  ⟨f r.value s.value, r.changed || s.changed⟩

/-- Records that a rule has fired. -/
def fired (r : Simplified α) : Simplified α := { r with changed := true }

end Simplified

namespace Query

variable {R : Type} [Scalar R]

/-! ## Weights -/

/-- Whether a later member of the list equals an earlier one. -/
def hasRepeats : List (Query R) → Bool
  | [] => false
  | c :: cs => cs.any (c == ·) || hasRepeats cs

def isWeighted : Query R → Bool
  | .modify (.weight _) _ => true
  | .join (.combine _) _ => true
  | _ => false

/-- Adds `w` to the weight of the first summand equal to `key`, or puts a new summand at the end. -/
def addSummand (key value : Query R) (w : R) :
    List (Query R × Query R × R) → List (Query R × Query R × R)
  | [] => [(key, value, w)]
  | (k, v, u) :: rest =>
    if k == key then (k, v, u + w) :: rest else (k, v, u) :: addSummand key value w rest

/-- Merges equal summands, in the order of their first occurrence. The `keys` decide which are
equal; `values` are what they are replaced by. -/
def mergeSummands (keys values : List (Query R)) (weights : List R) :
    List (Query R × Query R × R) :=
  ((keys.zip values).zip weights).foldl
    (fun merged p => addSummand p.1.1 p.1.2 p.2 merged) []

mutual

/-- The weight rules, from the root down. -/
def weightPass : Query R → Simplified (Query R)
  | .modify (.weight w) (.modify (.weight v) c) =>
    ((weightPass c).map (weighted (w * v))).fired
  | .modify (.weight w) (.join (.combine vs) cs) =>
    ((weightPassAll cs).map (.join (.combine (vs.map (· * w))))).fired
  | .join (.combine ws) cs =>
    if hasRepeats cs then
      let merged := mergeSummands cs (weightPassAll cs).value ws
      ⟨.join (.combine (merged.map (·.2.2))) (merged.map (·.2.1)), true⟩
    else if cs.any isWeighted then
      let flat := flattened cs ws
      ⟨.join (.combine (flat.map (·.2))) (flat.map (·.1)), true⟩
    else (weightPassAll cs).map (.join (.combine ws))
  | .leaf l => ⟨.leaf l, false⟩
  | .modify m c => (weightPass c).map (.modify m)
  | .join op cs => (weightPassAll cs).map (.join op)
  | .require c v => (weightPass c).map₂ .require (weightPass v)

def weightPassAll : List (Query R) → Simplified (List (Query R))
  | [] => ⟨[], false⟩
  | c :: cs => (weightPass c).map₂ List.cons (weightPassAll cs)

/-- The summands of a weighted sum, those of its inner sums in their place. -/
def flattened : List (Query R) → List R → List (Query R × R)
  | .join (.combine vs) inner :: cs, w :: ws =>
    ((weightPassAll inner).value.zip (vs.map (w * ·))) ++ flattened cs ws
  | .modify (.weight v) c :: cs, w :: ws =>
    ((weightPass c).value, w * v) :: flattened cs ws
  | c :: cs, w :: ws => ((weightPass c).value, w) :: flattened cs ws
  | _, _ => []

end

/-! ## Conjunctions and disjunctions -/

/-- The two boolean operators. -/
inductive Junction where
  | and
  | or
  deriving Repr, DecidableEq

namespace Junction

def operator : Junction → Operator R
  | and => .and
  | or => .or

/-- The leaf that decides the operator. -/
def absorbing : Junction → Query R
  | and => never
  | or => always

/-- The leaf that does not matter to the operator. -/
def identity : Junction → Query R
  | and => always
  | or => never

/-- The members of a query, if it is joined by the same operator. -/
def members? : Junction → Query R → Option (List (Query R))
  | and, .join .and cs => some cs
  | or, .join .or cs => some cs
  | _, _ => none

/-- Puts the members of inner nodes of the same operator in their place. -/
def splice (j : Junction) : List (Query R) → Simplified (List (Query R))
  | [] => ⟨[], false⟩
  | c :: cs =>
    match j.members? c with
    | some inner => ((splice j cs).map (inner ++ ·)).fired
    | none => (splice j cs).map (c :: ·)

/-- Keeps the first of equal members; `kept` are those met so far. -/
def distinct (kept : List (Query R)) : List (Query R) → Simplified (List (Query R))
  | [] => ⟨kept, false⟩
  | c :: cs => if kept.contains c then (distinct kept cs).fired else distinct (kept ++ [c]) cs

/-- Drops the members that do not matter; a node of nothing else becomes that leaf. -/
def withoutIdentity (j : Junction) (cs : List (Query R)) : Simplified (Query R) :=
  if !cs.isEmpty && cs.all (· == j.identity) then ⟨j.identity, true⟩
  else
    let kept := cs.filter (· != j.identity)
    ⟨.join j.operator kept, kept.length != cs.length⟩

/-- The rules for one node whose members are simple already. -/
def simplify (j : Junction) (members : Simplified (List (Query R))) : Simplified (Query R) :=
  let flat := j.splice members.value
  let once := distinct [] flat.value
  let before := members.changed || flat.changed || once.changed
  if once.value.contains j.absorbing then ⟨j.absorbing, true⟩
  else
    let result := j.withoutIdentity once.value
    ⟨result.value, before || result.changed⟩

end Junction

mutual

/-- The boolean rules, from the leaves up. -/
def junctionPass : Query R → Simplified (Query R)
  | .join .and cs => Junction.and.simplify (junctionPassAll cs)
  | .join .or cs => Junction.or.simplify (junctionPassAll cs)
  | .leaf l => ⟨.leaf l, false⟩
  | .modify m c => (junctionPass c).map (.modify m)
  | .join op cs => (junctionPassAll cs).map (.join op)
  | .require c v => (junctionPass c).map₂ .require (junctionPass v)

def junctionPassAll : List (Query R) → Simplified (List (Query R))
  | [] => ⟨[], false⟩
  | c :: cs => (junctionPass c).map₂ List.cons (junctionPassAll cs)

end

/-! ## Passes -/

/-- One pass of both rule sets. -/
def pass (q : Query R) : Simplified (Query R) :=
  let weighted := q.weightPass
  let simple := weighted.value.junctionPass
  ⟨simple.value, weighted.changed || simple.changed⟩

mutual

/-- Fails unless every weighted sum has one weight for each child. -/
def checkWeights : Query R → Except Fault Unit
  | .leaf _ => .ok ()
  | .modify _ c => checkWeights c
  | .join (.combine ws) cs =>
    if cs.length = ws.length then checkWeightsAll cs
    else .error (.unevenCombine cs.length ws.length)
  | .join _ cs => checkWeightsAll cs
  | .require c v => do checkWeights c; checkWeights v

def checkWeightsAll : List (Query R) → Except Fault Unit
  | [] => .ok ()
  | c :: cs => do checkWeights c; checkWeightsAll cs

end

/-- Repeats passes until one changes nothing; `none` after `passes` that each changed something. -/
def settle? : (passes : Nat) → Query R → Option (Query R)
  | passes, q =>
    let next := q.pass
    if next.changed then
      match passes with
      | 0 => none
      | passes + 1 => settle? passes next.value
    else some next.value

/-- Simplifies a query until nothing changes, in at most `passes` passes that change it. -/
def simplify (passes : Nat) (q : Query R) : Except Fault (Query R) := do
  q.checkWeights
  match q.settle? passes with
  | some simple => .ok simple
  | none => .error (.notConverged passes q.display)

end Query

end Retrieval
