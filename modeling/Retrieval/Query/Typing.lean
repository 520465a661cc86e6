import Retrieval.Query.Fields

/-!
# Data needs of a query

`Query.infer` types a query from the root down. Each node is asked for something and asks something
of its children, and every term is marked with the most that is asked of it anywhere in the query. A
node that could not answer is a type fault, so that it is found before any document is looked at.
-/

namespace Retrieval

namespace Query

variable {R : Type}

/-- Nodes that have a score but no count. -/
def onlyScores : Query R → Bool
  | .leaf (.constScore _) => true
  | .modify (.weight _) _ | .modify (.scorer ..) _ | .modify .countToScore _
  | .modify (.boolToScore ..) _ => true
  | .join (.combine _) _ | .join .mult _ => true
  | _ => false

/-- Nodes that have a count but no score. -/
def onlyCounts : Query R → Bool
  | .leaf (.term _) | .leaf (.lengths _) | .leaf (.constCount ..) | .leaf (.raw _) => true
  | .join .synonym _ | .join (.orderedWindow _) _ | .join (.unorderedWindow _) _
  | .join (.prox _) _ | .join .smallerCount _ | .join (.windowCeiling _) _ => true
  | _ => false

/-- Nodes that can tell positions. -/
def tellsPositions : Query R → Bool
  | .leaf (.term _) | .modify .alwaysMatch _ | .require .. => true
  | .join .synonym _ | .join (.orderedWindow _) _ | .join (.unorderedWindow _) _
  | .join (.prox _) _ => true
  | _ => false

end Query

variable {R : Type}

/-- What a modifier that is asked for `need` asks of its child. -/
def Modifier.childNeed (need : Need) : Modifier R → Need
  | .alwaysMatch => need
  | .weight _ => .scores
  | .scorer .. | .countToScore | .countToBool _ => .counts
  | .boolToScore .. => .docs

/-- What an operator that is asked for `need` asks of its children. -/
def Operator.childNeed (need : Need) : Operator R → Need
  | .and | .or => .docs
  | .multi _ | .synonym => need
  | .max => if need = .counts then .counts else .scores
  | .combine _ | .mult => .scores
  | .smallerCount | .windowCeiling _ => .counts
  | .orderedWindow _ | .unorderedWindow _ | .prox _ => .positions

/-- What an operator is called where it has too few children; `none` if any number will do. -/
def Operator.wantsTwo : Operator R → Option String
  | .smallerCount | .windowCeiling _ => some "count summary"
  | .orderedWindow _ | .unorderedWindow _ | .prox _ => some "window"
  | _ => none

namespace Query

variable [Scalar R]

/-- Fails if a node cannot give what it is asked for. -/
def checkNeed (need : Need) (q : Query R) : Except Fault Unit :=
  if (need = .counts ∨ need = .positions) ∧ q.onlyScores then
    .error (.scoresOnly q.display need.text)
  else if need = .positions ∧ !q.tellsPositions then
    .error (.noPositionsIn q.display)
  else if need = .scores ∧ q.onlyCounts then
    .error (.notScorable q.display)
  else .ok ()

/-- Fails if an operator has too few children. -/
def checkArity (op : Operator R) (cs : List (Query R)) : Except Fault Unit :=
  match op.wantsTwo with
  | some what =>
    if cs.length < 2 then .error (.tooFewChildren what (display (.join op cs))) else .ok ()
  | none => .ok ()

mutual

/-- Marks every term with what its own ancestors ask of it. -/
def mark (need : Need) : Query R → Except Fault (Query R)
  | .leaf l => do
    checkNeed need (.leaf l)
    match l with
    | .term t => return .leaf (.term { t with needed := max t.needed need })
    | l => return .leaf l
  | .modify m c => do
    checkNeed need (.modify m c)
    return .modify m (← mark (m.childNeed need) c)
  | .join op cs => do
    checkNeed need (.join op cs)
    checkArity op cs
    return .join op (← markAll (op.childNeed need) cs)
  | .require c v => do
    checkNeed need (.require c v)
    let c ← mark .docs c
    return .require c (← mark need v)

def markAll (need : Need) : List (Query R) → Except Fault (List (Query R))
  | [] => .ok []
  | c :: cs => do
    let c ← mark need c
    return c :: (← markAll need cs)

end

/-- The most that is asked of a term with this text and field. -/
def mostNeeded (terms : List Term) (t : Term) : Need :=
  ((terms.filter fun s => s.text = t.text ∧ s.field = t.field).map Term.needed).foldl max .docs

/-- Marks every term with what the root and all nodes above its occurrences ask of it. -/
def infer (root : Need) (q : Query R) : Except Fault (Query R) := do
  let q ← q.mark root
  let terms := q.terms
  return q.mapTerms fun t => { t with needed := mostNeeded terms t }

end Query

end Retrieval
