import Retrieval.Collection.Postings

/-!
# Walks

A walk goes through a set of documents in rising order. `Walk.next` takes it to the first document
from a target on, and never back; once the set is used up its document is `noMoreDocs`. Conjunctions
leapfrog: each member is taken to the candidate, and one that lands beyond it sets a new candidate.
-/

namespace Retrieval

/-- A walk through a set of documents. -/
inductive Walk where
  | never
  /-- All documents below `size`. -/
  | always (current size : Nat)
  /-- The documents of a rising list, of which there were `cost`. -/
  | list (rest : List Nat) (cost : Nat)
  /-- The documents of a posting list. -/
  | term (postings : Postings)
  /-- The documents that all members have. -/
  | and (current cost : Nat) (members : List Walk)
  /-- The documents that some member has; members that are used up are gone. -/
  | or (cost : Nat) (members : List Walk)
  deriving Repr

namespace Walk

mutual

/-- The current document. -/
def doc : Walk → Nat
  | never => noMoreDocs
  | always current _ => current
  | list rest _ => rest.headD noMoreDocs
  | term p => p.doc
  | and current _ _ => current
  | or _ ms => leastDoc ms

/-- The least of the members' documents. -/
def leastDoc : List Walk → Nat
  | [] => noMoreDocs
  | m :: ms => min (doc m) (leastDoc ms)

end

/-- Whether the set is used up. -/
def isOver (m : Walk) : Bool := m.doc == noMoreDocs

/-- A bound on the number of documents. -/
def estimate : Walk → Nat
  | never => 0
  | always _ size => size
  | list _ cost => cost
  | term p => p.cost
  | and _ cost _ => cost
  | or cost _ => cost

mutual

/-- How deeply walks are nested. -/
def depth : Walk → Nat
  | and _ _ ms | or _ ms => depthAll ms + 1
  | _ => 0

def depthAll : List Walk → Nat
  | [] => 0
  | m :: ms => max (depth m) (depthAll ms)

end

/-! ## Leapfrogging -/

/-- How the members of a conjunction take to a candidate. -/
inductive Verdict (candidate : Nat) where
  /-- All of them are on it. -/
  | agreed
  /-- One of them landed beyond it. -/
  | raised (doc : Nat) (later : candidate < doc ∧ doc < noMoreDocs)
  /-- One of them is used up. -/
  | exhausted

/-- Takes the members to a candidate, up to the first that is not on it. -/
def gatherAt (advance : Nat → Walk → Walk) (candidate : Nat) :
    List Walk → Verdict candidate × List Walk
  | [] => (.agreed, [])
  | m :: ms =>
    let m := advance candidate m
    if used : noMoreDocs ≤ m.doc then (.exhausted, m :: ms)
    else if later : candidate < m.doc then (.raised m.doc ⟨later, by omega⟩, m :: ms)
    else
      let (verdict, ms) := gatherAt advance candidate ms
      (verdict, m :: ms)

/-- Raises the candidate until all members are on it or one is used up. -/
def align (advance : Nat → Walk → Walk) (candidate : Nat) (ms : List Walk) :
    Nat × List Walk :=
  match gatherAt advance candidate ms with
  | (.agreed, ms) => (candidate, ms)
  | (.exhausted, ms) => (noMoreDocs, ms)
  | (.raised doc _, ms) => align advance doc ms
termination_by noMoreDocs - candidate

/-! ## Moving -/

/-- Moves a walk that is nested at most `depth` deep. -/
def nextWithin (depth : Nat) (target : Nat) (m : Walk) : Walk :=
  match m with
  | never => never
  | always current size =>
    if current < target then always (if size ≤ target then noMoreDocs else target) size else m
  | list rest cost => list (rest.dropWhile (· < target)) cost
  | term p => term (p.advance target)
  | and current cost ms =>
    match depth with
    | 0 => m
    | depth + 1 =>
      if current < target ∧ current ≠ noMoreDocs then
        let (current, ms) := align (nextWithin depth) target ms
        and current cost ms
      else m
  | or cost ms =>
    match depth with
    | 0 => m
    | depth + 1 =>
      let moved := ms.map fun m => if m.doc < target then nextWithin depth target m else m
      or cost (moved.filter (!·.isOver))

/-- Moves to the first document from `target` on; never back. -/
def next (target : Nat) (m : Walk) : Walk := m.nextWithin m.depth target

/-! ## Fresh walks -/

def ofSize (size : Nat) : Walk := always (if size = 0 then noMoreDocs else 0) size

def ofList (ids : List Nat) : Walk := list ids ids.length

/-- A conjunction on its first document. Members with few documents lead. -/
def all (members : List Walk) : Walk :=
  let members := members.mergeSort fun a b => a.estimate ≤ b.estimate
  let cost := (members.map estimate).min?.getD 0
  match members with
  | [] => and noMoreDocs cost []
  | _ =>
    let (current, members) := align next 0 members
    and current cost members

/-- A disjunction of members that are on their first documents. -/
def any (members : List Walk) : Walk :=
  or ((members.map estimate).max?.getD 0) (members.filter (!·.isOver))

end Walk

end Retrieval
