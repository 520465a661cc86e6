import Retrieval.Query.Fields
import Retrieval.Collection
import Retrieval.Scalar.Binary64

/-!
# Environments

An environment holds the defaults that a query may leave open: fields, the parameters of the models,
and how queries are run. `Query.bind` fills them in, and `Query.attachStatistics` gives the bound
query the statistics of a collection.
-/

namespace Retrieval

/-- Defaults and switches for the queries against a collection. -/
structure Environment (R : Type) where
  /-- The field of terms and lengths that name none. -/
  defaultField : String
  /-- Where terms draw statistics from that name no field for it; `none` is their own field. -/
  defaultStatsField : Option String
  dirichletMu : R
  bm25B : R
  bm25K : R
  absoluteDiscountingDelta : R
  /-- Whether candidate queries are simplified. -/
  simplifyCandidates : Bool
  /-- Whether equal terms of a query share one cursor. -/
  shareCursors : Bool
  /-- How many passes may change a query before it is given up. -/
  maxPasses : Nat
  deriving Repr

namespace Environment

/-- The settings where nothing else is said. -/
def usual : Environment Float where
  defaultField := "body"
  defaultStatsField := none
  dirichletMu := 1500
  bm25B := 0.75
  bm25K := 1.2
  absoluteDiscountingDelta := 0.7
  simplifyCandidates := true
  shareCursors := true
  maxPasses := 1000

variable {R : Type} [Scalar R]

instance : BEq (Environment R) where
  beq e f :=
    e.defaultField == f.defaultField && e.defaultStatsField == f.defaultStatsField &&
    e.dirichletMu == f.dirichletMu && e.bm25B == f.bm25B && e.bm25K == f.bm25K &&
    e.absoluteDiscountingDelta == f.absoluteDiscountingDelta &&
    e.simplifyCandidates == f.simplifyCandidates && e.shareCursors == f.shareCursors &&
    e.maxPasses == f.maxPasses

/-- Whether a scalar lies between zero and one. -/
def isUnit (x : R) : Bool := Scalar.le Scalar.zero x && Scalar.le x Scalar.one

/-- Fails on the first setting that is out of range. -/
def validate (e : Environment R) : Except Fault Unit :=
  if e.defaultField.isEmpty then .error .noDefaultField
  else if !(Scalar.isFinite e.dirichletMu && Scalar.lt Scalar.zero e.dirichletMu) then
    .error (.notPositive "dirichlet_mu" (Scalar.text e.dirichletMu))
  else if !isUnit e.bm25B then .error (.notUnit "bm25_b" (Scalar.text e.bm25B))
  else if !(Scalar.isFinite e.bm25K && Scalar.le Scalar.zero e.bm25K) then
    .error (.belowZero "bm25_k" (Scalar.text e.bm25K))
  else if !isUnit e.absoluteDiscountingDelta then
    .error (.notUnit "absolute_discounting_delta" (Scalar.text e.absoluteDiscountingDelta))
  else if e.maxPasses = 0 then .error .noPasses
  else .ok ()

/-- The environment itself, if all its settings are in range. -/
def valid (e : Environment R) : Except Fault (Environment R) := do
  e.validate
  return e

end Environment

variable {R : Type}

/-! ## Binding -/

namespace Environment

/-- Names the field of document lengths. -/
def fillLengths (e : Environment R) (l : Lengths) : Lengths :=
  { l with field := some (l.field.getD e.defaultField) }

def fillTerm (e : Environment R) (t : Term) : Term :=
  { t with
    field := some (t.field.getD e.defaultField)
    statsField := t.statsField.or e.defaultStatsField }

/-- Finds the documents of a whitelist that lists only names. -/
def fillWhitelist (c : Collection) (w : Whitelist) : Except Fault Whitelist :=
  match w.ids, w.names with
  | some _, _ => .ok w
  | none, some names => .ok { w with ids := some (c.lookup names) }
  | none, none => .error .emptyWhitelist

def fillLeaf (e : Environment R) (c : Collection) : Leaf R → Except Fault (Leaf R)
  | .term t => .ok (.term (e.fillTerm t))
  | .lengths l => .ok (.lengths (e.fillLengths l))
  | .constCount n l => .ok (.constCount n (e.fillLengths l))
  | .whitelist w => return .whitelist (← fillWhitelist c w)
  | .raw q => if (Text.trim q.toList).isEmpty then .error .emptyRaw else .ok (.raw q)
  | l => .ok l

/-- Sets the parameters that a model leaves open. -/
def fillModel (e : Environment R) : Model R → Model R
  | .dirichlet mu => .dirichlet (some (mu.getD e.dirichletMu))
  | .absoluteDiscounting delta =>
    .absoluteDiscounting (some (delta.getD e.absoluteDiscountingDelta))
  | .bm25 b k => .bm25 (some (b.getD e.bm25B)) (some (k.getD e.bm25K))

def fillModifier (e : Environment R) : Modifier R → Modifier R
  | .scorer m stats => .scorer (e.fillModel m) stats
  | m => m

end Environment

/-- Fills the defaults of an environment into every node that leaves something open. -/
def Query.bind (e : Environment R) (c : Collection) : Query R → Except Fault (Query R) :=
  rebuild (e.fillLeaf c) fun m _ => .ok (e.fillModifier m)

/-! ## Statistics -/

namespace Collection

/-- The statistics of a field that has to exist. -/
def knownField (c : Collection) (field : String) : Except Fault Statistics :=
  match c.fieldStatistics? field with
  | some s => .ok s
  | none => .error (.unknownField field)

def attachTerm (c : Collection) (t : Term) : Except Fault Term :=
  match t.stats with
  | some _ => .ok t
  | none => do
    let field ← t.statisticsField
    discard (c.knownField field)
    return { t with stats := some (c.termStatistics t.text field) }

def attachLengths (c : Collection) (l : Lengths) : Except Fault Lengths := do
  let field ← match l.field with
    | some f => .ok f
    | none => .error .lengthsWithoutField
  match l.stats with
  | some _ => return l
  | none => return { l with stats := some (← c.knownField field) }

def attachLeaf (c : Collection) : Leaf R → Except Fault (Leaf R)
  | .term t => return .term (← c.attachTerm t)
  | .lengths l => return .lengths (← c.attachLengths l)
  | .constCount n l => return .constCount n (← c.attachLengths l)
  | l => .ok l

end Collection

/-- The statistics of a query that is a single term. -/
def Query.termStatistics? : Query R → Option Statistics
  | .leaf (.term t) => t.stats
  | _ => none

/-- A scorer right over a term takes that term's statistics, unless it has its own. -/
def Modifier.attach (m : Modifier R) (child : Query R) : Modifier R :=
  match m with
  | .scorer model stats => .scorer model (stats.or child.termStatistics?)
  | m => m

/-- Gives statistics to the leaves that lack them and to the scorers right over a term. -/
def Query.attachStatistics (c : Collection) : Query R → Except Fault (Query R) :=
  rebuild c.attachLeaf fun m child => .ok (m.attach child)

end Retrieval
