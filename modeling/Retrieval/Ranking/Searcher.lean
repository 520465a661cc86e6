import Retrieval.Environment
import Retrieval.Candidates.Query
import Retrieval.Query.Typing
import Retrieval.Candidates.Run
import Retrieval.Candidates.Scan
import Retrieval.Ranking.TopHits

/-!
# Searching

A searcher prepares queries against a collection and runs them. Preparation binds a query, attaches
statistics, simplifies it, types it, and measures the statistics of whatever is scored but is not a
single term. The prepared query is then run in every segment: a walk offers candidates, the compiled
query confirms and scores them, and the best are kept.
-/

namespace Retrieval

/-- A query that is ready to run: what scores the candidates, and what finds them. -/
structure Prepared (R : Type) where
  scoring : Query R
  candidates : Query R
  deriving Repr

/-- A collection with the environment of its queries. -/
structure Searcher (R : Type) where
  collection : Collection
  env : Environment R

/-- A ranked document. -/
structure NamedHit (R : Type) where
  doc : Nat
  score : R
  name : Option String
  deriving Repr

/-- What a search found: the best documents, and how many matched. -/
structure Results (R : Type) where
  hits : List (NamedHit R)
  total : Nat
  deriving Repr

variable {R : Type} [Scalar R]

namespace Searcher

/-- A searcher, if the environment is valid. -/
def ofCollection (collection : Collection) (env : Environment R) :
    Except Fault (Searcher R) := do
  return ⟨collection, ← env.valid⟩

/-! ## Running a query in a segment -/

/-- Compiles a query for a segment. -/
def compile (e : Searcher R) (segment : Segment) (q : Query R) : Except Fault (Tree R) :=
  Session.tree segment e.env.defaultField e.env.shareCursors q

/-- The scan of a segment for the documents that match a query. -/
def scan (e : Searcher R) (segment : Segment) (scoring candidates : Query R) :
    Except Fault (Scan R) := do
  let tree ← e.compile segment scoring
  return { walk := ← Walk.ofQuery segment candidates, tree }

/-- Folds over the matching documents of a segment. -/
def foldSegment {σ : Type} (e : Searcher R) (scoring candidates : Query R)
    (visit : σ → Nat → Tree R → Except Fault (σ × Tree R)) (acc : σ) (segment : Segment) :
    Except Fault σ := do
  (← e.scan segment scoring candidates).drain visit acc 0

/-! ## Measuring statistics -/

/-- Adds the count of a document to collection and document frequency. -/
def tally (acc : Nat × Nat) (_doc : Nat) (tree : Tree R) :
    Except Fault ((Nat × Nat) × Tree R) :=
  match tree.count with
  | (.error e, _) => .error e
  | (.ok n, tree) => .ok (if 0 < n then (acc.1 + n, acc.2 + 1) else acc, tree)

/-- The statistics of a query that is counted, over all segments. The segments may be gone through at
once. Which fault is reported if several of them fail is then left open; here it is that of the first.
-/
def measured (e : Searcher R) (q : Query R) : Except Fault Statistics := do
  let field ← q.onlyCountedField e.env.defaultField
  let known ← e.collection.knownField field
  let counts ← e.collection.segments.mapM (e.foldSegment q q.candidates tally (0, 0))
  return ⟨q.display, addUp (counts.map (·.1)), addUp (counts.map (·.2)), known.cl, known.dc⟩

/-- Measures the statistics that a scorer still lacks. -/
def measureModifier (e : Searcher R) (m : Modifier R) (child : Query R) :
    Except Fault (Modifier R) :=
  match m with
  | .scorer model none => return .scorer model (some (← e.measured child))
  | m => .ok m

/-- Measures the statistics of every scorer that lacks them, inner ones first. -/
def measure (e : Searcher R) : Query R → Except Fault (Query R) :=
  Query.rebuild .ok e.measureModifier

/-! ## Preparation -/

/-- Prepares a query whose root is asked for `root`. -/
def prepareFor (e : Searcher R) (root : Need) (q : Query R) : Except Fault (Prepared R) := do
  let bound ← q.bind e.env e.collection
  let known ← bound.attachStatistics e.collection
  let simple ← known.simplify e.env.maxPasses
  let typed ← simple.infer root
  let scoring ← e.measure typed
  let candidates ←
    if e.env.simplifyCandidates then scoring.simpleCandidates e.env.maxPasses
    else .ok scoring.candidates
  return { scoring, candidates }

/-- Prepares a query for ranking. -/
def prepare (e : Searcher R) (q : Query R) : Except Fault (Prepared R) := e.prepareFor .scores q

/-! ## Searching -/

/-- Collects a document of a segment with its score, which has to be finite. -/
def collectHit (scoring : Query R) (base : Nat) (top : TopHits R) (doc : Nat) (tree : Tree R) :
    Except Fault (TopHits R × Tree R) :=
  match tree.score with
  | (.error e, _) => .error e
  | (.ok score, tree) =>
    if Scalar.isFinite score then .ok (top.collect ⟨base + doc, score⟩, tree)
    else .error (.diverged (Scalar.text score) scoring.display (base + doc))

/-- The best documents of one segment. -/
def searchSegment (e : Searcher R) (p : Prepared R) (k : Nat) (segment : Segment) :
    Except Fault (TopHits R) :=
  e.foldSegment p.scoring p.candidates (collectHit p.scoring segment.base) (.empty k) segment

/-- The `k` best documents for a prepared query. As in `measured`, segments may be searched at once,
and the fault of the first that fails stands for that of any. -/
def best (e : Searcher R) (p : Prepared R) (k : Nat) : Except Fault (Results R) := do
  let tops ← e.collection.segments.mapM (e.searchSegment p k)
  let top := tops.foldl TopHits.merge (.empty k)
  return {
    hits := top.hits.map fun h => ⟨h.doc, h.score, e.collection.name? h.doc⟩
    total := top.total }

/-- The `k` best documents for a query. -/
def search (e : Searcher R) (q : Query R) (k : Nat) : Except Fault (Results R) := do
  e.best (← e.prepare q) k

/-- How many documents match a query. Nothing is scored, so terms and windows may be counted. The
fault of the first segment that fails stands for that of any, as in `measured`. -/
def count (e : Searcher R) (q : Query R) : Except Fault Nat := do
  let p ← e.prepareFor .docs q
  let counts ← e.collection.segments.mapM
    (e.foldSegment p.scoring p.candidates (fun n _ tree => .ok (n + 1, tree)) 0)
  return addUp counts

/-! ## Single documents -/

/-- A prepared query compiled for the segment of a document and set on that document. -/
def treeAt (e : Searcher R) (scoring : Query R) (doc : Nat) : Except Fault (Tree R) := do
  let (segment, here) ← e.collection.locate doc
  let tree ← e.compile segment scoring
  tree.moveTo here

/-- How a query scores a document, whether it matches or not. -/
def explain (e : Searcher R) (q : Query R) (doc : Nat) : Except Fault (Explanation R) := do
  let p ← e.prepare q
  (← e.treeAt p.scoring doc).explain.1

/-- The score of every child of a compiled multi query. -/
def featureScores (tree : Tree R) : Except Fault (List (String × R)) :=
  match tree.root with
  | .join (.multi names) cs =>
    (tree.ask fun _ =>
      (names.zip (Plan.behaviours tree.segment cs)).mapM fun p => do
        return (p.1, ← p.2.score)).1
  | _ => .ok []

/-- The scores that a document has under each of several named queries. -/
def features (e : Searcher R) (q : Query R) (doc : Nat) :
    Except Fault (List (String × R)) := do
  let p ← e.prepare q
  match p.scoring with
  | .join (.multi _) _ => featureScores (← e.treeAt p.scoring doc)
  | scoring => .error (.notMulti scoring.kind)

end Searcher

end Retrieval
