/-!
# Faults

Every operation that can fail does so with a `Fault`, which says at which stage the fault lies.
Faults of preparation end a query before any document is looked at. The wording of each fault stands
here once, in a function named for its cause.
-/

namespace Retrieval

/-- A fault, by the stage it belongs to. -/
inductive Fault where
  /-- A node is asked for something that its kind cannot give. -/
  | typeCheck (message : String)
  /-- An expression has the wrong shape, or refers to something that is not there. -/
  | structure (message : String)
  /-- A score has no finite value. -/
  | evaluation (message expression : String) (doc : Nat)
  /-- A node is used against the rules of its data needs. -/
  | contract (message : String)
  /-- The index cannot answer. -/
  | index (message : String)
  /-- A sum of counts is too large for a count, where that ends a call. -/
  | overflow
  /-- A setting is out of range. -/
  | config (message : String)
  /-- A text is not the JSON form of what it should describe. -/
  | json
  /-- A file cannot be read. -/
  | io
  deriving Repr, DecidableEq

namespace Fault

/-- The name of the stage. -/
def kind : Fault → String
  | typeCheck _ => "TypeCheck"
  | .structure _ => "Structure"
  | evaluation .. => "Evaluation"
  | contract _ => "Contract"
  | index _ => "Index"
  | overflow => "Panic"
  | config _ => "Config"
  | json => "Json"
  | io => "Io"

/-- The full text of a fault. -/
def message : Fault → String
  | typeCheck m => s!"Type check error: {m}"
  | .structure m => s!"Structure error: {m}"
  | evaluation m e d => s!"Evaluation error at doc={d}: {m} in {e}"
  | contract m => s!"Contract violation: {m}"
  | index m => s!"Index error: {m}"
  | overflow => "attempt to add with overflow"
  | config m => s!"Config error: {m}"
  | json => "JSON error"
  | io => "I/O error"

/-- Faults found while a query is prepared. -/
def isOfPreparation : Fault → Bool
  | typeCheck _ | .structure _ | config _ => true
  | _ => false

/-! ## Type faults -/

def scoresOnly (expression need : String) : Fault :=
  typeCheck s!"{expression} only produces scores but {need} were requested"

def noPositionsIn (expression : String) : Fault :=
  typeCheck s!"{expression} cannot provide positions"

def notScorable (expression : String) : Fault :=
  typeCheck (s!"cannot convert {expression} to a score; " ++
    "wrap it in a scorer such as dirichlet or bm25")

def tooFewChildren (what expression : String) : Fault :=
  typeCheck s!"need more than 1 child for a {what} expression, e.g. {expression}"

/-! ## Faults of structure -/

def noField (term : String) : Fault := .structure s!"no field for term '{term}'"

def noStatsField (term : String) : Fault := .structure s!"no stats field for term '{term}'"

def severalFields (expression : String) : Fault :=
  .structure s!"cannot determine a single field for {expression}"

def unevenCombine (children weights : Nat) : Fault :=
  .structure s!"combine has {children} children but {weights} weights"

def unevenWeights (expression : String) (children weights : Nat) : Fault :=
  .structure s!"{expression} has {children} children but {weights} weights"

def notConverged (passes : Nat) (expression : String) : Fault :=
  .structure s!"rewriting did not converge within {passes} passes: {expression}"

def emptyRaw : Fault := .structure "raw query must not be empty"

def emptyWhitelist : Fault :=
  .structure "whitelist must have either document names or ids"

def unresolvedWhitelist : Fault := .structure "whitelist was not resolved to document ids"

def unknownField (field : String) : Fault :=
  .structure s!"field '{field}' does not exist in the index"

def lengthsWithoutField : Fault := .structure "lengths without a field"

def noStats (expression : String) : Fault :=
  .structure s!"no collection statistics for {expression}; attach statistics before compiling"

def unsetParameter (parameter expression : String) : Fault :=
  .structure
    s!"{parameter} of {expression} is unset; bind the expression to an environment first"

def unevenNames (names children : Nat) : Fault :=
  .structure (s!"multi expression needs one name per child, " ++
    s!"got {names} names for {children} children")

def notMulti (kind : String) : Fault :=
  .structure s!"feature extraction needs a multi expression, got {kind}"

def cannotMove (kind expression : String) : Fault :=
  .structure s!"{kind} cannot drive candidate movement: {expression}"

/-! ## Faults of evaluation -/

def diverged (score expression : String) (doc : Nat) : Fault :=
  evaluation s!"score diverged to {score}" expression doc

/-! ## Contract faults -/

def noPositions (name : String) : Fault := contract s!"{name} has no positions"

def uncounted (name : String) : Fault :=
  contract s!"count() called on score-only node {name}"

def unscored (name : String) : Fault :=
  contract s!"score() called on count-only node {name}; wrap it in a scorer"

def bareTerm (label : String) : Fault :=
  contract s!"cannot score bare term {label}; wrap it in a scorer"

def openedTooLow (what label need : String) : Fault :=
  contract s!"{what} of {label} requested but it was opened at {need}"

def postingsTooLow (need : String) : Fault :=
  contract s!"positions requested from postings opened at {need}"

def cannotOpen (field term need : String) : Fault :=
  contract s!"postings for {field}:{term} cannot be opened at {need}"

def outOfOrder (doc current : Nat) : Fault :=
  contract s!"documents must be visited in order: {doc} after {current}"

/-! ## Index faults -/

def notFieldAndTerm (quoted : String) : Fault :=
  index s!"expected field:term, got raw query {quoted}"

def outOfSegment (doc docs : Nat) : Fault :=
  index s!"doc {doc} out of range for segment of {docs} docs"

def outOfIndex (doc : Nat) : Fault := index s!"document {doc} is not in the index"

/-! ## Faulty settings -/

def noDefaultField : Fault := config "default_field must not be empty"

def notPositive (setting value : String) : Fault :=
  config s!"{setting} must be positive, got {value}"

def notUnit (setting value : String) : Fault :=
  config s!"{setting} must be in [0, 1], got {value}"

def belowZero (setting value : String) : Fault :=
  config s!"{setting} must be non-negative, got {value}"

def noPasses : Fault := config "max_rewrite_iterations must be positive"

end Fault

end Retrieval
