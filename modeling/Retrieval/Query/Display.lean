import Retrieval.Query.Basic
import Retrieval.Text.Quoted

/-!
# Queries as text

The written form of a query, `#kind:parameters(children)`, which names it in explanations and in the
texts of errors.
-/

namespace Retrieval

variable {R : Type}

def Leaf.kind : Leaf R → String
  | .term _ => "text"
  | .lengths _ => "lengths"
  | .constScore _ => "const-score"
  | .constCount .. => "const-count"
  | .constBool _ => "const-bool"
  | .whitelist _ => "whitelist"
  | .always => "always"
  | .never => "never"
  | .raw _ => "raw"

def Model.kind : Model R → String
  | .dirichlet _ => "dirichlet"
  | .absoluteDiscounting _ => "absdisc"
  | .bm25 .. => "bm25"

def Modifier.kind : Modifier R → String
  | .alwaysMatch => "always-match"
  | .weight _ => "weight"
  | .scorer m _ => m.kind
  | .countToScore => "count-to-score"
  | .boolToScore .. => "bool-to-score"
  | .countToBool _ => "count-to-bool"

def Operator.kind : Operator R → String
  | .combine _ => "combine"
  | .and => "band"
  | .or => "bor"
  | .max => "max"
  | .mult => "mult"
  | .synonym => "syn"
  | .orderedWindow _ => "od"
  | .unorderedWindow _ => "uw"
  | .prox _ => "prox"
  | .smallerCount => "smaller-count"
  | .windowCeiling _ => "uw-ceiling"
  | .multi _ => "multi"

/-- The short name of a node. -/
def Query.kind : Query R → String
  | .leaf l => l.kind
  | .modify m _ => m.kind
  | .join op _ => op.kind
  | .require .. => "require"

variable [Scalar R]

/-- A parameter, if it is set. -/
def parameterText (name : String) : Option R → String
  | some x => s!":{name}={Scalar.text x}"
  | none => ""

def Leaf.display : Leaf R → String
  | .term t => match t.field with
    | some field => s!"{field}:{t.text}"
    | none => t.text
  | .lengths l => "#lengths(" ++ l.field.getD "?" ++ ")"
  | .constScore x => s!"#const({Scalar.text x})"
  | .constCount n _ => s!"#const-count({n})"
  | .constBool b => if b then "#const(true)" else "#const(false)"
  | .whitelist w =>
    let n := ((w.ids.map List.length).or (w.names.map List.length)).getD 0
    s!"#whitelist(n={n})"
  | .always => "#always"
  | .never => "#never"
  | .raw q => s!"#raw({Text.quoted q})"

def Model.parameters : Model R → String
  | .dirichlet mu => parameterText "mu" mu
  | .absoluteDiscounting delta => parameterText "delta" delta
  | .bm25 b k => parameterText "b" b ++ parameterText "k" k

def Modifier.parameters : Modifier R → String
  | .weight w => s!":w={Scalar.text w}"
  | .scorer m _ => m.parameters
  | .countToBool gt => s!":gt={gt}"
  | _ => ""

def Operator.parameters : Operator R → String
  | .combine weights => ":w=" ++ ",".intercalate (weights.map Scalar.text)
  | .orderedWindow n | .unorderedWindow n | .prox n | .windowCeiling n => s!":{n}"
  | _ => ""

/-- The children's texts; those of a multi query carry their names. -/
def Operator.label : Operator R → List String → List String
  | .multi names, texts => List.zipWith (fun name e => s!"{name}={e}") names texts
  | _, texts => texts

/-- A node's kind and parameters around the texts of its children. -/
def enclose (kind parameters : String) (children : List String) : String :=
  s!"#{kind}{parameters}(" ++ " ".intercalate children ++ ")"

namespace Query

mutual

/-- The written form of a query. -/
def display : Query R → String
  | .leaf l => l.display
  | .modify m c => enclose m.kind m.parameters [display c]
  | .join op cs => enclose op.kind op.parameters (op.label (displayAll cs))
  | .require c v => enclose "require" "" [display c, display v]

def displayAll : List (Query R) → List String
  | [] => []
  | c :: cs => display c :: displayAll cs

end

end Query

end Retrieval
