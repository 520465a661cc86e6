import Retrieval.Json.Reader
import Retrieval.Query.Basic

/-!
# Queries as JSON

Every kind of node has a tag. A node without parts is its tag alone; any other is an object with the
tag as its only key and the parts below it. `Query.toJson` writes that form and `Query.ofJson?`
reads it.
-/

namespace Retrieval

namespace Json

def ofOption {α : Type} (write : α → Json) : Option α → Json
  | some x => write x
  | none => .null

def ofList {α : Type} (write : α → Json) (xs : List α) : Json := .array (xs.map write)

/-- An object with one entry. -/
def tagged (tag : String) (body : Json) : Json := .object [(tag, body)]

end Json

open Json (ofOption ofList tagged)

/-! ## Statistics and needs -/

def Statistics.toJson (s : Statistics) : Json :=
  .object [("source", .string s.source), ("cf", .natural s.cf), ("df", .natural s.df),
    ("cl", .natural s.cl), ("dc", .natural s.dc)]

def Statistics.ofJson? (j : Json) : Option Statistics := do
  match ← j.record? ["source", "cf", "df", "cl", "dc"] false with
  | [source, cf, df, cl, dc] =>
    let word := Json.needed? Json.word64?
    return ⟨← Json.needed? Json.string? source, ← word cf, ← word df, ← word cl, ← word dc⟩
  | _ => none

/-- The tag of a need. -/
def Need.tag : Need → String
  | .docs => "Docs"
  | .counts => "Counts"
  | .positions => "Positions"
  | .scores => "Scores"

def Need.ofTag? (tag : String) : Option Need :=
  [Need.docs, .counts, .positions, .scores].find? (·.tag = tag)

/-- A tag without parts, alone or as the key of an empty entry. -/
def Json.tag? : Json → Option String
  | .string tag => some tag
  | .object [(tag, .null)] => some tag
  | _ => none

/-! ## Writing -/

def Lengths.toJson (l : Lengths) : Json :=
  .object [("field", ofOption .string l.field), ("stats", ofOption Statistics.toJson l.stats)]

def Term.toJson (t : Term) : Json :=
  .object [("text", .string t.text), ("field", ofOption .string t.field),
    ("stats_field", ofOption .string t.statsField), ("stats", ofOption Statistics.toJson t.stats),
    ("needed", .string t.needed.tag)]

def Whitelist.toJson (w : Whitelist) : Json :=
  .object [("names", ofOption (ofList .string) w.names), ("ids", ofOption (ofList .natural) w.ids)]

def Leaf.toJson : Leaf Float → Json
  | .term t => tagged "Text" t.toJson
  | .lengths l => tagged "Lengths" l.toJson
  | .constScore x => tagged "ConstScore" (.real x)
  | .constCount n l =>
    tagged "ConstCount" (.object [("count", .natural n), ("lengths", l.toJson)])
  | .constBool b => tagged "ConstBool" (.bool b)
  | .whitelist w => tagged "Whitelist" w.toJson
  | .always => .string "AlwaysMatchLeaf"
  | .never => .string "NeverMatchLeaf"
  | .raw q => tagged "RawQuery" (.string q)

/-- A scorer with its parameters, child and statistics. -/
def Model.toJson (m : Model Float) (stats : Option Statistics) (child : Json) : Json :=
  let write (tag : String) (parameters : List (String × Option Float)) :=
    tagged tag (.object (("child", child) :: (parameters.map fun p => (p.1, ofOption .real p.2)) ++
      [("stats", ofOption Statistics.toJson stats)]))
  match m with
  | .dirichlet mu => write "DirQL" [("mu", mu)]
  | .absoluteDiscounting delta => write "AbsoluteDiscountingQL" [("delta", delta)]
  | .bm25 b k => write "BM25" [("b", b), ("k", k)]

def Modifier.toJson (child : Json) : Modifier Float → Json
  | .alwaysMatch => tagged "AlwaysMatch" child
  | .weight w => tagged "Weight" (.object [("child", child), ("weight", .real w)])
  | .scorer m stats => m.toJson stats child
  | .countToScore => tagged "CountToScore" child
  | .boolToScore t f =>
    tagged "BoolToScore"
      (.object [("child", child), ("true_score", .real t), ("false_score", .real f)])
  | .countToBool gt => tagged "CountToBool" (.object [("child", child), ("gt", .natural gt)])

def Operator.toJson (children : List Json) : Operator Float → Json
  | .combine ws =>
    tagged "Combine" (.object [("children", .array children), ("weights", ofList .real ws)])
  | .and => tagged "And" (.array children)
  | .or => tagged "Or" (.array children)
  | .max => tagged "Max" (.array children)
  | .mult => tagged "Mult" (.array children)
  | .synonym => tagged "Synonym" (.array children)
  | .orderedWindow n => sized "OrderedWindow" "step" n
  | .unorderedWindow n => sized "UnorderedWindow" "width" n
  | .prox n => sized "Prox" "width" n
  | .smallerCount => tagged "SmallerCount" (.array children)
  | .windowCeiling n => sized "UnorderedWindowCeiling" "width" n
  | .multi names =>
    tagged "Multi" (.array (List.zipWith (fun name j => .array [.string name, j]) names children))
where
  sized (tag key : String) (n : Nat) : Json :=
    tagged tag (.object [("children", .array children), (key, .natural n)])

namespace Query

mutual

/-- The JSON form of a query. -/
def toJson : Query Float → Json
  | .leaf l => l.toJson
  | .modify m c => m.toJson (toJson c)
  | .join op cs => op.toJson (toJsonAll cs)
  | .require c v => tagged "Require" (.object [("cond", toJson c), ("value", toJson v)])

def toJsonAll : List (Query Float) → List Json
  | [] => []
  | c :: cs => toJson c :: toJsonAll cs

end

end Query

/-! ## Reading -/

def Lengths.ofJson? (j : Json) : Option Lengths := do
  match ← j.record? ["field", "stats"] false with
  | [field, stats] =>
    return ⟨← Json.optional? Json.string? field, ← Json.optional? Statistics.ofJson? stats⟩
  | _ => none

def Term.ofJson? (j : Json) : Option Term := do
  match ← j.record? ["text", "field", "stats_field", "stats", "needed"] false with
  | [text, field, statsField, stats, needed] =>
    let tag ← (← needed).tag?
    return {
      text := ← Json.needed? Json.string? text
      field := ← Json.optional? Json.string? field
      statsField := ← Json.optional? Json.string? statsField
      stats := ← Json.optional? Statistics.ofJson? stats
      needed := ← Need.ofTag? tag }
  | _ => none

def Whitelist.ofJson? (j : Json) : Option Whitelist := do
  match ← j.record? ["names", "ids"] false with
  | [names, ids] =>
    return ⟨← Json.optional? (Json.listOf? Json.string?) names,
      ← Json.optional? (Json.listOf? Json.word32?) ids⟩
  | _ => none

def Leaf.ofJson? (tag : String) (body : Json) : Option (Leaf Float) :=
  match tag with
  | "Text" => (Term.ofJson? body).map .term
  | "Lengths" => (Lengths.ofJson? body).map .lengths
  | "ConstScore" => body.real?.map .constScore
  | "ConstCount" => do
    match ← body.record? ["count", "lengths"] false with
    | [count, l] =>
      return .constCount (← Json.needed? Json.word32? count) (← Json.needed? Lengths.ofJson? l)
    | _ => none
  | "ConstBool" => body.bool?.map .constBool
  | "Whitelist" => (Whitelist.ofJson? body).map .whitelist
  | "RawQuery" => body.string?.map .raw
  | _ => none

namespace Query

/-- The parts of a scorer: its child, its parameters and its statistics. -/
def scorerOfJson? (read : Json → Option (Query Float)) (parameters : List String)
    (model : List (Option Float) → Option (Model Float)) (body : Json) :
    Option (Query Float) := do
  match ← body.record? ("child" :: parameters ++ ["stats"]) false with
  | child :: rest =>
    let child ← Json.needed? read child
    let values ← rest.dropLast.mapM (Json.optional? Json.real?)
    let stats ← Json.optional? Statistics.ofJson? (← rest.getLast?)
    return .modify (.scorer (← model values) stats) child
  | _ => none

/-- A list of children and a size. -/
def sizedOfJson? (read : Json → Option (Query Float)) (key : String)
    (op : Nat → Operator Float) (body : Json) : Option (Query Float) := do
  match ← body.record? ["children", key] false with
  | [children, n] =>
    let children ← Json.needed? (Json.listOf? read) children
    return .join (op (← Json.needed? Json.word32? n)) children
  | _ => none

/-- A query with children; `read` reads those. -/
def nodeOfJson? (read : Json → Option (Query Float)) (tag : String) (body : Json) :
    Option (Query Float) :=
  let joined (op : Operator Float) := (Json.listOf? read body).map (.join op)
  match tag with
  | "AlwaysMatch" => (read body).map (.modify .alwaysMatch)
  | "CountToScore" => (read body).map (.modify .countToScore)
  | "Weight" => do
    match ← body.record? ["child", "weight"] false with
    | [child, w] =>
      return .modify (.weight (← Json.needed? Json.real? w)) (← Json.needed? read child)
    | _ => none
  | "DirQL" => scorerOfJson? read ["mu"] (fun
    | [mu] => some (.dirichlet mu)
    | _ => none) body
  | "AbsoluteDiscountingQL" => scorerOfJson? read ["delta"] (fun
    | [delta] => some (.absoluteDiscounting delta)
    | _ => none) body
  | "BM25" => scorerOfJson? read ["b", "k"] (fun
    | [b, k] => some (.bm25 b k)
    | _ => none) body
  | "BoolToScore" => do
    match ← body.record? ["child", "true_score", "false_score"] false with
    | [child, t, f] =>
      return .modify (.boolToScore (← Json.needed? Json.real? t) (← Json.needed? Json.real? f))
        (← Json.needed? read child)
    | _ => none
  | "CountToBool" => do
    match ← body.record? ["child", "gt"] false with
    | [child, gt] =>
      return .modify (.countToBool (← Json.needed? Json.word32? gt)) (← Json.needed? read child)
    | _ => none
  | "Combine" => do
    match ← body.record? ["children", "weights"] false with
    | [children, ws] =>
      return .join (.combine (← Json.needed? (Json.listOf? Json.real?) ws))
        (← Json.needed? (Json.listOf? read) children)
    | _ => none
  | "And" => joined .and
  | "Or" => joined .or
  | "Max" => joined .max
  | "Mult" => joined .mult
  | "Synonym" => joined .synonym
  | "SmallerCount" => joined .smallerCount
  | "OrderedWindow" => sizedOfJson? read "step" .orderedWindow body
  | "UnorderedWindow" => sizedOfJson? read "width" .unorderedWindow body
  | "Prox" => sizedOfJson? read "width" .prox body
  | "UnorderedWindowCeiling" => sizedOfJson? read "width" .windowCeiling body
  | "Multi" => do
    let named ← (← body.array?).mapM fun
      | .array [name, q] => do return (← name.string?, ← read q)
      | _ => none
    return .join (.multi (named.map (·.1))) (named.map (·.2))
  | "Require" => do
    match ← body.record? ["cond", "value"] false with
    | [c, v] => return .require (← Json.needed? read c) (← Json.needed? read v)
    | _ => none
  | _ => (Leaf.ofJson? tag body).map .leaf

/-- Reads a query that is nested less than `depth` deep. -/
def ofJsonWithin? : (depth : Nat) → Json → Option (Query Float)
  | 0, _ => none
  | depth + 1, j =>
    match j.tag? with
    | some "AlwaysMatchLeaf" => some always
    | some "NeverMatchLeaf" => some never
    | _ =>
      match j with
      | .object [(tag, body)] => nodeOfJson? (ofJsonWithin? depth) tag body
      | _ => none

/-- The query that a JSON value describes. Every level of a query opens a container, so that what
the reader of JSON accepts is never nested too deep. -/
def ofJson? (j : Json) : Option (Query Float) := ofJsonWithin? (Json.maxDepth + 2) j

end Query

end Retrieval
