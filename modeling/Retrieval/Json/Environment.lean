import Retrieval.Json.Query
import Retrieval.Json.Writer
import Retrieval.Environment

/-!
# Environments as JSON

An environment is an object with one entry for each setting. Settings that are left out keep their
usual values, and entries for other things do not count.
-/

namespace Retrieval.Environment

/-- The keys of the settings, in the order in which they are written. -/
def keys : List String :=
  ["default_field", "default_stats_field", "dirichlet_mu", "bm25_b", "bm25_k",
   "absolute_discounting_delta", "optimize_movement", "share_iterators",
   "max_rewrite_iterations"]

/-- The settings of an environment, in the order of their keys. -/
def values (e : Environment Float) : List Json :=
  [.string e.defaultField, Json.ofOption .string e.defaultStatsField, .real e.dirichletMu,
   .real e.bm25B, .real e.bm25K, .real e.absoluteDiscountingDelta, .bool e.simplifyCandidates,
   .bool e.shareCursors, .natural e.maxPasses]

def toJson (e : Environment Float) : Json := .object (keys.zip e.values)

/-- The environment that a JSON value describes, whether its settings are in range or not. -/
def ofJson? (j : Json) : Option (Environment Float) := do
  let u := usual
  match ← j.record? keys true with
  | [field, statsField, mu, b, k, delta, optimize, share, passes] =>
    return {
      defaultField := ← Json.withDefault? u.defaultField Json.string? field
      defaultStatsField := ← Json.optional? Json.string? statsField
      dirichletMu := ← Json.withDefault? u.dirichletMu Json.real? mu
      bm25B := ← Json.withDefault? u.bm25B Json.real? b
      bm25K := ← Json.withDefault? u.bm25K Json.real? k
      absoluteDiscountingDelta :=
        ← Json.withDefault? u.absoluteDiscountingDelta Json.real? delta
      simplifyCandidates := ← Json.withDefault? u.simplifyCandidates Json.bool? optimize
      shareCursors := ← Json.withDefault? u.shareCursors Json.bool? share
      maxPasses := ← Json.withDefault? u.maxPasses Json.word64? passes }
  | _ => none

/-- An environment as text, one setting to a line. -/
def write (e : Environment Float) : String := e.toJson.pretty Decimal.signedExponent

/-- The environment that a text describes, with its settings in range. -/
def read (text : String) : Except Fault (Environment Float) :=
  match (Json.read? text).bind ofJson? with
  | some e => e.valid
  | none => .error .json

end Retrieval.Environment
