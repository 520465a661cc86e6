import Retrieval.Query.Display
import Retrieval.Fault

/-!
# Fields of a query

Which fields the terms of a query read their counts and their statistics from. A scorer is
normalised by the lengths of one field, so `onlyCountedField` fails where the terms name several.
-/

namespace Retrieval

namespace Term

/-- The field that occurrences are looked for in. -/
def countedField (t : Term) : Except Fault String :=
  match t.field with
  | some f => .ok f
  | none => .error (.noField t.text)

/-- The field that statistics are drawn from: the term's own, unless it names another. -/
def statisticsField (t : Term) : Except Fault String :=
  match t.statsField.or t.field with
  | some f => .ok f
  | none => .error (.noStatsField t.text)

end Term

namespace Query

variable {R : Type}

/-- Distinct names in rising order. -/
def nameSet (names : List String) : List String :=
  names.eraseDups.mergeSort fun a b => decide (a ≤ b)

def statisticsFields (q : Query R) : Except Fault (List String) :=
  nameSet <$> q.terms.mapM Term.statisticsField

def countedFields (q : Query R) : Except Fault (List String) :=
  nameSet <$> q.terms.mapM Term.countedField

variable [Scalar R]

/-- The only one of the fields, or `fallback` if there is none. -/
def only (q : Query R) (fallback : String) : List String → Except Fault String
  | [] => .ok fallback
  | [f] => .ok f
  | _ => .error (.severalFields q.display)

/-- The field that all terms draw their statistics from. -/
def onlyStatisticsField (q : Query R) (fallback : String) : Except Fault String := do
  q.only fallback (← q.statisticsFields)

/-- The field that all terms are counted in. -/
def onlyCountedField (q : Query R) (fallback : String) : Except Fault String := do
  q.only fallback (← q.countedFields)

end Query

end Retrieval
