/-!
# JSON values

`Json` keeps what a reader of structured data has to tell apart: whole numbers from others, and
the order in which an object lists its entries. `Json.record` and its kin read a value as a
structure with named fields.
-/

namespace Retrieval

/-- A JSON value. -/
inductive Json where
  | null
  | bool (value : Bool)
  /-- A whole number below `2 ^ 64`. -/
  | natural (value : Nat)
  /-- The whole number `-value`, with `1 ≤ value ≤ 2 ^ 63`. -/
  | negative (value : Nat)
  | real (value : Float)
  | string (value : String)
  | array (items : List Json)
  | object (entries : List (String × Json))
  /-- Well formed, but no value: a number past the largest, or half a surrogate pair. -/
  | void
  deriving Inhabited

namespace Json

def bool? : Json → Option Bool
  | .bool b => some b
  | _ => none

def string? : Json → Option String
  | .string s => some s
  | _ => none

/-- A whole number below `bound`. -/
def natBelow? (bound : Nat) : Json → Option Nat
  | .natural n => if n < bound then some n else none
  | _ => none

/-- A number of 32 bits without sign. -/
def word32? : Json → Option Nat := natBelow? UInt32.size

/-- A number of 64 bits without sign. -/
def word64? : Json → Option Nat := natBelow? UInt64.size

def real? : Json → Option Float
  | .natural n => some n.toUInt64.toFloat
  | .negative n => some (-n.toUInt64.toFloat)
  | .real x => some x
  | _ => none

def array? : Json → Option (List Json)
  | .array items => some items
  | _ => none

/-- An array whose items all read by `read`. -/
def listOf? {α : Type} (read : Json → Option α) (j : Json) : Option (List α) :=
  j.array?.bind (·.mapM read)

/-- A field that must be there. -/
def needed? {α : Type} (read : Json → Option α) : Option Json → Option α
  | some j => read j
  | none => none

/-- A field that may be missing or null. -/
def optional? {α : Type} (read : Json → Option α) : Option Json → Option (Option α)
  | none | some .null => some none
  | some j => (read j).map some

/-- A field that keeps `fallback` when it is missing. -/
def withDefault? {α : Type} (fallback : α) (read : Json → Option α) : Option Json → Option α
  | none => some fallback
  | some j => read j

/-- The entry of an object under `key`; the last one if there are several. -/
def get? (key : String) : Json → Option Json
  | .object entries => entries.reverse.lookup key
  | _ => none

/-- The values of the fields `names`, from an object or, in their order, from an array. An object
may have further entries, but none of these fields twice. An array may be cut short only where
`cut` allows it. -/
def record? (names : List String) (cut : Bool) : Json → Option (List (Option Json))
  | .object entries =>
    let keys := entries.map (·.1)
    if names.any fun n => 1 < keys.count n then none
    else some (names.map fun n => entries.lookup n)
  | .array items =>
    if items.length ≤ names.length && (cut || items.length == names.length) then
      some (items.map some ++ List.replicate (names.length - items.length) none)
    else none
  | _ => none

end Json

end Retrieval
