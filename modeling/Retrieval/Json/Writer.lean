import Retrieval.Json.Basic
import Retrieval.Decimal.Layout

/-!
# Writing JSON

`Json.compact` writes a value without spaces, `Json.pretty` with one entry to a line. Both take the
layout of the numbers that are not whole. A number that is not finite is written as null.
-/

namespace Retrieval.Json

def hexDigit (n : Nat) : Char := (Nat.toDigits 16 (n % 16)).headD '0'

/-- A character inside a string. -/
def escape (c : Char) : List Char :=
  match c with
  | '"' => ['\\', '"']
  | '\\' => ['\\', '\\']
  | '\x08' => ['\\', 'b']
  | '\x0c' => ['\\', 'f']
  | '\n' => ['\\', 'n']
  | '\r' => ['\\', 'r']
  | '\t' => ['\\', 't']
  | c =>
    if c.toNat < 0x20 then ['\\', 'u', '0', '0', hexDigit (c.toNat / 16), hexDigit c.toNat]
    else [c]

def quote (s : String) : String :=
  String.ofList ('"' :: s.toList.flatMap escape ++ ['"'])

def writeReal (layout : Decimal.Layout) (x : Float) : String :=
  if x.isFinite then layout.write x else "null"

/-- A value that holds no others. -/
def writeAtom (layout : Decimal.Layout) : Json → String
  | .bool b => if b then "true" else "false"
  | .natural n => toString n
  | .negative n => "-" ++ toString n
  | .real x => writeReal layout x
  | .string s => quote s
  | _ => "null"

mutual

/-- A value without spaces. -/
def compact (layout : Decimal.Layout) : Json → String
  | .array items => "[" ++ ",".intercalate (compactItems layout items) ++ "]"
  | .object entries => "\x7b" ++ ",".intercalate (compactEntries layout entries) ++ "\x7d"
  | atom => writeAtom layout atom

def compactItems (layout : Decimal.Layout) : List Json → List String
  | [] => []
  | item :: items => compact layout item :: compactItems layout items

def compactEntries (layout : Decimal.Layout) : List (String × Json) → List String
  | [] => []
  | (key, item) :: entries =>
    (quote key ++ ":" ++ compact layout item) :: compactEntries layout entries

end

/-- Lines between brackets, indented by two spaces a level. -/
def block (depth : Nat) (opening closing : String) (lines : List String) : String :=
  if lines.isEmpty then opening ++ closing
  else
    let margin (n : Nat) := "\n" ++ "".pushn ' ' (2 * n)
    opening ++ margin (depth + 1) ++ (("," ++ margin (depth + 1)).intercalate lines) ++
      margin depth ++ closing

mutual

/-- A value spread over lines, inside `depth` others. -/
def prettyAt (layout : Decimal.Layout) (depth : Nat) : Json → String
  | .array items => block depth "[" "]" (prettyItems layout (depth + 1) items)
  | .object entries => block depth "\x7b" "\x7d" (prettyEntries layout (depth + 1) entries)
  | atom => writeAtom layout atom

def prettyItems (layout : Decimal.Layout) (depth : Nat) : List Json → List String
  | [] => []
  | item :: items => prettyAt layout depth item :: prettyItems layout depth items

def prettyEntries (layout : Decimal.Layout) (depth : Nat) : List (String × Json) → List String
  | [] => []
  | (key, item) :: entries =>
    (quote key ++ ": " ++ prettyAt layout depth item) :: prettyEntries layout depth entries

end

/-- A value spread over lines. -/
def pretty (layout : Decimal.Layout) (j : Json) : String := prettyAt layout 0 j

end Retrieval.Json
