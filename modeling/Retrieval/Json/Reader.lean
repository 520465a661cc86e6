import Retrieval.Json.Basic

/-!
# Reading JSON

`Json.read?` reads one value that fills the whole text. Containers may nest up to `maxDepth` levels.
A number without fraction and exponent stays whole while it fits 64 bits. Any other is its leading
digits, as many as fit 64 bits, scaled once by a power of ten, so that its last bit may be off.
-/

namespace Retrieval.Json

/-- The number of containers that may be open at once. -/
def maxDepth : Nat := 127

def isBlank (c : Char) : Bool := c == ' ' || c == '\n' || c == '\t' || c == '\r'

def skipBlanks (cs : List Char) : List Char := cs.dropWhile isBlank

/-- The rest after `word`, if the text starts with it. -/
def expect? (word : List Char) (cs : List Char) : Option (List Char) :=
  if word.isPrefixOf cs then some (cs.drop word.length) else none

/-! ## Numbers -/

def digitValue (c : Char) : Nat := c.toNat - '0'.toNat

/-- Takes digits into `acc` while it stays below `2 ^ 64`; the digits left over are returned. -/
def accumulate (acc : Nat) : List Char → Nat × List Char
  | [] => (acc, [])
  | c :: cs =>
    let next := acc * 10 + digitValue c
    if next < UInt64.size then accumulate next cs else (acc, c :: cs)

/-- `x * 10 ^ e`, by one multiplication or division where the power has a value; `none` past the
largest number. -/
def scale? (x : Float) (e : Int) : Option Float :=
  if e.natAbs ≤ 308 then
    let power := Float.ofScientific 1 false e.natAbs
    let y := if 0 ≤ e then x * power else x / power
    if y.isInf then none else some y
  else if x == 0 then some x
  else if 0 ≤ e then none
  else scale? (x / Float.ofScientific 1 false 308) (e + 308)
termination_by (-e).toNat
decreasing_by omega

/-- The value of a number's parts: whether it is below zero, the digits before and after the point,
and the exponent. -/
def numberValue (below : Bool) (whole : List Char) (fraction : Option (List Char))
    (exponent : Option Int) : Json :=
  let (m, lost) := accumulate 0 whole
  match fraction, exponent, lost with
  | none, none, [] =>
    if !below then .natural m
    else if m == 0 || UInt64.size / 2 < m then .real (-m.toUInt64.toFloat)
    else .negative m
  | _, _, _ =>
    let digits := fraction.getD []
    let (m', rest) := accumulate m digits
    let e : Int := lost.length - (digits.length - rest.length : Nat) + exponent.getD 0
    match scale? m'.toUInt64.toFloat e with
    | some x => .real (if below then -x else x)
    | none => .void

/-- A number at the front of the text. -/
def number? (cs : List Char) : Option (Json × List Char) := do
  let (below, cs) := match cs with
    | '-' :: rest => (true, rest)
    | _ => (false, cs)
  let (whole, cs) := cs.span Char.isDigit
  if whole.isEmpty || (1 < whole.length && whole.head? == some '0') then none
  let (fraction, cs) ← match cs with
    | '.' :: rest =>
      let (digits, rest) := rest.span Char.isDigit
      if digits.isEmpty then none else some (some digits, rest)
    | _ => some (none, cs)
  let (exponent, cs) ← match cs with
    | 'e' :: rest | 'E' :: rest =>
      let (down, rest) := match rest with
        | '+' :: rest => (false, rest)
        | '-' :: rest => (true, rest)
        | _ => (false, rest)
      let (digits, rest) := rest.span Char.isDigit
      let e : Int := digits.foldl (fun n c => n * 10 + digitValue c) 0
      if digits.isEmpty then none else some (some (if down then -e else e), rest)
    | _ => some (none, cs)
  return (numberValue below whole fraction exponent, cs)

/-! ## Strings -/

def hexValue? (c : Char) : Option Nat :=
  if c.isDigit then some (c.toNat - '0'.toNat)
  else if 'a' ≤ c ∧ c ≤ 'f' then some (c.toNat - 'a'.toNat + 10)
  else if 'A' ≤ c ∧ c ≤ 'F' then some (c.toNat - 'A'.toNat + 10)
  else none

/-- Four hexadecimal digits. -/
def unit? : List Char → Option (Nat × List Char)
  | a :: b :: c :: d :: rest => do
    let (a, b, c, d) := (← hexValue? a, ← hexValue? b, ← hexValue? c, ← hexValue? d)
    return (((a * 16 + b) * 16 + c) * 16 + d, rest)
  | _ => none

/-- The character that a one-letter escape stands for. -/
def simpleEscape? : Char → Option Char
  | '"' => some '"'
  | '\\' => some '\\'
  | '/' => some '/'
  | 'b' => some '\x08'
  | 'f' => some '\x0c'
  | 'n' => some '\n'
  | 'r' => some '\r'
  | 't' => some '\t'
  | _ => none

/-- What a `u` escape stands for: a character, or `none` where half a surrogate pair is missing. -/
def unicodeEscape? (cs : List Char) : Option (Option Char × List Char) := do
  let (high, rest) ← unit? cs
  if high < 0xd800 || 0xe000 ≤ high then return (some (Char.ofNat high), rest)
  if 0xdc00 ≤ high then return (none, rest)
  match rest with
  | '\\' :: 'u' :: more =>
    let (low, more) ← unit? more
    if 0xdc00 ≤ low && low < 0xe000 then
      return (some (Char.ofNat (0x10000 + (high - 0xd800) * 0x400 + (low - 0xdc00))), more)
    else return (none, more)
  | _ => return (none, rest)

/-- The characters up to the closing quote, newest first in `seen`; `whole` is lost once a surrogate
stands alone. -/
def stringBody? : Nat → (whole : Bool) → (seen : List Char) → List Char →
    Option (Json × List Char)
  | 0, _, _, _ => none
  | _ + 1, _, _, [] => none
  | fuel + 1, whole, seen, c :: cs =>
    if c == '"' then
      some (if whole then .string (String.ofList seen.reverse) else .void, cs)
    else if c == '\\' then
      match cs with
      | 'u' :: rest => do
        let (char, rest) ← unicodeEscape? rest
        match char with
        | some char => stringBody? fuel whole (char :: seen) rest
        | none => stringBody? fuel false seen rest
      | e :: rest => do
        let char ← simpleEscape? e
        stringBody? fuel whole (char :: seen) rest
      | [] => none
    else if c.toNat < 0x20 then none
    else stringBody? fuel whole (c :: seen) cs

/-- A string at the front of the text, after its opening quote. -/
def quoted? (cs : List Char) : Option (Json × List Char) :=
  stringBody? (cs.length + 1) true [] cs

/-! ## Values

Every call below takes at least one character, so the length of the text is fuel enough. -/

mutual

/-- A value at the front of the text, inside `depth` open containers. -/
def value? : Nat → (depth : Nat) → List Char → Option (Json × List Char)
  | 0, _, _ => none
  | fuel + 1, depth, cs =>
    match skipBlanks cs with
    | '"' :: rest => quoted? rest
    | '[' :: rest =>
      if maxDepth ≤ depth then none
      else match skipBlanks rest with
        | ']' :: rest => some (.array [], rest)
        | rest => do
          let (items, rest) ← items? fuel (depth + 1) rest
          return (.array items, rest)
    | '{' :: rest =>
      if maxDepth ≤ depth then none
      else match skipBlanks rest with
        | '}' :: rest => some (.object [], rest)
        | rest => do
          let (entries, rest) ← entries? fuel (depth + 1) rest
          return (.object entries, rest)
    | 'n' :: rest => (expect? ['u', 'l', 'l'] rest).map (.null, ·)
    | 't' :: rest => (expect? ['r', 'u', 'e'] rest).map (.bool true, ·)
    | 'f' :: rest => (expect? ['a', 'l', 's', 'e'] rest).map (.bool false, ·)
    | rest => number? rest

/-- The items of an array up to its end. -/
def items? : Nat → (depth : Nat) → List Char → Option (List Json × List Char)
  | 0, _, _ => none
  | fuel + 1, depth, cs => do
    let (item, rest) ← value? fuel depth cs
    match skipBlanks rest with
    | ']' :: rest => return ([item], rest)
    | ',' :: rest =>
      let (items, rest) ← items? fuel depth rest
      return (item :: items, rest)
    | _ => none

/-- The entries of an object up to its end. -/
def entries? : Nat → (depth : Nat) → List Char → Option (List (String × Json) × List Char)
  | 0, _, _ => none
  | fuel + 1, depth, cs =>
    match skipBlanks cs with
    | '"' :: rest => do
      let (key, rest) ← quoted? rest
      let key ← key.string?
      match skipBlanks rest with
      | ':' :: rest =>
        let (item, rest) ← value? fuel depth rest
        match skipBlanks rest with
        | '}' :: rest => return ([(key, item)], rest)
        | ',' :: rest =>
          let (entries, rest) ← entries? fuel depth rest
          return ((key, item) :: entries, rest)
        | _ => none
      | _ => none
    | _ => none

end

/-- The value that the text holds, with nothing but blanks around it. -/
def read? (text : String) : Option Json := do
  let cs := text.toList
  let (value, rest) ← value? (2 * cs.length + 2) 0 cs
  if (skipBlanks rest).isEmpty then some value else none

end Retrieval.Json
