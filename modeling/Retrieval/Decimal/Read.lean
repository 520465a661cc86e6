/-!
# Reading decimals

`Decimal.read?` reads a number in decimal notation, with or without a point and an exponent, as the
nearest binary64 number.
-/

namespace Retrieval.Decimal

/-- The value of a list of digits. -/
def naturalOf (digits : List Char) : Nat :=
  digits.foldl (fun n c => n * 10 + (c.toNat - '0'.toNat)) 0

/-- A sign, and what follows it. -/
def takeSign : List Char → Bool × List Char
  | '-' :: rest => (true, rest)
  | '+' :: rest => (false, rest)
  | rest => (false, rest)

/-- An exponent, or none at the end of the text. -/
def readExponent? : List Char → Option Int
  | [] => some 0
  | e :: rest =>
    let (down, digits) := takeSign rest
    if (e == 'e' || e == 'E') && !digits.isEmpty && digits.all Char.isDigit then
      some (if down then -naturalOf digits else naturalOf digits)
    else none

/-- A number without a sign. -/
def readMagnitude? (cs : List Char) : Option Float := do
  let (whole, rest) := cs.span Char.isDigit
  let (fraction, rest) := match rest with
    | '.' :: rest => rest.span Char.isDigit
    | _ => ([], rest)
  if whole.isEmpty && fraction.isEmpty then none
  let e := (← readExponent? rest) - fraction.length
  return Float.ofScientific (naturalOf (whole ++ fraction)) (e < 0) e.natAbs

/-- The number that a text in decimal notation stands for. -/
def read? (text : String) : Option Float := do
  let (negative, cs) := takeSign text.toList
  let x ← match String.ofList cs with
    | "inf" => some (Float.ofBits 0x7ff0000000000000)
    | "NaN" => some (Float.ofBits 0x7ff8000000000000)
    | _ => readMagnitude? cs
  return if negative then -x else x

end Retrieval.Decimal
