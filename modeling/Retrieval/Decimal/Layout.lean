import Retrieval.Decimal.Shortest

/-!
# Layouts of numbers

A layout says how the shortest digits of a binary64 number are set down: which exponents are written
positionally, whether a whole number keeps a fraction, how an exponent is introduced. `Layout.write`
applies one layout to a number.
-/

namespace Retrieval.Decimal

/-- The decisions of one way to write numbers. -/
structure Layout where
  tie : Tie
  /-- Numbers from `10 ^ least` on are written positionally; `none` is no bound. -/
  least : Option Int
  /-- Numbers below `10 ^ (most + 1)` are written positionally; `none` is no bound. -/
  most : Option Int
  /-- What follows the digits of a whole number written positionally. -/
  whole : String
  /-- What stands before an exponent that is not negative. -/
  plus : String
  deriving Repr

/-- Plain text: positional throughout, and nothing after a whole number. -/
def plain : Layout := ⟨.up, none, none, "", ""⟩

/-- Literal text: positional from a ten-thousandth up to ten quadrillion, and never without a
fraction or an exponent. -/
def literal : Layout := ⟨.up, some (-4), some 15, ".0", ""⟩

/-- The numbers of written JSON: positional from a hundred-thousandth up to ten quadrillion, and an
exponent always has its sign. -/
def signedExponent : Layout := ⟨.even, some (-5), some 15, ".0", "+"⟩

namespace Layout

/-- Whether a number with leading digit at `10 ^ e` is written positionally. -/
def isPositional (l : Layout) (e : Int) : Bool :=
  l.least.all (· ≤ e) && l.most.all (e ≤ ·)

/-- The digits with the point after the first `point` of them, padded with zeros. -/
def positional (l : Layout) (digits : List Char) (point : Int) : String :=
  if point ≤ 0 then
    "0." ++ String.ofList (List.replicate (-point).toNat '0' ++ digits)
  else if digits.length ≤ point.toNat then
    String.ofList (digits ++ List.replicate (point.toNat - digits.length) '0') ++ l.whole
  else
    String.ofList (digits.take point.toNat) ++ "." ++ String.ofList (digits.drop point.toNat)

/-- The digits with the point after the first of them, and the exponent. -/
def scientific (l : Layout) (digits : List Char) (e : Int) : String :=
  let mantissa := String.ofList (digits.take 1) ++
    if digits.length ≤ 1 then "" else "." ++ String.ofList (digits.drop 1)
  mantissa ++ "e" ++ (if e < 0 then "-" else l.plus) ++ toString e.natAbs

/-- The text of a finite magnitude. -/
def magnitude (l : Layout) (b : Binary) : String :=
  if b.significand = 0 then "0" ++ l.whole
  else
    let d := b.shortest l.tie
    let digits := Nat.toDigits 10 d.digits
    let point := digits.length + d.exponent
    if l.isPositional (point - 1) then l.positional digits point
    else l.scientific digits (point - 1)

/-- The text of a number; a negative zero keeps its sign. -/
def write (l : Layout) (x : Float) : String :=
  if x.isNaN then "NaN"
  else
    let bits := x.toBits
    let sign := if bits >>> 63 = 1 then "-" else ""
    sign ++ if x.isInf then "inf" else l.magnitude (Binary.ofBits bits)

end Layout

end Retrieval.Decimal
