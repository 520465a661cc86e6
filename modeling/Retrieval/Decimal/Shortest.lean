/-!
# Shortest decimals

A finite binary64 number has a significand `m` and an exponent `e` and stands for `m * 2 ^ e`. The
reals that round to it form an interval around it, whose ends belong to it exactly when `m` is even.
`shortest` looks for a decimal in that interval on finer and finer grids, from the power of ten
above the number down to seventeen digits, so no shorter decimal reads back as the number, and of
two decimals of that length it takes the nearer.
-/

namespace Retrieval.Decimal

/-- The decimal `digits * 10 ^ exponent`. -/
structure Digits where
  digits : Nat
  exponent : Int
  deriving Repr, DecidableEq

/-- Which of two equally near decimals is written. -/
inductive Tie where
  | up
  | even
  deriving Repr, DecidableEq

/-- The number `significand * 2 ^ exponent`, with the lower end of its rounding interval. -/
structure Binary where
  significand : Nat
  exponent : Int
  /-- The next smaller number is half as far away as the next larger one. -/
  narrowBelow : Bool
  deriving Repr, DecidableEq

namespace Binary

/-- The magnitude of a finite binary64 number, read off its bits. -/
def ofBits (bits : UInt64) : Binary :=
  let biased := ((bits >>> 52) &&& 0x7ff).toNat
  let fraction := (bits &&& 0xfffffffffffff).toNat
  if biased = 0 then ⟨fraction, -1074, false⟩
  else ⟨fraction + 0x10000000000000, (biased : Int) - 1075, fraction = 0 ∧ 1 < biased⟩

/-- Numerator over denominator of `2 ^ (exponent - 2)`, the unit in which the number is four times
its significand and the ends of its interval are whole. -/
def unit (b : Binary) : Nat × Nat :=
  let e := b.exponent - 2
  if 0 ≤ e then (Nat.pow 2 e.toNat, 1) else (1, Nat.pow 2 (-e).toNat)

/-- The interval's ends, in units. -/
def low (b : Binary) : Nat := 4 * b.significand - if b.narrowBelow then 1 else 2
def high (b : Binary) : Nat := 4 * b.significand + 2

/-- The least `p` with the number below `10 ^ p`. -/
def magnitude (b : Binary) : Int :=
  let (up, down) := b.unit
  let num := 4 * b.significand * up
  if down ≤ num then (Nat.toDigits 10 (num / down)).length
  else 1 - (Nat.toDigits 10 ((down - 1) / num)).length

/-- The decimals of the grid `10 ^ k` next to the number, if they read back as it. -/
def onGrid? (b : Binary) (tie : Tie) (k : Int) : Option Digits :=
  let (up, down) := b.unit
  let scale := up * if 0 ≤ k then 1 else Nat.pow 10 (-k).toNat
  let step := down * if 0 ≤ k then Nat.pow 10 k.toNat else 1
  let inside (c : Nat) : Bool :=
    let (l, x, h) := (b.low * scale, c * step, b.high * scale)
    if b.significand % 2 = 0 then l ≤ x && x ≤ h else l < x && x < h
  let value := 4 * b.significand * scale
  let c := value / step
  let rest := value % step
  let above := 2 * rest > step || (2 * rest == step && (tie == .up || c % 2 == 1))
  match inside c, inside (c + 1) with
  | true, true => some ⟨if above then c + 1 else c, k⟩
  | true, false => some ⟨c, k⟩
  | false, true => some ⟨c + 1, k⟩
  | false, false => none

/-- The shortest decimal that reads back as a number other than zero. -/
def shortest (b : Binary) (tie : Tie) : Digits :=
  let p := b.magnitude
  let grids := (List.range 18).map fun (n : Nat) => p - n
  (grids.findSome? (b.onGrid? tie)).getD ⟨0, 0⟩

end Binary

end Retrieval.Decimal
