import TypedQuery.Number.Binary64

/-!
# The fewest decimal digits that read back

The reals that round to a value form an interval around it, ends included exactly when its
significand is even. Of the decimals in the interval those with fewest digits are wanted,
and of these the one nearest to the value, a tie going to the even digit. On each decimal
grid only the two neighbours of the value need a test: if any point of the grid lies in the
interval, one of these two does.
-/

namespace TypedQuery

/-- `digits * 10 ^ exponent`. -/
structure Decimal where
  digits : Nat
  exponent : Int
deriving DecidableEq

namespace Decimal

/-- Compares `a * 10 ^ i` with `n * 2 ^ j`, exactly. -/
def compareBinary (a : Nat) (i : Int) (n : Nat) (j : Int) : Ordering :=
  compare (a * Power.ten i.toNat * Power.two (-j).toNat)
    (n * Power.two j.toNat * Power.ten (-i).toNat)

/-- Whether the decimal is among the reals that round to the magnitude of `x`. Below a power
of two the next magnitude is half as far away as above it. -/
def readsBack (x : Binary64) (d : Decimal) : Bool :=
  let (significand, exponent) := x.parts
  let narrow := significand == Power.two 52 && decide (-1074 < exponent)
  let low := if narrow then 4 * significand - 1 else 4 * significand - 2
  let atLow := compareBinary d.digits d.exponent low (exponent - 2)
  let atHigh := compareBinary d.digits d.exponent (4 * significand + 2) (exponent - 2)
  let closed := significand % 2 == 0
  (atLow == .gt || (closed && atLow == .eq)) && (atHigh == .lt || (closed && atHigh == .eq))

/-- The decimal digits of a natural number, none for zero. -/
def length (n : Nat) : Nat := if n = 0 then 0 else (Nat.toDigits 10 n).length

/-- The least `k` with `num / den < 10 ^ k`, for a positive quotient. -/
def pointPlace (num den : Nat) : Int :=
  if den ≤ num then (length (num / den) : Int)
  else 1 - (length ((den + num - 1) / num - 1) : Int)

/-- The neighbour of the value on the grid `10 ^ exponent` that reads back, if one does. -/
def onGrid (x : Binary64) (exponent : Int) : Option Decimal :=
  let (num, den) := x.quotient
  let num := num * Power.ten (-exponent).toNat
  let den := den * Power.ten exponent.toNat
  let below := num / den
  let twice := 2 * (num % den)
  let first := if twice < den then below
    else if den < twice then below + 1
    else below + below % 2
  let second := if first = below then below + 1 else below
  if readsBack x ⟨first, exponent⟩ then some ⟨first, exponent⟩
  else if readsBack x ⟨second, exponent⟩ then some ⟨second, exponent⟩
  else none

/-- Moves trailing zeros of the digits into the exponent, at most `fuel` of them. -/
def stripZeros : Nat → Decimal → Decimal
  | 0, d => d
  | fuel + 1, d =>
    if d.digits % 10 = 0 then stripZeros fuel ⟨d.digits / 10, d.exponent + 1⟩ else d

end Decimal

/-- The shortest decimal that reads back to a magnitude that is not zero. Seventeen digits
always suffice; the exact value stands behind them all the same. -/
def Binary64.shortest (x : Binary64) : Decimal :=
  let (num, den) := x.quotient
  let place := Decimal.pointPlace num den
  let found := (List.range 17).findSome? fun n => Decimal.onGrid x (place - (n + 1 : Nat))
  let (significand, exponent) := x.parts
  let exact : Decimal :=
    ⟨significand * Power.two exponent.toNat * Power.five (-exponent).toNat, -(-exponent).toNat⟩
  Decimal.stripZeros 17 (found.getD exact)

example : (Binary64.ofQuotient false 1 10).map Binary64.shortest = some ⟨1, -1⟩ := by
  decide +kernel

end TypedQuery
