import TypedQuery.Number.Power

/-!
# Finite binary64 values

A finite value is a sign and the number of its magnitude in the ascending list of all
finite magnitudes, which is also its bit pattern: 0 is zero, 1 the least subnormal. So
equal values of equal sign are equal terms. Arithmetic is exact on quotients of naturals and
rounds once, to nearest with ties to even.
-/

namespace TypedQuery

/-- How many finite magnitudes there are: the next pattern stands for infinity. -/
def finiteMagnitudes : Nat := 2047 * Power.two 52

structure Binary64 where
  negative : Bool
  magnitude : Fin finiteMagnitudes
deriving DecidableEq

namespace Binary64

/-- The quotient rounded to the nearest integer, a half to the even neighbour. -/
def halfEven (num den : Nat) : Nat :=
  let quotient := num / den
  let twice := 2 * (num % den)
  if twice < den then quotient
  else if den < twice then quotient + 1
  else quotient + quotient % 2

/-- The fraction and the power of two of a magnitude: its value is their product. -/
def parts (x : Binary64) : Nat × Int :=
  let field : Nat := x.magnitude.val / Power.two 52
  let fraction : Nat := x.magnitude.val % Power.two 52
  if field = 0 then (fraction, -1074) else (Power.two 52 + fraction, (field : Int) - 1075)

def isZero (x : Binary64) : Bool := x.magnitude.val == 0

/-- The magnitude as a quotient of naturals. -/
def quotient (x : Binary64) : Nat × Nat :=
  let (significand, exponent) := x.parts
  (significand * Power.two exponent.toNat, Power.two (-exponent).toNat)

/-- The power of two that leaves 53 binary digits of `num / den` before the point, or the
least one there is. -/
def scale (num den : Nat) : Int :=
  let guess : Int := (num.log2 : Int) - den.log2
  let reached := den * Power.two guess.toNat ≤ num * Power.two (-guess).toNat
  max (-1074) ((if reached then guess else guess - 1) - 52)

/-- The nearest finite value to `num / den`; none if that lies beyond all finite values. -/
def ofQuotient (negative : Bool) (num den : Nat) : Option Binary64 :=
  let exponent := if num = 0 then -1074 else scale num den
  let significand :=
    halfEven (num * Power.two (-exponent).toNat) (den * Power.two exponent.toNat)
  let pattern := significand + (exponent + 1074).toNat * Power.two 52
  if h : pattern < finiteMagnitudes then some ⟨negative, ⟨pattern, h⟩⟩ else none

/-- The nearest finite value to `digits * 10 ^ exponent`. -/
def ofDecimal (negative : Bool) (digits : Nat) (exponent : Int) : Option Binary64 :=
  ofQuotient negative (digits * Power.ten exponent.toNat) (Power.ten (-exponent).toNat)

protected def mul (x y : Binary64) : Option Binary64 :=
  let (a, b) := x.quotient
  let (c, d) := y.quotient
  ofQuotient (x.negative != y.negative) (a * c) (b * d)

/-- The quotient by a value that is not zero. -/
protected def div (x y : Binary64) : Option Binary64 :=
  let (a, b) := x.quotient
  let (c, d) := y.quotient
  ofQuotient (x.negative != y.negative) (a * d) (b * c)

/-- Zero with the given sign. -/
def zero (negative : Bool) : Binary64 := ⟨negative, ⟨0, by decide⟩⟩

/-- Numerical equality: the two zeros are one number. -/
def same (x y : Binary64) : Bool := x == y || (x.isZero && y.isZero)

example : ofQuotient false 1 10 = some ⟨false, ⟨0x3FB999999999999A, by decide⟩⟩ := by
  decide +kernel

example : ofDecimal false 1 309 = none := by decide +kernel

end Binary64

end TypedQuery
