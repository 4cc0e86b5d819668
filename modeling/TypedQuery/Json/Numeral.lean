import TypedQuery.Json.Basic

/-!
# Reading numerals

A numeral without point and exponent is an integer when it fits 64 bits, signed or
unsigned; minus zero and everything larger is binary64. Every other numeral keeps as many
leading digits as fit 64 bits, takes them to the nearest binary64 value, and scales that
once by a power of ten in binary64. What lies beyond all finite values is refused.
-/

namespace TypedQuery

/-- A numeral by its parts: `fraction` and `exponent` are absent, not empty, when unwritten. -/
structure Numeral where
  negative : Bool
  whole : List Char
  fraction : Option (List Char)
  exponent : Option (Bool × List Char)

namespace Numeral

def digit (c : Char) : Nat := c.toNat - 48

/-- Splits off the leading digits. -/
def digits (cs : List Char) : List Char × List Char := cs.span Char.isDigit

/-- The parts of a numeral, for text that is one from end to end. -/
def ofChars? (text : List Char) : Option Numeral := do
  let (negative, text) := match text with
    | '-' :: rest => (true, rest)
    | _ => (false, text)
  let (whole, text) := digits text
  guard (whole ≠ [] ∧ (whole.head? = some '0' → whole.length = 1))
  let (fraction, text) := match text with
    | '.' :: rest => (some (digits rest).1, (digits rest).2)
    | _ => (none, text)
  guard (fraction ≠ some [])
  let exponent ← match text with
    | [] => pure none
    | mark :: rest =>
      guard (mark = 'e' ∨ mark = 'E')
      let (down, rest) := match rest with
        | '-' :: rest => (true, rest)
        | '+' :: rest => (false, rest)
        | _ => (false, rest)
      guard (rest ≠ [] ∧ rest.all Char.isDigit)
      pure (some (down, rest))
  return ⟨negative, whole, fraction, exponent⟩

/-- The least number that a significand cannot hold. -/
def significandLimit : Nat := Power.two 64

/-- Takes digits into the significand while it has room. The second part of the answer
counts the digits that were left over. -/
def gather : Nat → List Char → Nat × Nat
  | significand, [] => (significand, 0)
  | significand, c :: rest =>
    let next := significand * 10 + digit c
    if next < significandLimit then gather next rest else (significand, rest.length + 1)

/-- The ten power `10 ^ n` in binary64, for the powers that are finite. -/
def tenPower (n : Nat) : Binary64 := (Binary64.ofDecimal false 1 n).getD (.zero false)

/-- The largest finite ten power. -/
def topPower : Nat := 308

/-- Divides by the largest ten power, the given number of times or until zero is reached. -/
def divideDown : Nat → Binary64 → Binary64
  | 0, x => x
  | n + 1, x =>
    if x.isZero then x
    else divideDown n ((x.div (tenPower topPower)).getD (.zero x.negative))

/-- Scales a value by `10 ^ exponent`, one rounding at each step. -/
def scaled (x : Binary64) (exponent : Int) : Option Binary64 :=
  if x.isZero then some x
  else if 0 ≤ exponent then
    if exponent ≤ topPower then x.mul (tenPower exponent.toNat) else none
  else
    let steps := ((-exponent).toNat - 1) / topPower
    (divideDown steps x).div (tenPower ((-exponent).toNat - topPower * steps))

/-- The largest exponent that may be written out. -/
def exponentLimit : Nat := Power.two 31

/-- The value of an exponent part, none beyond the limit. -/
def exponentValue (down : Bool) (ds : List Char) : Option Int :=
  let size := ds.foldl (fun n c => n * 10 + digit c) 0
  if size < exponentLimit then some (if down then -(size : Int) else size) else none

/-- The binary64 value of a numeral. An exponent beyond its limit leaves zero or nothing. -/
def float? (n : Numeral) : Option Binary64 := do
  let (significand, dropped) := gather 0 n.whole
  let (significand, kept) := match n.fraction with
    | none => (significand, 0)
    | some ds =>
      let (filled, left) := gather significand ds
      (filled, ds.length - left)
  let start : Int := (dropped : Int) - kept
  let settle (exponent : Int) : Option Binary64 := do
    let x ← scaled (← Binary64.ofQuotient false significand 1) exponent
    return { x with negative := n.negative }
  match n.exponent with
  | none => settle start
  | some (down, ds) =>
    match exponentValue down ds with
    | some exponent => settle (start + exponent)
    | none => if down ∨ significand = 0 then some (.zero n.negative) else none

/-- The number that a numeral denotes. -/
def value? (n : Numeral) : Option Number :=
  let size := n.whole.foldl (fun m c => m * 10 + digit c) 0
  if n.fraction.isNone ∧ n.exponent.isNone ∧
      (if n.negative then 0 < size ∧ size ≤ Power.two 63 else size < significandLimit) then
    some (.int (if n.negative then -(size : Int) else size))
  else n.float?.map .float

end Numeral

example : (Numeral.ofChars? "-0".toList >>= Numeral.value?) = some (.float (.zero true)) := by
  decide +kernel

example : Numeral.ofChars? "01".toList = none := by rfl

end TypedQuery
