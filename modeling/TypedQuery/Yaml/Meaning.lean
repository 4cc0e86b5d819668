import TypedQuery.Json.Numeral
import TypedQuery.Text.Hex

/-!
# The meaning of scalars

A plain text may mean more than itself: nothing, a truth value, an integer in one of four
bases or a binary64 value, in this order of trial; what is none of these is a text. A tag
may ask for one of the meanings.
-/

namespace TypedQuery.Yaml

def isNullText (text : String) : Bool := ["~", "null", "Null", "NULL"].contains text

/-- The truth value that a plain text means. -/
def boolOfText? (text : String) : Option Bool :=
  if ["true", "True", "TRUE"].contains text then some true
  else if ["false", "False", "FALSE"].contains text then some false
  else none

/-- The number that digits of a base spell, if they are such and there are any. -/
def natOfDigits? (base : Nat) (digits : List Char) : Option Nat :=
  if digits = [] then none
  else
    digits.foldlM
      (fun size c => do
        let value ← Text.hexValue? c
        if value < base then some (size * base + value) else none)
      0

/-- Splits off the mark of a base; without one the base is ten. -/
def baseOf : List Char → Nat × List Char
  | '0' :: 'x' :: digits => (16, digits)
  | '0' :: 'o' :: digits => (8, digits)
  | '0' :: 'b' :: digits => (2, digits)
  | digits => (10, digits)

/-- Splits off a sign; the flag tells a minus. -/
def signOf : List Char → Bool × List Char
  | '-' :: rest => (true, rest)
  | '+' :: rest => (false, rest)
  | rest => (false, rest)

/-- Whether digits begin with a zero that is not their only one. Such a text is no number. -/
def isPadded (text : List Char) : Bool :=
  match (signOf text).2 with
  | '0' :: digit :: rest => (digit :: rest).all Char.isDigit
  | _ => false

/-- The integer that a plain text means, of any size. -/
def intOfText? (text : String) : Option Int :=
  if isPadded text.toList then none
  else do
    let (negative, unsigned) := signOf text.toList
    let (base, digits) := baseOf unsigned
    let size ← natOfDigits? base digits
    return if negative then -(size : Int) else size

/-- The natural number that a plain text without a minus means. -/
def natOfText? (text : String) : Option Nat :=
  if text.toList.head? = some '-' then none else (intOfText? text).map Int.toNat

/-- The finite binary64 value nearest to `digits * 10 ^ exponent`. The place of the leading
digit decides beforehand where the value is out of reach. -/
def floatOfDecimal? (negative : Bool) (digits : List Char) (exponent : Int) :
    Option Binary64 :=
  let digits := digits.dropWhile (· == '0')
  let place := (digits.length : Int) + exponent
  if digits = [] || place < -400 then some (.zero negative)
  else if 400 < place then none
  else
    let size : Nat := digits.foldl (fun n c => n * 10 + Numeral.digit c) 0
    Binary64.ofDecimal negative size exponent

/-- The exponent part of a decimal: nothing, or a mark and an integer. -/
def exponentOf? : List Char → Option Int
  | [] => some 0
  | mark :: rest =>
    let (down, digits) := signOf rest
    if (mark = 'e' || mark = 'E') && digits ≠ [] && digits.all Char.isDigit then
      let size : Nat := digits.foldl (fun n c => n * 10 + Numeral.digit c) 0
      some (if down then -(size : Int) else size)
    else none

/-- The finite binary64 value that a decimal spells. Digits may be missing on one side of
the point. -/
def floatOfText? (text : String) : Option Binary64 := do
  let (negative, unsigned) := signOf text.toList
  let (whole, rest) := Numeral.digits unsigned
  let (fraction, rest) := match rest with
    | '.' :: rest => Numeral.digits rest
    | _ => ([], rest)
  guard (whole ++ fraction ≠ [])
  let exponent ← exponentOf? rest
  floatOfDecimal? negative (whole ++ fraction) (exponent - fraction.length)

/-- Whether a plain text means an infinite value or none at all. -/
def isUnreal (text : String) : Bool :=
  let infinite := [".inf", ".Inf", ".INF"]
  infinite.contains text || (infinite.map ("+" ++ ·)).contains text
    || (infinite.map ("-" ++ ·)).contains text || [".nan", ".NaN", ".NAN"].contains text

/-- The value of an integer; none if no value can hold it. -/
def intValue? (n : Int) : Option Json :=
  if -(Power.two 63 : Int) ≤ n ∧ n < Power.two 64 then some (.int n) else none

/-- The integers that are read as such, whether a value can hold them or not. -/
def isWide (n : Int) : Bool := -(Power.two 127 : Int) ≤ n && n < Power.two 128

/-- The value that a plain text means; none for an integer that no value can hold. -/
def plainValue? (text : String) : Option Json :=
  if text = "" || isNullText text || isUnreal text then some .null
  else
    match boolOfText? text, (intOfText? text).filter isWide with
    | some value, _ => some (.bool value)
    | none, some n => intValue? n
    | none, none =>
      match floatOfText? text with
      | some x => if isPadded text.toList then some (.string text) else some (.number (.float x))
      | none => some (.string text)

/-- The expansion of the handle under which the common tags stand. -/
def coreHandle : String := "tag:yaml.org,2002:"

/-- The value of a text with a tag. Four tags ask for a meaning, which the text has to have;
under every other tag the text stands for itself. -/
def taggedValue? (tag text : String) : Option Json :=
  if tag = coreHandle ++ "bool" then (boolOfText? text).map .bool
  else if tag = coreHandle ++ "int" then intOfText? text >>= intValue?
  else if tag = coreHandle ++ "float" then
    if isUnreal text then some .null else (floatOfText? text).map fun x => .number (.float x)
  else if tag = coreHandle ++ "null" then if isNullText text then some .null else none
  else some (.string text)

example : (["0x1F", "-0o17", "+5", "007", "-0", "yes", "~"].map plainValue?)
    = [some (.int 31), some (.int (-15)), some (.int 5), some (.string "007"), some (.int 0),
      some (.string "yes"), some .null] := by decide +kernel

example : plainValue? "1e400" = some (.string "1e400")
    ∧ plainValue? "99999999999999999999" = none := by decide +kernel

end TypedQuery.Yaml
