import TypedQuery.Json.Basic
import TypedQuery.Number.Shortest
import TypedQuery.Text.Hex

/-!
# JSON text

Compact text: no blanks, members in their order. Strings escape the quote, the backslash
and the characters below U+0020, and nothing else. A binary64 value is written with the
fewest digits that read back, and its text always shows a point or an exponent, so that it
cannot be taken for an integer.
-/

namespace TypedQuery

/-- The digits of a decimal with the point or the exponent set: positional where the
leading digit stands for a power of ten from -5 to 15. -/
def Decimal.render (d : Decimal) : String :=
  let digits := Nat.toDigits 10 d.digits
  let place : Int := digits.length + d.exponent
  if -5 < place ∧ place ≤ 0 then
    "0." ++ String.ofList (List.replicate (-place).toNat '0' ++ digits)
  else if 0 < place ∧ place ≤ 16 then
    let whole := digits.take place.toNat
    let rest := digits.drop place.toNat
    let padding := List.replicate (place.toNat - digits.length) '0'
    String.ofList (whole ++ padding) ++ "." ++ (if rest = [] then "0" else String.ofList rest)
  else
    let power := place - 1
    let tail := if digits.length ≤ 1 then "" else "." ++ String.ofList (digits.drop 1)
    String.ofList (digits.take 1) ++ tail ++ "e" ++ (if power < 0 then "-" else "+") ++
      toString power.natAbs

def Binary64.render (x : Binary64) : String :=
  (if x.negative then "-" else "") ++ (if x.isZero then "0.0" else x.shortest.render)

def Number.render : Number → String
  | .int value => toString value
  | .float value => value.render

namespace Json

/-- How one character stands in a string. -/
def escaped (c : Char) : List Char :=
  match c with
  | '"' => ['\\', '"']
  | '\\' => ['\\', '\\']
  | '\n' => ['\\', 'n']
  | '\r' => ['\\', 'r']
  | '\t' => ['\\', 't']
  | '\x08' => ['\\', 'b']
  | '\x0c' => ['\\', 'f']
  | c =>
    if c.toNat < 0x20 then
      ['\\', 'u', '0', '0', Text.hexDigit (c.toNat / 16), Text.hexDigit (c.toNat % 16)]
    else [c]

def quote (text : String) : String :=
  "\"" ++ String.ofList (text.toList.flatMap escaped) ++ "\""

mutual

/-- The compact text of a value. -/
def render : Json → String
  | .null => "null"
  | .bool true => "true"
  | .bool false => "false"
  | .number value => value.render
  | .string text => quote text
  | .array elements => "[" ++ renderElements elements ++ "]"
  | .object members => "\x7b" ++ renderMembers members ++ "\x7d"
termination_by structural value => value

def renderElements : List Json → String
  | [] => ""
  | [element] => render element
  | element :: rest => render element ++ "," ++ renderElements rest
termination_by structural elements => elements

def renderMembers : List (String × Json) → String
  | [] => ""
  | [(key, value)] => quote key ++ ":" ++ render value
  | (key, value) :: rest => quote key ++ ":" ++ render value ++ "," ++ renderMembers rest
termination_by structural members => members

end

end Json

example : (Binary64.ofDecimal false 1 16).map Binary64.render = some "1e+16" := by
  decide +kernel

example : (Binary64.ofDecimal true 1 (-5)).map Binary64.render = some "-0.00001" := by
  decide +kernel

end TypedQuery
