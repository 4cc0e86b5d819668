import TypedQuery.Text.Utf8
import TypedQuery.Entries
import TypedQuery.Text.Hex
import TypedQuery.Text.Split

/-!
# Percent-encoded text

A percent sign with two hexadecimal digits after it stands for an octet; one without them
stands for itself. Parts of a path have to decode to text. A query string is a list of
pairs, each cut at its first equals sign, with a plus for every blank; what its octets do
not spell is replaced.
-/

namespace TypedQuery.Text

/-- The octets that percent-encoded text stands for. -/
def percentOctets : List Char → List Nat
  | [] => []
  | '%' :: high :: low :: rest =>
    match hexValue? high, hexValue? low with
    | some h, some l => (h * 16 + l) :: percentOctets rest
    | _, _ => octets '%' ++ percentOctets (high :: low :: rest)
  | c :: rest => octets c ++ percentOctets rest

/-- The text of a part of a path, if its octets spell one. -/
def decodePathPart? (text : String) : Option String := ofOctets? (percentOctets text.toList)

/-- A name or a value of a query string. -/
def decodeFormPart (text : List Char) : String :=
  ofOctetsLossy (percentOctets (text.map fun c => if c = '+' then ' ' else c))

/-- A pair of a query string. -/
def formPair (text : List Char) : String × String :=
  let (name, value) := cutAt '=' text
  (decodeFormPart name, decodeFormPart (value.getD []))

/-- The pairs of a query string, each name once with its last value. -/
def decodeForm (text : String) : List (String × String) :=
  Entries.ofList (((splitAtMarks '&' text.toList).filter (· ≠ [])).map formPair)

example : decodeForm "tag=st%61ff&&a+b=%C3%A9%zz&x&tag=2"
    = [("tag", "2"), ("a b", "é%zz"), ("x", "")] := by decide +kernel

example : decodePathPart? "two%20+words" = some "two +words" ∧ decodePathPart? "%FF" = none := by
  decide +kernel

end TypedQuery.Text
