/-!
# Characters from octets

A decoder takes one octet at a time. Between characters any first octet may come; it fixes
how many octets follow and, for the shortest forms and the surrogates, narrows the range of
the next one. What breaks off is replaced as a whole by one gap: the octet that does not
fit is looked at again as the first of a character.
-/

namespace TypedQuery.Text

/-- A character that has begun: its code so far, how many octets are to come, and the range
of the next one. -/
structure Begun where
  code : Nat
  left : Nat
  low : Nat := 0x80
  high : Nat := 0xBF

/-- A character, or none for octets that spell none. -/
abbrev Decoded := Option Char

/-- Reads the first octet of a character. -/
def beginChar (octet : Nat) : List Decoded × Option Begun :=
  if octet < 0x80 then ([some (Char.ofNat octet)], none)
  else if 0xC2 ≤ octet ∧ octet ≤ 0xDF then ([], some { code := octet - 0xC0, left := 1 })
  else if octet = 0xE0 then ([], some { code := 0, left := 2, low := 0xA0 })
  else if octet = 0xED then ([], some { code := 0xD, left := 2, high := 0x9F })
  else if 0xE1 ≤ octet ∧ octet ≤ 0xEF then ([], some { code := octet - 0xE0, left := 2 })
  else if octet = 0xF0 then ([], some { code := 0, left := 3, low := 0x90 })
  else if 0xF1 ≤ octet ∧ octet ≤ 0xF3 then ([], some { code := octet - 0xF0, left := 3 })
  else if octet = 0xF4 then ([], some { code := 4, left := 3, high := 0x8F })
  else ([none], none)

/-- Reads an octet, given the character that has begun. -/
def readOctet : Option Begun → (octet : Nat) → List Decoded × Option Begun
  | none, octet => beginChar octet
  | some begun, octet =>
    if begun.low ≤ octet ∧ octet ≤ begun.high then
      let code := begun.code * 64 + (octet - 0x80)
      if begun.left ≤ 1 then ([some (Char.ofNat code)], none)
      else ([], some { code, left := begun.left - 1 })
    else
      let (decoded, next) := beginChar octet
      (none :: decoded, next)

/-- The characters that octets spell, with a gap for each stretch that spells none. -/
def decodeOctets : Option Begun → List Nat → List Decoded
  | none, [] => []
  | some _, [] => [none]
  | begun, octet :: rest =>
    let (decoded, next) := readOctet begun octet
    decoded ++ decodeOctets next rest

/-- The text that octets spell, if they spell one from end to end. -/
def ofOctets? (octets : List Nat) : Option String :=
  ((decodeOctets none octets).mapM id).map String.ofList

/-- The text that octets spell, with the replacement character in every gap. -/
def ofOctetsLossy (octets : List Nat) : String :=
  String.ofList ((decodeOctets none octets).map (·.getD '\uFFFD'))

/-- The octets of a character. -/
def octets (c : Char) : List Nat :=
  let code := c.toNat
  if code < 0x80 then [code]
  else if code < 0x800 then [0xC0 + code / 64, 0x80 + code % 64]
  else if code < 0x10000 then
    [0xE0 + code / 4096, 0x80 + code / 64 % 64, 0x80 + code % 64]
  else
    [0xF0 + code / 262144, 0x80 + code / 4096 % 64, 0x80 + code / 64 % 64, 0x80 + code % 64]

example : ofOctets? ("aé☃𝄞".toList.flatMap octets) = some "aé☃𝄞" := by decide +kernel

example : ofOctetsLossy [0xE2, 0x98, 0x41, 0xED, 0xA0, 0xF0] = "\uFFFDA\uFFFD\uFFFD\uFFFD" := by
  decide +kernel

end TypedQuery.Text
