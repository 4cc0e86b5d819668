import TypedQuery.Text.Hex
import TypedQuery.Text.Utf8
import TypedQuery.Yaml.Glyph
import TypedQuery.Yaml.Token

/-!
# Names, tags and directives

An anchor or an alias is a name of letters, digits, dashes and underscores. A tag is written
out between angle brackets, or as a suffix behind an exclamation mark or a handle; its
characters may be percent-encoded. A directive stands on a line of its own and tells the
version of the language or what a handle of tags stands for.
-/

namespace TypedQuery.Yaml

def isWordChar (c : Char) : Bool := c.isAlphanum || c == '_' || c == '-'

/-- Splits off the characters of a name. -/
def splitWord (text : List Glyph) : List Char × List Glyph :=
  let (word, rest) := text.span fun glyph => isWordChar glyph.char
  (word.map Glyph.char, rest)

/-- Reads the name of an anchor or an alias. -/
def readName? (text : List Glyph) : Option (String × List Glyph) :=
  let (name, rest) := splitWord text
  if name ≠ [] && (beginsGap rest || beginsWith ['?', ':', ',', ']', '\x7d', '%', '@', '\x60'] rest)
  then some (String.ofList name, rest)
  else none

/-- The characters of a tag. The separators of a list may only stand between brackets. -/
def isTagChar (bracketed : Bool) (c : Char) : Bool :=
  isWordChar c || ";/?:@&=+$.!~*'()".toList.contains c || (bracketed && ",[]".toList.contains c)

/-- How many octets follow the first octet of a character. -/
def octetsAfter? (octet : Nat) : Option Nat :=
  if octet < 0x80 then some 0
  else if octet < 0xC0 then none
  else if octet < 0xE0 then some 1
  else if octet < 0xF0 then some 2
  else if octet < 0xF8 then some 3
  else none

/-- How many octets are to come after the given one, if that may stand where some are. -/
def octetsLeft? (left octet : Nat) : Option Nat :=
  if left = 0 then octetsAfter? octet
  else if 0x80 ≤ octet && octet < 0xC0 then some (left - 1)
  else none

/-- Reads the octets of a tag. The number tells how many are still to come to the character
that has begun. -/
def readTagOctets (bracketed : Bool) : (left : Nat) → List Glyph → Option (List Nat × List Glyph)
  | left, [] => if left = 0 then some ([], []) else none
  | left, glyph :: rest =>
    if glyph.char = '%' then
      match rest with
      | high :: low :: rest => do
        let octet := (← Text.hexValue? high.char) * 16 + (← Text.hexValue? low.char)
        let left ← octetsLeft? left octet
        let (octets, after) ← readTagOctets bracketed left rest
        return (octet :: octets, after)
      | _ => none
    else if left ≠ 0 then none
    else if isTagChar bracketed glyph.char then
      (readTagOctets bracketed 0 rest).map fun (octets, after) =>
        (Text.octets glyph.char ++ octets, after)
    else some ([], glyph :: rest)

/-- Reads a part of a tag. -/
def readTagPart (bracketed : Bool) (text : List Glyph) : Option (String × List Glyph) :=
  (readTagOctets bracketed 0 text).map fun (octets, rest) => (Text.ofOctetsLossy octets, rest)

/-- Reads a tag behind its exclamation mark, without what has to follow. -/
def readTagForm? (text : List Glyph) : Option (Token × List Glyph) := do
  if beginsWith ['<'] text then
    let (suffix, rest) ← readTagPart true (text.drop 1)
    guard (suffix ≠ "" ∧ beginsWith ['>'] rest)
    return (.tag "" suffix, rest.drop 1)
  let (word, rest) := splitWord text
  if beginsWith ['!'] rest then
    let (suffix, rest) ← readTagPart false (rest.drop 1)
    guard (suffix ≠ "")
    return (.tag (String.ofList ('!' :: word ++ ['!'])) suffix, rest)
  let (suffix, rest) ← readTagPart false rest
  let suffix := String.ofList word ++ suffix
  return (if suffix = "" then .tag "" "!" else .tag "!" suffix, rest)

/-- Reads a tag behind its exclamation mark. -/
def readTag? (inFlow : Bool) (text : List Glyph) : Option (Token × List Glyph) := do
  let (tag, rest) ← readTagForm? text
  guard (beginsGap rest ∨ inFlow ∧ beginsWith [','] rest)
  return (tag, rest)

/-- Reads a number of at most nine digits. -/
def readNumber? (text : List Glyph) : Option (Nat × List Glyph) :=
  let (digits, rest) := text.span fun glyph => glyph.char.isDigit
  if digits = [] || 9 < digits.length then none
  else some (digits.foldl (fun size glyph => size * 10 + (glyph.char.toNat - 48)) 0, rest)

/-- Reads the version that a directive names. -/
def readVersion? (text : List Glyph) : Option (Token × List Glyph) := do
  let (major, rest) ← readNumber? (skipBlanks text)
  guard (beginsWith ['.'] rest)
  let (minor, rest) ← readNumber? (rest.drop 1)
  return (.version major minor, rest)

/-- Reads a handle and what it stands for. -/
def readHandle? (text : List Glyph) : Option (Token × List Glyph) := do
  let text := skipBlanks text
  guard (beginsWith ['!'] text)
  let (word, rest) := splitWord (text.drop 1)
  let closed := beginsWith ['!'] rest
  guard (closed ∨ word = [])
  let name := String.ofList ('!' :: word ++ (if closed then ['!'] else []))
  let rest := rest.drop (if closed then 1 else 0)
  guard (rest.head?.any Glyph.isBlank)
  let (expansion, rest) ← readTagPart true (skipBlanks rest)
  guard (expansion ≠ "" ∧ beginsGap rest)
  return (.handle name expansion, rest)

/-- Reads a directive behind its percent sign, with the rest of its line. -/
def readDirective? (text : List Glyph) : Option (Token × List Glyph) := do
  let (word, rest) := splitWord text
  guard (beginsGap rest)
  let (directive, rest) ←
    if word = "YAML".toList then readVersion? rest
    else if word = "TAG".toList then readHandle? rest
    else none
  return (directive, ← skipLine? rest)

end TypedQuery.Yaml
