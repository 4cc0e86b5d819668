/-!
# Characters with their places

YAML text is read as a list of characters that know where they stand. Line breaks have five
spellings; all but the line and the paragraph separator become a line feed. Control
characters may not occur, neither may the two codes that are no characters.
-/

namespace TypedQuery.Yaml

structure Glyph where
  char : Char
  line : Nat
  column : Nat
  /-- How many characters come before it. -/
  index : Nat

/-- The characters that a text may hold. -/
def isAllowed (c : Char) : Bool :=
  let code := c.toNat
  ['\t', '\n', '\r', '\u0085'].contains c || (0x20 ≤ code && code ≤ 0x7E)
    || (0xA0 ≤ code && code ≤ 0xFFFD) || 0x10000 ≤ code

def isBreak (c : Char) : Bool := ['\n', '\r', '\u0085', '\u2028', '\u2029'].contains c

/-- The one spelling of a line break. -/
def unifiedBreak (c : Char) : Char := if c = '\r' || c = '\u0085' then '\n' else c

/-- Gives every character its place, from the given place on. -/
def placed (line column index : Nat) : List Char → List Glyph
  | [] => []
  | '\r' :: '\n' :: rest => ⟨'\n', line, column, index⟩ :: placed (line + 1) 0 (index + 2) rest
  | c :: rest =>
    if isBreak c then ⟨unifiedBreak c, line, column, index⟩ :: placed (line + 1) 0 (index + 1) rest
    else ⟨c, line, column, index⟩ :: placed line (column + 1) (index + 1) rest

/-- The characters of a text with their places; none if one of them is not allowed. -/
def glyphs? (text : String) : Option (List Glyph) :=
  if text.toList.all isAllowed then some (placed 0 0 0 text.toList) else none

namespace Glyph

def isBlank (glyph : Glyph) : Bool := glyph.char == ' ' || glyph.char == '\t'

def isBreak (glyph : Glyph) : Bool := Yaml.isBreak glyph.char

def isGap (glyph : Glyph) : Bool := glyph.isBlank || glyph.isBreak

end Glyph

/-- Whether a token may end before the given text. -/
def beginsGap (text : List Glyph) : Bool := text.head?.all Glyph.isGap

/-- Whether a text begins with one of the given characters. -/
def beginsWith (chars : List Char) (text : List Glyph) : Bool :=
  text.head?.any fun glyph => chars.contains glyph.char

/-- Whether a line begins with the mark of a document: three dashes or three dots on their
own. -/
def beginsMark : List Glyph → Bool
  | a :: b :: c :: rest =>
    a.column == 0 && (a.char == '-' || a.char == '.') && b.char == a.char && c.char == a.char
      && beginsGap rest
  | _ => false

def skipBlanks (text : List Glyph) : List Glyph := text.dropWhile Glyph.isBlank

/-- Skips the rest of a line, on which only a comment may stand. -/
def skipLine? (text : List Glyph) : Option (List Glyph) :=
  let rest := skipBlanks text
  let rest := if beginsWith ['#'] rest then rest.dropWhile (!·.isBreak) else rest
  match rest with
  | [] => some []
  | glyph :: rest => if glyph.isBreak then some rest else none

example : ((placed 0 0 0 "a\r\n\rb".toList).map fun glyph => (glyph.char, glyph.line, glyph.column,
      glyph.index))
    = [('a', 0, 0, 0), ('\n', 0, 1, 1), ('\n', 1, 0, 3), ('b', 2, 0, 4)] := by decide +kernel

end TypedQuery.Yaml
