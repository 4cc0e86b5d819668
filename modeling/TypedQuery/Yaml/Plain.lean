import TypedQuery.Yaml.Gap
import TypedQuery.Yaml.Glyph

/-!
# Plain texts

A plain text does not begin with a character that has a use of its own. It ends before a
colon that a gap follows, before a comment, and before a line that is indented less; inside
brackets it ends at their signs.
-/

namespace TypedQuery.Yaml

/-- The signs of collections in brackets. -/
def flowSigns : List Char := [',', '[', ']', '\x7b', '\x7d']

/-- The characters that have a use of their own at the start of a token. -/
def indicators : List Char :=
  ['-', '?', ':', '#', '&', '*', '!', '|', '>', '\'', '"', '%', '@', '\x60'] ++ flowSigns

/-- Whether a token that begins with the given character is a plain text. -/
def startsPlain (inFlow : Bool) (glyph : Glyph) (rest : List Glyph) : Bool :=
  if glyph.isGap then false
  else if glyph.char = '-' then !beginsGap rest
  else if glyph.char = '?' || glyph.char = ':' then !inFlow && !beginsGap rest
  else !indicators.contains glyph.char

/-- Whether a plain text ends at the first character after a gap. -/
def endsAfterGap (margin : Nat) (inFlow : Bool) (glyph : Glyph) (rest : List Glyph) : Bool :=
  (!inFlow && glyph.column < margin) || glyph.char == '#' || beginsMark (glyph :: rest)

/-- Whether a character ends a plain text wherever it stands. -/
def endsPlain (inFlow : Bool) (glyph : Glyph) (rest : List Glyph) : Bool :=
  (glyph.char == ':' && beginsGap rest) || (inFlow && flowSigns.contains glyph.char)

/-- Inside brackets a colon may not stand before a sign. -/
def isMisplacedColon (inFlow : Bool) (glyph : Glyph) (rest : List Glyph) : Bool :=
  inFlow && glyph.char == ':' && beginsWith ('?' :: flowSigns) rest

/-- Reads a plain text whose further lines are indented to the margin. Besides the text and
what comes after it, tells whether the gap before that goes over the end of a line. Tabs do
not indent. -/
def readPlain (margin : Nat) (inFlow : Bool) :
    Gap → List Glyph → Option (List Char × Bool × List Glyph)
  | gap, [] => some ([], gap.isBroken, [])
  | gap, glyph :: rest =>
    if glyph.isBlank then
      if gap.isBroken && glyph.char = '\t' && glyph.column < margin then none
      else readPlain margin inFlow (gap.addBlank glyph.char) rest
    else if glyph.isBreak then readPlain margin inFlow (gap.addBreak glyph.char) rest
    else if !gap.isEmpty && endsAfterGap margin inFlow glyph rest then
      some ([], gap.isBroken, glyph :: rest)
    else if isMisplacedColon inFlow glyph rest then none
    else if endsPlain inFlow glyph rest then some ([], gap.isBroken, glyph :: rest)
    else
      (readPlain margin inFlow .empty rest).map fun (text, broken, after) =>
        (gap.text ++ glyph.char :: text, broken, after)

end TypedQuery.Yaml
