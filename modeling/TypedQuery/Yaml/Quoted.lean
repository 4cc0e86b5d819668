import TypedQuery.Text.Hex
import TypedQuery.Yaml.Gap
import TypedQuery.Yaml.Glyph

/-!
# Texts in quotes

In single quotes a quote is written twice. In double quotes a backslash begins an escape: a
letter, the code of a character, or a line break that is to fall away. No line of a text in
quotes may begin with the mark of a document.
-/

namespace TypedQuery.Yaml

/-- Reads up to the single quote that closes the text. The flag tells that a quote has been
read and the next character decides whether it closes. -/
def readSingle : Bool → Gap → List Glyph → Option (List Char × List Glyph)
  | closing, _, [] => if closing then some ([], []) else none
  | true, _, glyph :: rest =>
    if glyph.char = '\'' then
      (readSingle false .empty rest).map fun (text, after) => ('\'' :: text, after)
    else some ([], glyph :: rest)
  | false, gap, glyph :: rest =>
    if glyph.isBlank then readSingle false (gap.addBlank glyph.char) rest
    else if glyph.isBreak then readSingle false (gap.addBreak glyph.char) rest
    else if beginsMark (glyph :: rest) then none
    else if glyph.char = '\'' then
      (readSingle true .empty rest).map fun (text, after) => (gap.text ++ text, after)
    else
      (readSingle false .empty rest).map fun (text, after) =>
        (gap.text ++ glyph.char :: text, after)

/-- Where the reader stands in an escape. -/
inductive EscapePart where
  | none
  | letter
  /-- Some digits of a code are still to come. -/
  | code (left read : Nat)

/-- The characters that one letter after a backslash stands for. -/
def escapeLetters : List (Char × Char) :=
  [('0', '\x00'), ('a', '\x07'), ('b', '\x08'), ('t', '\t'), ('\t', '\t'), ('n', '\n'),
    ('v', '\x0b'), ('f', '\x0c'), ('r', '\r'), ('e', '\x1b'), (' ', ' '), ('"', '"'), ('/', '/'),
    ('\\', '\\'), ('N', '\u0085'), ('_', '\u00a0'), ('L', '\u2028'), ('P', '\u2029')]

/-- How many digits of a code follow a letter. -/
def codeLength? : Char → Option Nat
  | 'x' => some 2
  | 'u' => some 4
  | 'U' => some 8
  | _ => none

/-- The character of a code, if it is one. -/
def charOfCode? (code : Nat) : Option Char :=
  if h : code.isValidChar then some (Char.ofNatAux code h) else none

/-- Reads up to the double quote that closes the text. -/
def readDouble : EscapePart → Gap → List Glyph → Option (List Char × List Glyph)
  | _, _, [] => none
  | .none, gap, glyph :: rest =>
    if glyph.isBlank then readDouble .none (gap.addBlank glyph.char) rest
    else if glyph.isBreak then readDouble .none (gap.addBreak glyph.char) rest
    else if beginsMark (glyph :: rest) then none
    else if glyph.char = '"' then some (gap.text, rest)
    else if glyph.char = '\\' then
      (readDouble .letter .empty rest).map fun (text, after) => (gap.text ++ text, after)
    else
      (readDouble .none .empty rest).map fun (text, after) =>
        (gap.text ++ glyph.char :: text, after)
  | .letter, _, glyph :: rest =>
    if glyph.isBreak then readDouble .none (.spliced []) rest
    else
      match codeLength? glyph.char with
      | some length => readDouble (.code length 0) .empty rest
      | none => do
        let meant ← escapeLetters.lookup glyph.char
        let (text, after) ← readDouble .none .empty rest
        return (meant :: text, after)
  | .code left read, _, glyph :: rest => do
    let code := read * 16 + (← Text.hexValue? glyph.char)
    if left ≤ 1 then
      let meant ← charOfCode? code
      let (text, after) ← readDouble .none .empty rest
      return (meant :: text, after)
    else readDouble (.code (left - 1) code) .empty rest

end TypedQuery.Yaml
