import TypedQuery.Yaml.Glyph

/-!
# Block texts

A block text stands on lines of its own, below a header that may tell its indentation and
what becomes of the line breaks at its end. Without a word on it, the indentation is that of
the first line that holds text. A literal text keeps its line breaks; a folded one joins
neighbouring lines that do not begin with a blank.
-/

namespace TypedQuery.Yaml

/-- What becomes of the line breaks at the end of a block text. -/
inductive Chomping where
  | strip
  /-- The first one is kept. -/
  | clip
  | keep
deriving DecidableEq

structure BlockHeader where
  chomping : Chomping
  /-- How much further than its surroundings the text is indented, if the header tells. -/
  increment : Option Nat

def splitChomping (text : List Glyph) : Option Chomping × List Glyph :=
  if beginsWith ['+'] text then (some .keep, text.drop 1)
  else if beginsWith ['-'] text then (some .strip, text.drop 1)
  else (none, text)

/-- Splits off the digit of an indentation, which cannot be zero. -/
def splitIncrement? : List Glyph → Option (Option Nat × List Glyph)
  | [] => some (none, [])
  | glyph :: rest =>
    if glyph.char = '0' then none
    else if glyph.char.isDigit then some (some (glyph.char.toNat - 48), rest)
    else some (none, glyph :: rest)

/-- Reads a header with the rest of its line. The two marks may come in either order. -/
def readHeader? (text : List Glyph) : Option (BlockHeader × List Glyph) := do
  let (before, rest) := splitChomping text
  let (increment, rest) ← splitIncrement? rest
  let (after, rest) :=
    if before.isNone && increment.isSome then splitChomping rest else (none, rest)
  let rest ← skipLine? rest
  return ({ chomping := (before <|> after).getD .clip, increment }, rest)

/-- The text read so far; characters stand last first. -/
structure BlockReader where
  /-- The column at which lines begin, zero as long as it is open. -/
  indent : Nat
  /-- The furthest column that a line without text has reached. -/
  widest : Nat := 0
  inLine : Bool := false
  text : List Char := []
  /-- The break that ended the last line with text. -/
  lineBreak : List Char := []
  /-- The breaks after it. -/
  breaks : List Char := []
  /-- Whether the last line with text begins with a blank. -/
  indented : Bool := false

namespace BlockReader

/-- Begins a line with its first character. -/
def beginLine (reader : BlockReader) (folded : Bool) (indent : Nat) (glyph : Glyph) :
    BlockReader :=
  let joins := folded && reader.lineBreak = ['\n'] && !reader.indented && !glyph.isBlank
  let between :=
    if !joins then reader.lineBreak else if reader.breaks = [] then [' '] else []
  { indent, inLine := true, indented := glyph.isBlank,
    text := glyph.char :: (reader.breaks ++ between ++ reader.text) }

/-- The text as it is chomped. -/
def result (reader : BlockReader) (chomping : Chomping) : List Char :=
  reader.text.reverse ++ (if chomping = .strip then [] else reader.lineBreak)
    ++ (if chomping = .keep then reader.breaks.reverse else [])

end BlockReader

/-- Reads the lines of a block text, which are indented at least to the margin. Tabs do not
indent. -/
def readBlock (folded : Bool) (chomping : Chomping) (margin : Nat) :
    BlockReader → List Glyph → Option (List Char × List Glyph)
  | reader, [] => some (reader.result chomping, [])
  | reader, glyph :: rest =>
    if reader.inLine then
      if glyph.isBreak then
        readBlock folded chomping margin
          { reader with inLine := false, lineBreak := [glyph.char] } rest
      else
        readBlock folded chomping margin { reader with text := glyph.char :: reader.text } rest
    else if glyph.isBlank && (reader.indent = 0 || glyph.column < reader.indent) then
      if glyph.char = '\t' then none else readBlock folded chomping margin reader rest
    else
      let widest := max reader.widest glyph.column
      if glyph.isBreak then
        readBlock folded chomping margin
          { reader with widest, breaks := glyph.char :: reader.breaks } rest
      else
        let indent := if reader.indent = 0 then max (max widest margin) 1 else reader.indent
        if glyph.column = indent then
          readBlock folded chomping margin (reader.beginLine folded indent glyph) rest
        else some (reader.result chomping, glyph :: rest)

/-- Reads a block text behind its sign. The enclosing block is indented to the given column,
if there is one. -/
def readBlockText? (folded : Bool) (enclosing : Option Nat) (text : List Glyph) :
    Option (List Char × List Glyph) := do
  let (header, rest) ← readHeader? text
  let indent := match header.increment with
    | none => 0
    | some increment => enclosing.getD 0 + increment
  readBlock folded header.chomping (enclosing.elim 0 (· + 1)) { indent } rest

example : ((glyphs? "-\n  a\n  b\n\n   c\n").bind (readBlockText? true none)).map
      (fun (text, rest) => (String.ofList text, rest.length))
    = some ("a b\n\n c", 0) := by decide +kernel

end TypedQuery.Yaml
