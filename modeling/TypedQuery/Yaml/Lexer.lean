import TypedQuery.Yaml.BlockText
import TypedQuery.Yaml.Plain
import TypedQuery.Yaml.Property
import TypedQuery.Yaml.Quoted

/-!
# Reading tokens

Block collections open where a token is indented further than the innermost one, and close
where a token is indented less. That a token is a key shows only at the colon behind it, so
the lexer remembers the latest token that can be a key, one for each open bracket. Such a
token fits on one line with its colon and is no more than 1024 characters before it. Where a
block goes on with a token at its own column, this token has to be a key.
-/

namespace TypedQuery.Yaml

/-- A token that can be a key. -/
structure Candidate where
  /-- How many tokens come before it. -/
  position : Nat
  place : Glyph
  /-- Whether it has to be a key. -/
  required : Bool

/-- Whether a token before the given place can no longer be a key there. -/
def Candidate.isStale (candidate : Candidate) (place : Glyph) : Bool :=
  candidate.place.line < place.line || candidate.place.index + 1024 < place.index

structure Lexer where
  /-- The tokens read so far, last first. -/
  tokens : List Token := []
  /-- The columns of the open blocks, innermost first. -/
  indents : List Nat := []
  candidate : Option Candidate := none
  /-- The candidates outside each open bracket, innermost first. -/
  outer : List (Option Candidate) := []
  /-- Whether the next token can be a key. -/
  keyAllowed : Bool := true

namespace Lexer

def inFlow (lexer : Lexer) : Bool := !lexer.outer.isEmpty

def emit (lexer : Lexer) (token : Token) : Lexer := { lexer with tokens := token :: lexer.tokens }

/-- Puts a token before those from a position on. -/
def insertAt (lexer : Lexer) (position : Nat) (token : Token) : Lexer :=
  { lexer with tokens := lexer.tokens.insertIdx (lexer.tokens.length - position) token }

def allowKey (lexer : Lexer) (keyAllowed : Bool) : Lexer := { lexer with keyAllowed }

/-- Gives up the candidate; none if it has to be a key. -/
def dropCandidate? (lexer : Lexer) : Option Lexer :=
  if lexer.candidate.any Candidate.required then none
  else some { lexer with candidate := none }

/-- Remembers the next token as a candidate, if it can be one. -/
def saveCandidate? (lexer : Lexer) (place : Glyph) : Option Lexer :=
  if lexer.keyAllowed then
    lexer.dropCandidate?.map fun lexer =>
      let required := !lexer.inFlow && lexer.indents.head? == some place.column
      { lexer with candidate := some { position := lexer.tokens.length, place, required } }
  else some lexer

/-- Keeps a candidate as long as it can be a key; none if it has to be one and cannot. -/
def freshCandidate? (place : Glyph) : Option Candidate → Option (Option Candidate)
  | none => some none
  | some candidate =>
    if !candidate.isStale place then some (some candidate)
    else if candidate.required then none
    else some none

/-- Gives up the candidates that can no longer be keys. -/
def dropStale? (lexer : Lexer) (place : Glyph) : Option Lexer := do
  let candidate ← freshCandidate? place lexer.candidate
  let outer ← lexer.outer.mapM (freshCandidate? place)
  return { lexer with candidate, outer }

/-- Opens a block whose first token stands at a position, if its column is further than that
of the innermost block. -/
def openBlock (lexer : Lexer) (column position : Nat) (start : Token) : Lexer :=
  if lexer.inFlow || !lexer.indents.head?.all (· < column) then lexer
  else { lexer.insertAt position start with indents := column :: lexer.indents }

/-- Closes the blocks for which the test holds of their column. -/
def closeBlocks (lexer : Lexer) (test : Nat → Bool) : Lexer :=
  if lexer.inFlow then lexer
  else
    let closed := lexer.indents.takeWhile test
    { lexer with
      tokens := closed.map (fun _ => .blockEnd) ++ lexer.tokens,
      indents := lexer.indents.drop closed.length }

/-- Reads an opening bracket. -/
def openBracket? (lexer : Lexer) (place : Glyph) (token : Token) : Option Lexer :=
  (lexer.saveCandidate? place).map fun lexer =>
    { lexer.emit token with
      candidate := none, outer := lexer.candidate :: lexer.outer, keyAllowed := true }

/-- Reads a closing bracket. -/
def closeBracket? (lexer : Lexer) (token : Token) : Option Lexer :=
  lexer.dropCandidate?.map fun lexer =>
    { lexer.emit token with
      candidate := lexer.outer.head?.join, outer := lexer.outer.drop 1, keyAllowed := false }

def comma? (lexer : Lexer) : Option Lexer :=
  lexer.dropCandidate?.map fun lexer => (lexer.emit .comma).allowKey true

/-- Begins an entry of a block at its mark, where no colon comes first. -/
def beginEntry? (lexer : Lexer) (place : Glyph) (start : Token) : Option Lexer :=
  if lexer.inFlow then some lexer
  else if lexer.keyAllowed then some (lexer.openBlock place.column lexer.tokens.length start)
  else none

/-- Reads the dash before an element. -/
def dash? (lexer : Lexer) (place : Glyph) : Option Lexer := do
  let lexer ← lexer.beginEntry? place .sequenceStart
  let lexer ← lexer.dropCandidate?
  return (lexer.emit .dash).allowKey true

/-- Reads the question mark before a key. -/
def key? (lexer : Lexer) (place : Glyph) : Option Lexer := do
  let lexer ← lexer.beginEntry? place .mappingStart
  let lexer ← lexer.dropCandidate?
  return (lexer.emit .key).allowKey (!lexer.inFlow)

/-- Reads the colon before a value. If there is a candidate, it is the key. -/
def colon? (lexer : Lexer) (place : Glyph) : Option Lexer :=
  match lexer.candidate with
  | some { position, place, .. } =>
    let lexer := { lexer.insertAt position .key with candidate := none }
    let lexer := lexer.openBlock place.column position .mappingStart
    some ((lexer.emit .value).allowKey false)
  | none => do
    let lexer ← lexer.beginEntry? place .mappingStart
    return (lexer.emit .value).allowKey (!lexer.inFlow)

/-- Reads a token that can be a key or a part of one. -/
def keyToken? (lexer : Lexer) (place : Glyph) (token : Token) : Option Lexer :=
  (lexer.saveCandidate? place).map fun lexer => (lexer.emit token).allowKey false

/-- Reads a mark or a directive, with which all blocks close. -/
def boundary? (lexer : Lexer) (token : Token) : Option Lexer :=
  (lexer.closeBlocks fun _ => true).dropCandidate?.map fun lexer =>
    (lexer.emit token).allowKey false

/-- Reads a block text behind its sign. -/
def readBlockText? (lexer : Lexer) (style : Style) (rest : List Glyph) :
    Option (Lexer × List Glyph) := do
  let lexer ← lexer.dropCandidate?
  let (text, rest) ← Yaml.readBlockText? (style = .folded) lexer.indents.head? rest
  return ((lexer.emit (.scalar (String.ofList text) style)).allowKey true, rest)

/-- Reads a plain text. After a gap that goes over the end of a line there may be a key. -/
def readPlainText? (lexer : Lexer) (glyph : Glyph) (rest : List Glyph) :
    Option (Lexer × List Glyph) := do
  guard (startsPlain lexer.inFlow glyph rest)
  let margin := lexer.indents.head?.elim 0 (· + 1)
  let (text, broken, rest) ← readPlain margin lexer.inFlow .empty (glyph :: rest)
  let lexer ← lexer.keyToken? glyph (.scalar (String.ofList text) .plain)
  return (lexer.allowKey broken, rest)

/-- Reads the token that begins with a character. -/
def readToken? (lexer : Lexer) (glyph : Glyph) (rest : List Glyph) :
    Option (Lexer × List Glyph) := do
  if glyph.column = 0 && glyph.char = '%' then
    let (directive, rest) ← readDirective? rest
    return (← lexer.boundary? directive, rest)
  if beginsMark (glyph :: rest) then
    let mark := if glyph.char = '-' then Token.documentStart else .documentEnd
    return (← lexer.boundary? mark, rest.drop 2)
  let before := lexer.inFlow || beginsGap rest
  match glyph.char with
  | '[' => return (← lexer.openBracket? glyph .bracketOpen, rest)
  | '\x7b' => return (← lexer.openBracket? glyph .braceOpen, rest)
  | ']' => return (← lexer.closeBracket? .bracketClose, rest)
  | '\x7d' => return (← lexer.closeBracket? .braceClose, rest)
  | ',' => return (← lexer.comma?, rest)
  | '-' =>
    if beginsGap rest then return (← lexer.dash? glyph, rest) else lexer.readPlainText? glyph rest
  | '?' => if before then return (← lexer.key? glyph, rest) else lexer.readPlainText? glyph rest
  | ':' => if before then return (← lexer.colon? glyph, rest) else lexer.readPlainText? glyph rest
  | '*' =>
    let (name, rest) ← readName? rest
    return (← lexer.keyToken? glyph (.alias name), rest)
  | '&' =>
    let (name, rest) ← readName? rest
    return (← lexer.keyToken? glyph (.anchor name), rest)
  | '!' =>
    let (tag, rest) ← readTag? lexer.inFlow rest
    return (← lexer.keyToken? glyph tag, rest)
  | '|' => if lexer.inFlow then none else lexer.readBlockText? .literal rest
  | '>' => if lexer.inFlow then none else lexer.readBlockText? .folded rest
  | '\'' =>
    let (text, rest) ← readSingle false .empty rest
    return (← lexer.keyToken? glyph (.scalar (String.ofList text) .quoted), rest)
  | '"' =>
    let (text, rest) ← readDouble .none .empty rest
    return (← lexer.keyToken? glyph (.scalar (String.ofList text) .quoted), rest)
  | _ => lexer.readPlainText? glyph rest

/-- Skips blanks, comments and line breaks before a token. Tabs may only stand where no key
can begin. After a line break outside brackets there can be a key. A byte order mark may
begin a line. -/
def skipToToken (inFlow : Bool) : (keyAllowed inComment : Bool) → List Glyph → Bool × List Glyph
  | keyAllowed, _, [] => (keyAllowed, [])
  | keyAllowed, inComment, glyph :: rest =>
    if glyph.isBreak then skipToToken inFlow (keyAllowed || !inFlow) false rest
    else if inComment || glyph.char = '#' then skipToToken inFlow keyAllowed true rest
    else if glyph.char = ' ' || (glyph.char = '\t' && (inFlow || !keyAllowed))
        || (glyph.char = '\uFEFF' && glyph.column = 0) then
      skipToToken inFlow keyAllowed false rest
    else (keyAllowed, glyph :: rest)

/-- Reads tokens to the end of the text. The number bounds how many. -/
def run? : Nat → Lexer → List Glyph → Option (List Token)
  | 0, _, _ => none
  | fuel + 1, lexer, text => do
    let (keyAllowed, text) := skipToToken lexer.inFlow lexer.keyAllowed false text
    match text with
    | [] =>
      let lexer ← (lexer.closeBlocks fun _ => true).dropCandidate?
      return lexer.tokens.reverse
    | glyph :: rest =>
      let lexer ← (lexer.allowKey keyAllowed).dropStale? glyph
      let (lexer, rest) ← (lexer.closeBlocks (glyph.column < ·)).readToken? glyph rest
      run? fuel lexer rest

end Lexer

/-- The tokens of a text. -/
def tokens? (text : String) : Option (List Token) := do
  let glyphs ← glyphs? text
  Lexer.run? (glyphs.length + 1) {} glyphs

example : tokens? "a: [b]\nc:\n- d # e\n" = some [.mappingStart, .key, .scalar "a" .plain, .value,
      .bracketOpen, .scalar "b" .plain, .bracketClose, .key, .scalar "c" .plain, .value, .dash,
      .scalar "d" .plain, .blockEnd] := by decide +kernel

end TypedQuery.Yaml
