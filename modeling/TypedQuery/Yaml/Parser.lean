import TypedQuery.Entries
import TypedQuery.Yaml.Basic
import TypedQuery.Yaml.Lexer
import TypedQuery.Yaml.Meaning

/-!
# YAML documents

A text holds at most one document, which may be empty. Directives may come before the mark
at which it begins. A node that is missing where one may stand is left blank: an element
behind a dash, a key, a value. A sequence that is a value may stand at the column of its
key. In brackets a key with its value may be an element.
-/

namespace TypedQuery.Yaml

/-- What lies before the parser. -/
structure Parser where
  tokens : List Token
  /-- The numbers of the latest anchors by name. -/
  anchors : List (String × Nat) := []
  /-- What the handles of tags stand for. -/
  handles : List (String × String) := []

namespace Parser

abbrev Read := StateT Parser Option

def next? : Read (Option Token) := return (← get).tokens.head?

def skip : Read Unit := modify fun parser => { parser with tokens := parser.tokens.drop 1 }

/-- Skips the next token if it is the given one, and tells whether it is. -/
def accept (token : Token) : Read Bool := do
  if (← next?) = some token then
    skip
    return true
  else return false

def expect (token : Token) : Read Unit := do guard (← accept token)

/-- Whether the next token is one of the given ones. -/
def isNext (tokens : List Token) : Read Bool :=
  return (← next?).any tokens.contains

/-- The number of a new anchor is that of the names known before. -/
def newAnchor (name : String) : Read Nat := do
  let number := (← get).anchors.length
  modify fun parser => { parser with anchors := Entries.put parser.anchors name number }
  return number

/-- The node that an alias stands for. -/
def readAlias (name : String) : Read Yaml := do
  let some number := Entries.get? (← get).anchors name | failure
  return .alias number

def readAnchor : Read (Option Nat) := do
  match ← next? with
  | some (.anchor name) =>
    skip
    return some (← newAnchor name)
  | _ => return none

/-- What a handle stands for. Two of them need no directive. -/
def expansion? (handle : String) : Read (Option String) :=
  return (Entries.get? ((← get).handles ++ [("", ""), ("!", "!"), ("!!", coreHandle)]) handle)

def readTag : Read (Option String) := do
  match ← next? with
  | some (.tag handle suffix) =>
    skip
    let some expansion ← expansion? handle | failure
    return some (expansion ++ suffix)
  | _ => return none

/-- Reads an anchor and a tag, in either order. -/
def readProperties : Read Properties := do
  match ← readAnchor with
  | some number => return { anchor := some number, tag := ← readTag }
  | none =>
    let tag ← readTag
    return { tag, anchor := ← readAnchor }

/-- A lone exclamation mark before a text is no tag. -/
def Properties.ofScalar (properties : Properties) : Properties :=
  { properties with tag := properties.tag.filter (· ≠ "!") }

/-- Where a node may stand. -/
inductive Site where
  /-- In brackets. -/
  | flow
  | block
  /-- In an entry of a block mapping, where a sequence need not be indented. -/
  | entry
deriving DecidableEq

mutual

/-- Reads a node. The number bounds the steps. -/
def readNode (fuel : Nat) (site : Site) : Read Yaml :=
  match fuel with
  | 0 => failure
  | fuel + 1 => do
    if let some (.alias name) := ← next? then
      skip
      return ← readAlias name
    let properties ← readProperties
    match ← next? with
    | some (.scalar text style) =>
      skip
      return .scalar (Properties.ofScalar properties) text style
    | some .bracketOpen =>
      skip
      return .sequence properties (← readElements fuel true)
    | some .braceOpen =>
      skip
      return .mapping properties (← readEntries fuel true)
    | some .sequenceStart =>
      guard (site ≠ .flow)
      skip
      return .sequence properties (← readBlockElements fuel)
    | some .mappingStart =>
      guard (site ≠ .flow)
      skip
      return .mapping properties (← readBlockEntries fuel)
    | token =>
      if token = some .dash && site = .entry then
        return .sequence properties (← readEntryElements fuel)
      guard (properties.tag.isSome ∨ properties.anchor.isSome)
      return .scalar properties "" .plain

/-- Reads a node unless one of the given tokens comes next; then the node is blank. -/
def readNodeUnless (fuel : Nat) (site : Site) (ends : List Token) : Read Yaml :=
  match fuel with
  | 0 => failure
  | fuel + 1 => do
    if ← isNext ends then return blank else readNode fuel site

/-- Reads the elements of a block. -/
def readBlockElements (fuel : Nat) : Read (List Yaml) :=
  match fuel with
  | 0 => failure
  | fuel + 1 => do
    if ← accept .blockEnd then return []
    expect .dash
    let element ← readNodeUnless fuel .block [.dash, .blockEnd]
    return element :: (← readBlockElements fuel)

/-- Reads the elements of a sequence at the column of its key. -/
def readEntryElements (fuel : Nat) : Read (List Yaml) :=
  match fuel with
  | 0 => failure
  | fuel + 1 => do
    if ← accept .dash then
      let element ← readNodeUnless fuel .block [.dash, .key, .value, .blockEnd]
      return element :: (← readEntryElements fuel)
    else return []

/-- Reads the entries of a block. -/
def readBlockEntries (fuel : Nat) : Read (List (Yaml × Yaml)) :=
  match fuel with
  | 0 => failure
  | fuel + 1 => do
    if ← accept .blockEnd then return []
    expect .key
    let key ← readNodeUnless fuel .entry [.key, .value, .blockEnd]
    let value ← readValue fuel .entry [.key, .value, .blockEnd]
    return (key, value) :: (← readBlockEntries fuel)

/-- Reads a value behind its colon; without a colon it is blank. -/
def readValue (fuel : Nat) (site : Site) (ends : List Token) : Read Yaml :=
  match fuel with
  | 0 => failure
  | fuel + 1 => do
    if ← accept .value then readNodeUnless fuel site ends else return blank

/-- Reads the elements in brackets; a comma comes before each but the first. -/
def readElements (fuel : Nat) (first : Bool) : Read (List Yaml) :=
  match fuel with
  | 0 => failure
  | fuel + 1 => do
    if ← accept .bracketClose then return []
    if !first then expect .comma
    if ← accept .key then
      let pair ← readPair fuel
      return pair :: (← readElements fuel false)
    if ← accept .bracketClose then return []
    let element ← readNode fuel .flow
    return element :: (← readElements fuel false)

/-- Reads an element that is a key with its value. The token behind a blank key is passed
over. -/
def readPair (fuel : Nat) : Read Yaml :=
  match fuel with
  | 0 => failure
  | fuel + 1 => do
    let ends : List Token := [.comma, .bracketClose]
    let isBlank ← isNext (.value :: ends)
    let key ← readNodeUnless fuel .flow (.value :: ends)
    if isBlank then skip
    let value ← readValue fuel .flow ends
    return .mapping {} [(key, value)]

/-- Reads the entries in braces; a comma comes before each but the first. A key without a
mark has no value. -/
def readEntries (fuel : Nat) (first : Bool) : Read (List (Yaml × Yaml)) :=
  match fuel with
  | 0 => failure
  | fuel + 1 => do
    let ends : List Token := [.comma, .braceClose]
    if ← accept .braceClose then return []
    if !first then expect .comma
    if ← accept .key then
      let key ← readNodeUnless fuel .flow (.value :: ends)
      let value ← readValue fuel .flow ends
      return (key, value) :: (← readEntries fuel false)
    if ← accept .braceClose then return []
    let key ← readNode fuel .flow
    return (key, blank) :: (← readEntries fuel false)

end

/-- The version that a directive tells. -/
def versionOf? : Token → Option (Nat × Nat)
  | .version major minor => some (major, minor)
  | _ => none

/-- The handle of which a directive tells. -/
def handleOf? : Token → Option (String × String)
  | .handle name expansion => some (name, expansion)
  | _ => none

def isDirective (token : Token) : Bool := (versionOf? token).isSome || (handleOf? token).isSome

/-- Reads the directives of a document. One may tell the version, and no handle comes
twice. -/
def readDirectives : Read Unit := do
  let directives := (← get).tokens.takeWhile isDirective
  let versions := directives.filterMap versionOf?
  let handles := directives.filterMap handleOf?
  guard (versions.length ≤ 1 ∧ versions.all [(1, 1), (1, 2)].contains)
  guard (Entries.keys handles).Nodup
  modify fun parser => { parser with handles, tokens := parser.tokens.drop directives.length }

/-- Reads the root of the only document; none if there is no document. -/
def readRoot : Read (Option Yaml) := do
  let tokens := (← get).tokens
  let fuel := 4 * tokens.length + 4
  match tokens with
  | [] => return none
  | first :: _ =>
    if isDirective first || first = .documentStart then
      readDirectives
      expect .documentStart
      let tokens := (← get).tokens
      if tokens.head?.all fun token =>
          isDirective token || token = .documentStart || token = .documentEnd then
        return some blank
      else return some (← readNode fuel .block)
    else return some (← readNode fuel .block)

end Parser

/-- The root of the document that a text holds, if any. -/
def parse? (text : String) : Option (Option Yaml) := do
  let (root, parser) ← Parser.readRoot.run { tokens := ← tokens? text }
  guard (parser.tokens.all (· = .documentEnd))
  return root

end TypedQuery.Yaml
