/-!
# Tokens of YAML text

Indentation shows in the tokens: a block collection has a token before it and one after it,
and every key has one too, although no character stands for it.
-/

namespace TypedQuery.Yaml

/-- How a scalar is written. -/
inductive Style where
  | plain
  | quoted
  /-- A block text that keeps its line breaks. -/
  | literal
  /-- A block text that joins its lines. -/
  | folded
deriving DecidableEq

inductive Token where
  /-- The version of the language that a text names. -/
  | version (major minor : Nat)
  /-- What a handle of tags stands for. -/
  | handle (name expansion : String)
  | documentStart
  | documentEnd
  | sequenceStart
  | mappingStart
  | blockEnd
  | bracketOpen
  | bracketClose
  | braceOpen
  | braceClose
  | comma
  /-- The dash before an element. -/
  | dash
  | key
  | value
  | alias (name : String)
  | anchor (name : String)
  | tag (handle suffix : String)
  | scalar (text : String) (style : Style)
deriving DecidableEq

end TypedQuery.Yaml
