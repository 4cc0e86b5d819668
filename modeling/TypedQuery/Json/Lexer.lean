import TypedQuery.Json.Numeral
import TypedQuery.Text.Hex

/-!
# Tokens of JSON text

The lexer reads one character at a time. Between tokens it skips blanks; inside a token it
collects characters until the token ends. A string must be closed, holds no bare control
character, and its escapes name characters: a surrogate counts only as one half of a pair.
-/

namespace TypedQuery.Json

inductive Token where
  | openArray
  | closeArray
  | openObject
  | closeObject
  | comma
  | colon
  | text (value : String)
  | value (value : Json)

namespace Token

/-- Where the lexer stands: between tokens, or inside one whose characters so far are kept
last first. -/
inductive Mode where
  | between
  | word (read : List Char)
  | numeral (read : List Char)
  | text (read : List Char)
  | escape (read : List Char)
  | hex (read : List Char) (high : Option Nat) (digits : Nat) (code : Nat)
  | lowEscape (read : List Char) (high : Nat)
  | lowMark (read : List Char) (high : Nat)

/-- The tokens read so far, last first, and the mode. -/
structure State where
  tokens : List Token
  mode : Mode

def isNumeralChar (c : Char) : Bool :=
  c.isDigit || c == '-' || c == '+' || c == '.' || c == 'e' || c == 'E'

/-- The character that a letter after the backslash stands for. -/
def unescaped? : Char → Option Char
  | '"' => some '"'
  | '\\' => some '\\'
  | '/' => some '/'
  | 'b' => some '\x08'
  | 'f' => some '\x0c'
  | 'n' => some '\n'
  | 'r' => some '\r'
  | 't' => some '\t'
  | _ => none

/-- Ends the word or numeral that is being read, if one is. -/
def finish (state : State) : Option State :=
  match state.mode with
  | .between => some state
  | .word read =>
    let push (value : Json) : Option State := some ⟨.value value :: state.tokens, .between⟩
    match String.ofList read.reverse with
    | "null" => push .null
    | "true" => push (.bool true)
    | "false" => push (.bool false)
    | _ => none
  | .numeral read => do
    let number ← (← Numeral.ofChars? read.reverse).value?
    return ⟨.value (.number number) :: state.tokens, .between⟩
  | _ => none

/-- Reads a character that begins something new. -/
def start (tokens : List Token) (c : Char) : Option State :=
  let push (token : Token) : Option State := some ⟨token :: tokens, .between⟩
  match c with
  | ' ' | '\n' | '\r' | '\t' => some ⟨tokens, .between⟩
  | '[' => push .openArray
  | ']' => push .closeArray
  | '\x7b' => push .openObject
  | '\x7d' => push .closeObject
  | ',' => push .comma
  | ':' => push .colon
  | '"' => some ⟨tokens, .text []⟩
  | c =>
    if c.isDigit || c == '-' then some ⟨tokens, .numeral [c]⟩
    else if c.isLower then some ⟨tokens, .word [c]⟩
    else none

/-- Takes in the code of a finished `\u` escape. -/
def takeCode (tokens : List Token) (read : List Char) (high : Option Nat) (code : Nat) :
    Option State :=
  let isLow := 0xDC00 ≤ code ∧ code < 0xE000
  match high with
  | some high =>
    if isLow then
      let c := Char.ofNat (0x10000 + (high - 0xD800) * 0x400 + (code - 0xDC00))
      some ⟨tokens, .text (c :: read)⟩
    else none
  | none =>
    if 0xD800 ≤ code ∧ code < 0xDC00 then some ⟨tokens, .lowEscape read code⟩
    else if isLow then none
    else some ⟨tokens, .text (Char.ofNat code :: read)⟩

def step (state : State) (c : Char) : Option State :=
  let tokens := state.tokens
  match state.mode with
  | .between => start tokens c
  | .word read =>
    if c.isLower then some ⟨tokens, .word (c :: read)⟩
    else finish state >>= fun done => start done.tokens c
  | .numeral read =>
    if isNumeralChar c then some ⟨tokens, .numeral (c :: read)⟩
    else finish state >>= fun done => start done.tokens c
  | .text read =>
    if c = '"' then some ⟨.text (String.ofList read.reverse) :: tokens, .between⟩
    else if c = '\\' then some ⟨tokens, .escape read⟩
    else if c.toNat < 0x20 then none
    else some ⟨tokens, .text (c :: read)⟩
  | .escape read =>
    if c = 'u' then some ⟨tokens, .hex read none 0 0⟩
    else (unescaped? c).map fun plain => ⟨tokens, .text (plain :: read)⟩
  | .hex read high digits code => do
    let code := code * 16 + (← Text.hexValue? c)
    if digits = 3 then takeCode tokens read high code
    else some ⟨tokens, .hex read high (digits + 1) code⟩
  | .lowEscape read high => if c = '\\' then some ⟨tokens, .lowMark read high⟩ else none
  | .lowMark read high => if c = 'u' then some ⟨tokens, .hex read (some high) 0 0⟩ else none

/-- The tokens of a text, none if some part of it is no token. -/
def ofText? (text : String) : Option (List Token) := do
  let last ← text.toList.foldlM step ⟨[], .between⟩
  return (← finish last).tokens.reverse

end Token

end TypedQuery.Json
