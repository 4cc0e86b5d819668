import TypedQuery.Json.Lexer

/-!
# Reading JSON text

The parser runs over the tokens once, with a stack of the containers that are still open.
A member name that comes again keeps its first place and takes the last value. Containers
nest at most 127 deep.
-/

namespace TypedQuery.Json

/-- A container that is still open: its elements, last first, or its members so far and the
name of the member being read. -/
inductive Frame where
  | array (read : List Json)
  | object (read : List (String × Json)) (key : String)

/-- What may come next. The containers that are still open stand beside it. -/
inductive Expecting where
  | value
  /-- An element, or the end of the array that was just opened. -/
  | element
  /-- A member name, or the end of the object that was just opened. -/
  | member
  | key (read : List (String × Json))
  | colon (read : List (String × Json)) (key : String)
  /-- A value was just completed. -/
  | rest (value : Json)

structure Parser where
  frames : List Frame
  expecting : Expecting

/-- How many containers may be open at once. -/
def depthLimit : Nat := 127

namespace Parser

/-- Reads the first token of a value. -/
def startValue (frames : List Frame) (token : Token) : Option Parser :=
  match token with
  | .value value => some ⟨frames, .rest value⟩
  | .text value => some ⟨frames, .rest (.string value)⟩
  | .openArray =>
    if frames.length < depthLimit then some ⟨.array [] :: frames, .element⟩ else none
  | .openObject => if frames.length < depthLimit then some ⟨frames, .member⟩ else none
  | _ => none

def step (parser : Parser) (token : Token) : Option Parser :=
  match parser.expecting with
  | .value => startValue parser.frames token
  | .element =>
    match token, parser.frames with
    | .closeArray, .array _ :: frames => some ⟨frames, .rest (.array [])⟩
    | _, frames => startValue frames token
  | .member =>
    match token with
    | .closeObject => some ⟨parser.frames, .rest (.object [])⟩
    | .text key => some ⟨parser.frames, .colon [] key⟩
    | _ => none
  | .key read =>
    match token with
    | .text key => some ⟨parser.frames, .colon read key⟩
    | _ => none
  | .colon read key =>
    match token with
    | .colon => some ⟨.object read key :: parser.frames, .value⟩
    | _ => none
  | .rest value =>
    match token, parser.frames with
    | .comma, .array read :: frames => some ⟨.array (value :: read) :: frames, .value⟩
    | .closeArray, .array read :: frames =>
      some ⟨frames, .rest (.array (value :: read).reverse)⟩
    | .comma, .object read key :: frames => some ⟨frames, .key (Entries.put read key value)⟩
    | .closeObject, .object read key :: frames =>
      some ⟨frames, .rest (.object (Entries.put read key value))⟩
    | _, _ => none

end Parser

/-- The value that a text denotes, none if the text is not JSON from end to end. -/
def parse? (text : String) : Option Json := do
  let last ← (← Token.ofText? text).foldlM Parser.step ⟨[], .value⟩
  match last with
  | ⟨[], .rest value⟩ => return value
  | _ => none

end TypedQuery.Json
