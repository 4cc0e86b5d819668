import TypedQuery.Text.Percent

/-!
# Routes

A route is a path with parameters. A colon begins a parameter that captures what stands at
its place up to the next slash, which may be nothing; a star begins one that captures the
rest of the path, which may not be nothing. The name goes on to the next slash.
-/

namespace TypedQuery.Server

/-- A part of a route. -/
inductive Piece where
  | fixed (text : List Char)
  | parameter (name : List Char)
  | remainder (name : List Char)
deriving DecidableEq

namespace Route

/-- Splits off the name that pieces begin with. -/
def splitName : List Piece → List Char × List Piece
  | .fixed text :: rest =>
    let name := text.takeWhile (· ≠ '/')
    let after := text.drop name.length
    (name, if after = [] then rest else .fixed after :: rest)
  | pieces => ([], pieces)

/-- Puts a character before pieces. -/
def addChar (c : Char) (pieces : List Piece) : List Piece :=
  if c = ':' then
    let (name, rest) := splitName pieces
    .parameter name :: rest
  else if c = '*' then
    let (name, rest) := splitName pieces
    .remainder name :: rest
  else
    match pieces with
    | .fixed text :: rest => .fixed (c :: text) :: rest
    | pieces => .fixed [c] :: pieces

/-- The pieces of a route, in order. -/
def pieces (route : String) : List Piece := route.toList.foldr addChar []

/-- The names of the parameters of a route, in order. -/
def names (route : String) : List String :=
  (pieces route).filterMap fun
    | .fixed _ => none
    | .parameter name | .remainder name => some (String.ofList name)

/-- The decoded parameters of a route by name, each name once with its last value, given
what they capture; none if something captured does not decode to text. -/
def parameters? (route : String) (captured : List (List Char)) :
    Option (List (String × String)) := do
  let values ← captured.mapM fun part => Text.decodePathPart? (String.ofList part)
  return Entries.ofList ((names route).zip values)

end Route

example : Route.pieces "/a/:b/c/*d"
    = [.fixed "/a/".toList, .parameter ['b'], .fixed "/c/".toList, .remainder ['d']] := by
  decide +kernel

end TypedQuery.Server
