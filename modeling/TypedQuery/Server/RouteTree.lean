import TypedQuery.Server.Route

/-!
# Trees of routes

Routes with a common beginning share the branch that spells it. A path is matched from the
root on: fixed text goes before a parameter, and where the fixed text leads to no route, the
search comes back to the latest parameter that it has passed by. A slash at the end of a
path is not made up for: where only the slash makes a path differ from a route on its way,
in either direction, the search stops for good, even if another route would match.
-/

namespace TypedQuery.Server

mutual

/-- Routes that go on with the same text. No two branches begin with the same character. -/
inductive RouteTree where
  | node (label : List Char) (route : Option String) (branches : List RouteTree) (wild : Wild)

/-- How routes go on with a parameter. -/
inductive Wild where
  | absent
  | parameter (route : String)
  | parameterThen (route : Option String) (below : RouteTree)
  | remainder (route : String)

end

namespace RouteTree

def label : RouteTree → List Char
  | .node label _ _ _ => label

/-- The route that ends with the label. -/
def route? : RouteTree → Option String
  | .node _ route _ _ => route

def beginsWith (c : Char) (tree : RouteTree) : Bool := tree.label.head? == some c

mutual

/-- The tree of one route, given by its pieces from a fixed one on. -/
def ofPieces? (route : String) : List Piece → Option RouteTree
  | .fixed text :: rest =>
    match rest with
    | [] => some (.node text (some route) [] .absent)
    | rest => (wildOfPieces? route rest).map fun wild => .node text none [] wild
  | _ => none
termination_by structural pieces => pieces

/-- The same from a parameter on. -/
def wildOfPieces? (route : String) : List Piece → Option Wild
  | .parameter _ :: rest =>
    match rest with
    | [] => some (.parameter route)
    | rest => (ofPieces? route rest).map fun below => .parameterThen none below
  | [.remainder _] => some (.remainder route)
  | _ => none
termination_by structural pieces => pieces

end

/-- What two texts have in common at their beginning, and how each goes on. -/
def splitCommon : List Char → List Char → List Char × List Char × List Char
  | a :: as, b :: bs =>
    if a = b then
      let (common, restA, restB) := splitCommon as bs
      (a :: common, restA, restB)
    else ([], a :: as, b :: bs)
  | as, bs => ([], as, bs)

mutual

/-- Puts a route into a tree, given its pieces from a fixed one on; none if it clashes with
another route. -/
def insert? (route : String) (text : List Char) (rest : List Piece) :
    RouteTree → Option RouteTree
  | .node label held branches wild =>
    match splitCommon label text with
    | (common, [], []) =>
      match rest with
      | [] => if held.isNone then some (.node common (some route) branches wild) else none
      | rest => (insertWild? route rest wild).map fun wild => .node common held branches wild
    | (common, [], c :: text) =>
      (insertBranch? route c text rest branches).map fun branches =>
        .node common held branches wild
    | (common, label, []) =>
      let lower := RouteTree.node label held branches wild
      match rest with
      | [] => some (.node common (some route) [lower] .absent)
      | rest => (wildOfPieces? route rest).map fun wild => .node common none [lower] wild
    | (common, label, text) =>
      (ofPieces? route (.fixed text :: rest)).map fun branch =>
        .node common none [.node label held branches wild, branch] .absent
termination_by structural tree => tree

/-- Puts a route into the branch that begins with its next character. -/
def insertBranch? (route : String) (c : Char) (text : List Char) (rest : List Piece) :
    List RouteTree → Option (List RouteTree)
  | [] => (ofPieces? route (.fixed (c :: text) :: rest)).map fun branch => [branch]
  | branch :: branches =>
    if branch.beginsWith c then
      (insert? route (c :: text) rest branch).map fun branch => branch :: branches
    else (insertBranch? route c text rest branches).map fun branches => branch :: branches
termination_by structural branches => branches

/-- Puts a route behind the same text, given its pieces from a parameter on. -/
def insertWild? (route : String) (rest : List Piece) : Wild → Option Wild
  | .absent => wildOfPieces? route rest
  | .parameter held =>
    match rest with
    | .parameter _ :: .fixed text :: rest =>
      (ofPieces? route (.fixed text :: rest)).map fun below => .parameterThen (some held) below
    | _ => none
  | .parameterThen held below =>
    match rest with
    | [.parameter _] => if held.isNone then some (.parameterThen (some route) below) else none
    | .parameter _ :: .fixed text :: rest =>
      (insert? route text rest below).map fun below => .parameterThen held below
    | _ => none
  | .remainder _ => none
termination_by structural wild => wild

end

/-- A tree with one more route; a route that clashes with another is left out. -/
def add (tree : Option RouteTree) (route : String) : Option RouteTree :=
  match tree, Route.pieces route with
  | none, pieces => ofPieces? route pieces
  | some tree, .fixed text :: rest => some ((insert? route text rest tree).getD tree)
  | some tree, _ => some tree

/-- The tree of routes, if there are any. -/
def ofRoutes (routes : List String) : Option RouteTree := routes.foldl add none

/-- How a search ends. -/
inductive Search where
  /-- A route matches, with what its parameters capture. -/
  | found (route : String) (captured : List (List Char))
  /-- Nothing matches here, but a parameter passed by may. -/
  | missed
  /-- Nothing matches at all. -/
  | stopped
deriving DecidableEq

namespace Search

/-- Adds what an earlier parameter captures. -/
def capture (part : List Char) : Search → Search
  | .found route captured => .found route (part :: captured)
  | search => search

/-- The end of a search at a part of the path that leads nowhere. -/
def deadEnd (path : List Char) : Search := if path = ['/'] then .stopped else .missed

end Search

/-- A path that goes on after a label. -/
def goesOn? (label path : List Char) : Option (List Char) :=
  if label.isPrefixOf path then some (path.drop label.length) else none

/-- Whether what is left of a path is a slash too much: a route ends before it, and none goes
on with it alone. -/
def isSlashTooMuch (route : Option String) (rest label : List Char) : Bool :=
  route.isSome && rest == ['/'] && label != ['/']

mutual

/-- Searches the routes of a tree for one that matches a path. -/
def search (path : List Char) : RouteTree → Search
  | .node label route branches wild =>
    match goesOn? label path with
    | some [] =>
      match route with
      | some route => .found route []
      | none => .deadEnd path
    | some (c :: rest) =>
      match searchBranches route (c :: rest) branches with
      | some .missed => searchWild (c :: rest) wild
      | some result => result
      | none =>
        match wild with
        | .absent => .deadEnd (c :: rest)
        | wild => searchWild (c :: rest) wild
    | none => if route.isSome && label == path ++ ['/'] then .stopped else .deadEnd path
termination_by structural tree => tree

/-- Searches the branch that begins as the path does, if there is one. The route is the one
that ends before it. -/
def searchBranches (route : Option String) (path : List Char) :
    List RouteTree → Option Search
  | [] => none
  | branch :: branches =>
    if branch.label.head? = path.head? then
      if isSlashTooMuch route path branch.label then some .stopped
      else some (search path branch)
    else searchBranches route path branches
termination_by structural branches => branches

/-- Searches the routes that go on with a parameter. -/
def searchWild (path : List Char) : Wild → Search
  | .absent => .missed
  | .remainder route => .found route [path]
  | .parameter route =>
    let part := path.takeWhile (· ≠ '/')
    let rest := path.drop part.length
    if rest = [] then .found route [part] else .deadEnd rest
  | .parameterThen route below =>
    let part := path.takeWhile (· ≠ '/')
    let rest := path.drop part.length
    if rest = [] then
      match route with
      | some route => .found route [part]
      | none => if below.label = ['/'] && below.route?.isSome then .stopped else .missed
    else if isSlashTooMuch route rest below.label then .stopped
    else (search rest below).capture part
termination_by structural wild => wild

end

/-- The route that matches a path, with what its parameters capture. -/
def match? (tree : Option RouteTree) (path : String) : Option (String × List (List Char)) :=
  match tree.map (search path.toList) with
  | some (.found route captured) => some (route, captured)
  | _ => none

end RouteTree

example : RouteTree.match? (RouteTree.ofRoutes ["/users", "/users/:id", "/:kind/all"]) "/users/all"
    = some ("/users/:id", ["all".toList]) := by decide +kernel

example : RouteTree.match? (RouteTree.ofRoutes ["/:p/", "/a"]) "/a/" = none := by decide +kernel

end TypedQuery.Server
