import TypedQuery.Engine.Basic
import TypedQuery.Json.Parser
import TypedQuery.Json.Printer
import TypedQuery.Server.Config
import TypedQuery.Server.Message
import TypedQuery.Server.RouteTree

/-!
# Serving HTTP requests

A server takes documents by `POST` at its path, and serves every bound operation under the
route and the method of its binding. The route that matches the path decides; where it is not
bound to the method of the request, no other route is tried. A request for the head alone is
served by the binding for `GET` if none of its own is there, and the body is left out. A
binding for all methods serves whatever the others leave.
-/

namespace TypedQuery

/-- The name of the method in a request; a binding for all methods has none. -/
def Method.token? : Method → Option String
  | .all => none
  | .get => some "GET"
  | .post => some "POST"
  | .put => some "PUT"
  | .delete => some "DELETE"
  | .patch => some "PATCH"
  | .options => some "OPTIONS"
  | .head => some "HEAD"

structure Server where
  schema : Schema
  config : Server.Config

namespace Server

/-- A server of the schema, if the configuration fits it. -/
def new (schema : Schema) (config : Config) : Except Error Server := do
  config.validate schema
  return { schema, config }

variable (server : Server)

def engine : Engine := ⟨server.schema, server.config.engine⟩

/-- What a route leads to. -/
inductive Target where
  | documents
  | operation (root : Operation)

structure Mount where
  route : String
  method : Method
  target : Target

/-- Everything that is served: the documents first, then the bound operations. -/
def mounts : List Mount :=
  ⟨server.config.path, .post, .documents⟩ ::
    server.schema.operations.filterMap fun (_, operation) =>
      operation.binding.map fun binding =>
        ⟨binding.route, binding.method, .operation operation⟩

/-- The routes of everything that is served. -/
def routes : Option RouteTree := RouteTree.ofRoutes (server.mounts.map Mount.route)

/-- How a method is served. -/
structure Service where
  target : Target
  /-- The answer has no body. -/
  headOnly : Bool := false

/-- The mount for exactly that method. -/
def mountFor? (mounts : List Mount) (method : String) : Option Mount :=
  mounts.find? fun mount => mount.method.token? == some method

/-- Chooses among the mounts of a route by the method of the request. -/
def service? (mounts : List Mount) (method : String) : Option Service :=
  let head := method == "HEAD"
  match mountFor? mounts method with
  | some mount => some { target := mount.target, headOnly := head }
  | none =>
    match if head then mountFor? mounts "GET" else none with
    | some mount => some { target := mount.target, headOnly := true }
    | none => (mounts.find? fun mount => mount.method == .all).map fun mount =>
        { target := mount.target }

/-- Serves the target of a route. Documents take no parameters from their path. -/
def run (target : Target) (request : Request) (route : String) (captured : List (List Char)) :
    Run Error Json :=
  match target with
  | .documents =>
    match Json.parse? request.body with
    | none => .fail (.query .bodyNotJson)
    | some document => server.engine.runDocument document (request.context [])
  | .operation root =>
    match Route.parameters? route captured with
    | none => .fail (.query .undecodablePath)
    | some params => server.engine.runBound root (request.context params)

/-- A status that can be sent: three digits, or else that of an internal error. -/
def sendable (status : Nat) : Nat := if 100 ≤ status ∧ status ≤ 999 then status else 500

/-- The response that tells the outcome of a run. -/
def response (outcome : Except Error Json) (headOnly : Bool) : Response :=
  let (status, envelope) := server.engine.respond outcome
  ⟨sendable status, if headOnly then "" else envelope.toJson.render⟩

/-- Answers a request. The trace holds the calls made on the way. -/
def answer (request : Request) : List Event × Response :=
  match RouteTree.match? server.routes request.path with
  | none => ([], ⟨404, ""⟩)
  | some (route, captured) =>
    match service? (server.mounts.filter fun mount => mount.route == route) request.method with
    | none => ([], ⟨405, ""⟩)
    | some service =>
      let run := server.run service.target request route captured
      (run.trace, server.response run.outcome service.headOnly)

end Server

end TypedQuery
