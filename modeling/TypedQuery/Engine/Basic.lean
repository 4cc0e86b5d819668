import TypedQuery.Engine.Envelope
import TypedQuery.Engine.Options
import TypedQuery.Plan.Conform
import TypedQuery.Plan.Resolve
import TypedQuery.Plan.Select

/-!
# Serving requests

An engine is a schema with its options. A request names an operation and selects fields of
its result; the engine plans the selection in full, resolves the plan, and conforms the
value. There are three ways in: a document with one operation, an operation by its name,
and an operation by its binding, whose selection is derived from the request. A bound
operation takes its arguments from its own source or else from the query string and the
route, where the route wins; an empty object counts as no arguments.
-/

namespace TypedQuery

structure Engine where
  schema : Schema
  options : EngineOptions

/-- The arguments that a request brings to a bound operation. -/
def Operation.boundArgs (root : Operation) (context : Context) : Run Error (Option Json) := do
  let args ← match root.binding.bind (·.args) with
    | some source => (Run.invoke (.deriveArgs root.name context) (source context)).recover
    | none => pure (some (.object (Entries.putAll context.query context.params)))
  return if args = some (.object []) then none else args

namespace Engine

variable (engine : Engine)

/-- Serves an operation: plan, resolve, conform. -/
def serve (root : Operation) (name : String) (query : Json) (context : Context) :
    Run Error Json := do
  let scope : Scope :=
    { schema := engine.schema, marker := engine.options.marker, context, operation := root.name }
  let plan ← scope.select query (.operation root) [name]
  let resolution : Resolution := ⟨context, root.name, engine.options.processEntireTree⟩
  let value ← resolution.resolveRoot plan [name]
  plan.conform value [name]

/-- Serves the operation of that name. -/
def run (name : String) (query : Json) (context : Context) : Run Error Json :=
  match engine.schema.operation? name with
  | none => .fail (.query (.unknownOperation name))
  | some root => engine.serve root name query context

/-- Serves a document, an object with exactly one operation. -/
def runDocument (body : Json) (context : Context) : Run Error Json :=
  match body with
  | .object [(name, query)] => engine.run name query context
  | .object _ => .fail (.query .notOneOperation)
  | _ => .fail (.query .bodyNotObject)

/-- The selection that a request makes of a bound operation. -/
def boundQuery (root : Operation) (context : Context) : Run Error Json := do
  let args ← root.boundArgs context
  return match root.signature.type, args, root.binding.bind (·.template) with
    | .scalar _, some args, _ => .object [(argsKey, args)]
    | _, some args, some (.object members) => .object (Entries.put members argsKey args)
    | _, _, some template => template
    | _, _, none => engine.options.marker

/-- Serves a bound operation. -/
def runBound (root : Operation) (context : Context) : Run Error Json := do
  let query ← engine.boundQuery root context
  engine.serve root root.name query context

/-- The status and the envelope that tell the outcome of a run. -/
def respond (outcome : Except Error Json) : Nat × Envelope :=
  match outcome with
  | .ok data => (200, .success data)
  | .error error => (error.status, .failure error engine.options.debug)

end Engine

end TypedQuery
