import TypedQuery.Engine.Options
import TypedQuery.Schema.Basic

/-!
# Server configuration

The settings of a server: its port, the path at which it takes documents, and the options
of its engine. A configuration fits a schema if the routes of the bound operations and the
path of the documents can be served side by side. The bindings are looked at in order of
registration, each against those before it, and the first that does not fit is reported.
-/

namespace TypedQuery

/-- Whether two bindings of one route would serve a request both. -/
def Method.overlaps (a b : Method) : Bool := a == b || a == .all || b == .all

/-- A route as a server serves it begins with a slash. -/
def isRooted (route : String) : Bool := route.toList.head? == some '/'

/-- The bound operations by name, in order of registration. -/
def Schema.bindings (schema : Schema) : List (String × Binding) :=
  schema.operations.filterMap fun (_, operation) =>
    operation.binding.map fun binding => (operation.name, binding)

namespace Server

/-- The ports that there are. -/
abbrev Port := Fin 65536

structure Config where
  port : Port := ⟨8080, by decide⟩
  /-- Where documents are taken. -/
  path : String := "/giraffeql"
  engine : EngineOptions := {}

namespace Config

/-- The configuration of which nothing is said. -/
protected def default : Config := {}

def toJson (config : Config) : Json :=
  .object [("port", .nat config.port.val), ("path", .string config.path),
    ("engine", config.engine.toJson)]

/-- A port, the default if the key is missing. -/
def port? : Option Json → Option Port
  | none => some Config.default.port
  | some (.number (.int port)) =>
    if h : 0 ≤ port ∧ port < 65536 then some ⟨port.toNat, by omega⟩ else none
  | some _ => none

/-- A text, the default if the key is missing. -/
def path? : Option Json → Option String
  | none => some Config.default.path
  | some path => path.asString?

/-- Engine options, the default if the key is missing. -/
def engine? : Option Json → Option EngineOptions
  | none => some Config.default.engine
  | some options => EngineOptions.ofJson? options

def ofJson? (json : Json) : Option Config := do
  let members ← json.record? [] ["port", "path", "engine"]
  let port ← port? (Entries.get? members "port")
  let path ← path? (Entries.get? members "path")
  let engine ← engine? (Entries.get? members "engine")
  return { port, path, engine }

/-- The first of the earlier bindings with which a binding shares requests. -/
def clash? (earlier : List (String × Binding)) (binding : Binding) :
    Option (String × Binding) :=
  earlier.find? fun (_, other) =>
    other.route == binding.route && other.method.overlaps binding.method

/-- Why a binding does not fit beside the document path and the earlier bindings. -/
def bindingFault? (path : String) (earlier : List (String × Binding)) (name : String)
    (binding : Binding) : Option SetupFault :=
  if !isRooted binding.route then some (.route binding.route name)
  else if binding.route = path then some (.endpointRoute path)
  else (clash? earlier binding).map fun (other, _) => .sharedRoute binding.route other name

/-- Checks bindings one after the other against those before them. -/
def checkBindings (path : String) (earlier : List (String × Binding)) :
    List (String × Binding) → Except Error Unit
  | [] => .ok ()
  | (name, binding) :: rest =>
    match bindingFault? path earlier name binding with
    | some fault => .error (.setup fault)
    | none => checkBindings path (earlier ++ [(name, binding)]) rest

/-- Whether a server with this configuration can serve the schema. -/
def validate (config : Config) (schema : Schema) : Except Error Unit :=
  if !isRooted config.path then .error (.setup .endpointPath)
  else checkBindings config.path [] schema.bindings

end Config

end Server

end TypedQuery
