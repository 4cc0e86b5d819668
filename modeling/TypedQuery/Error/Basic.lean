/-!
# Errors

An error has a cause, the path of the field it is attributed to, and a status. The causes
that the engine itself raises are listed here, one type for each kind of error; callbacks
may bring errors of any kind with a wording of their own. The path is set once: whoever
attaches a path first wins, so the innermost field that fails is the one reported.
-/

namespace TypedQuery

/-- The segments from the operation down to a field. -/
abbrev FieldPath := List String

/-- The key under which a selection carries the arguments of its field. -/
def argsKey : String := "__args"

/-- What an error is about. -/
inductive ErrorKind where
  | base
  | args
  | query
  | result
  | initialization
deriving DecidableEq

namespace ErrorKind

def name : ErrorKind → String
  | .base => "Base"
  | .args => "Args"
  | .query => "Query"
  | .result => "Result"
  | .initialization => "Initialization"

/-- The name of the kind in a response. -/
def typeName (kind : ErrorKind) : String := kind.name ++ "Error"

/-- The status of an error for which nobody chose another. -/
def defaultStatus : ErrorKind → Nat
  | .base => 500
  | _ => 400

end ErrorKind

/-- Why arguments are refused. -/
inductive ArgsFault where
  /-- The field takes no arguments. -/
  | unexpected
  | required
  | nullValue
  | notArray (nullable : Bool)
  | nullElement
  | notObject (nullable : Bool)
  | unknownKeys (keys : List String)
  | refusedScalar (scalar : String)
  | unknownInput (name : String)
deriving DecidableEq

/-- Why a selection is refused. -/
inductive QueryFault where
  /-- The value is neither an object nor the marker. -/
  | notSelection
  | fieldsOfLeaf
  | markedObject
  | unknownField
  | hiddenField
  | unknownObject (name : String)
  | bodyNotObject
  | notOneOperation
  | unknownOperation (name : String)
  | bodyNotJson
  /-- A route parameter does not decode to text. -/
  | undecodablePath
deriving DecidableEq

/-- Why the value of a resolver is refused. -/
inductive ResultFault where
  | nullObject
  | notArrayOfObjects
  | nullElement
  | notObject
  | nullScalar
  | notArrayOfScalars (nullable : Bool)
  | refusedScalar (scalar : String)
deriving DecidableEq

/-- Why a schema or a server cannot be set up. -/
inductive SetupFault where
  | duplicate (table name : String)
  | reservedField (object : String)
  | unknownObject (name : String)
  | unknownInput (name : String)
  | endpointPath
  | route (path operation : String)
  | endpointRoute (path : String)
  | sharedRoute (path first second : String)
deriving DecidableEq

inductive Cause where
  | args (fault : ArgsFault)
  | query (fault : QueryFault)
  | result (fault : ResultFault)
  | setup (fault : SetupFault)
  /-- A cause that a callback words itself. -/
  | custom (kind : ErrorKind) (message : String)
deriving DecidableEq

def ArgsFault.message : ArgsFault → String
  | .unexpected => "Not expecting any args"
  | .required => "Args is required"
  | .nullValue => "Null field is not allowed"
  | .notArray nullable => if nullable then "Field must be Array or null" else "Array expected"
  | .nullElement => "Null field is not allowed on array element"
  | .notObject nullable => if nullable then "Object or null expected" else "Object expected"
  | .unknownKeys keys => "Unknown args '" ++ ",".intercalate keys ++ "'"
  | .refusedScalar scalar => "Invalid scalar value for '" ++ scalar ++ "'"
  | .unknownInput name => "Unknown inputDef '" ++ name ++ "'"

def QueryFault.message : QueryFault → String
  | .notSelection => "Invalid field RHS"
  | .fieldsOfLeaf => "Scalar node can only accept __args and no other field"
  | .markedObject => "Resolved node must be an object with nested fields"
  | .unknownField => "Unknown field"
  | .hiddenField => "Hidden field"
  | .unknownObject name => "TypeDef '" ++ name ++ "' not found"
  | .bodyNotObject => "Request body must be object"
  | .notOneOperation => "Exactly 1 root query required"
  | .unknownOperation name => "Unrecognized root operation '" ++ name ++ "'"
  | .bodyNotJson => "Invalid JSON body: "
  | .undecodablePath => "Invalid URL: "

def ResultFault.message : ResultFault → String
  | .nullObject => "Null output not allowed"
  | .notArrayOfObjects => "Expecting array or null"
  | .nullElement => "Null value not allowed for array element"
  | .notObject => "Expecting object"
  | .nullScalar => "Null value not allowed"
  | .notArrayOfScalars nullable => if nullable then "Array or null expected" else "Array expected"
  | .refusedScalar scalar => "Invalid scalar value for '" ++ scalar ++ "'"

def SetupFault.message : SetupFault → String
  | .duplicate table name => table ++ " already registered for '" ++ name ++ "'"
  | .reservedField object =>
    "ObjectType '" ++ object ++ "' cannot declare a field named '" ++ argsKey ++ "'"
  | .unknownObject name => "TypeDef '" ++ name ++ "' not found"
  | .unknownInput name => "Deferred InputType lookup failed: '" ++ name ++ "'"
  | .endpointPath => "Invalid giraffeql path"
  | .route path operation => "Invalid REST route '" ++ path ++ "' for '" ++ operation ++ "'"
  | .endpointRoute path => "Duplicate route for giraffeql path: '" ++ path ++ "'"
  | .sharedRoute path first second =>
    "Duplicate REST route '" ++ path ++ "' for '" ++ first ++ "' and '" ++ second ++ "'"

namespace Cause

def kind : Cause → ErrorKind
  | .args _ => .args
  | .query _ => .query
  | .result _ => .result
  | .setup _ => .initialization
  | .custom kind _ => kind

def message : Cause → String
  | .args fault => fault.message
  | .query fault => fault.message
  | .result fault => fault.message
  | .setup fault => fault.message
  | .custom _ message => message

end Cause

structure Error where
  cause : Cause
  path : Option FieldPath
  status : Nat
deriving DecidableEq

namespace Error

def kind (e : Error) : ErrorKind := e.cause.kind

/-- The wording without the name of the kind. -/
def message (e : Error) : String := e.cause.message

/-- The wording as a response shows it. -/
def text (e : Error) : String := e.kind.typeName ++ ": " ++ e.message

/-- An error with the status of its kind, not yet attributed to a field. -/
def ofCause (cause : Cause) : Error := ⟨cause, none, cause.kind.defaultStatus⟩

def args (fault : ArgsFault) : Error := ofCause (.args fault)

def query (fault : QueryFault) : Error := ofCause (.query fault)

def result (fault : ResultFault) : Error := ofCause (.result fault)

def setup (fault : SetupFault) : Error := ofCause (.setup fault)

def custom (kind : ErrorKind) (message : String) : Error := ofCause (.custom kind message)

def withStatus (e : Error) (status : Nat) : Error := { e with status }

/-- Attributes the error to a field, whatever it said before. -/
def withPath (e : Error) (path : FieldPath) : Error := { e with path := some path }

/-- Attributes the error to a field unless it is attributed already. -/
def attachPath (e : Error) (path : FieldPath) : Error := { e with path := e.path.or (some path) }

@[simp] theorem cause_attachPath (e : Error) (path : FieldPath) :
    (e.attachPath path).cause = e.cause := rfl

@[simp] theorem status_attachPath (e : Error) (path : FieldPath) :
    (e.attachPath path).status = e.status := rfl

/-- The first path attached stays. -/
@[simp] theorem attachPath_attachPath (e : Error) (inner outer : FieldPath) :
    (e.attachPath inner).attachPath outer = e.attachPath inner := by
  obtain ⟨cause, path, status⟩ := e
  cases path <;> rfl

end Error

/-- What a callback fails with: a text of its own, or an error of the engine. -/
inductive Fault where
  | foreign (message : String)
  | engine (error : Error)
deriving DecidableEq

/-- An engine error passes as it is; any other failure is a base error of its wording. -/
def Error.ofFault : Fault → Error
  | .foreign message => .custom .base message
  | .engine error => error

end TypedQuery
