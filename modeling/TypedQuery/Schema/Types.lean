import TypedQuery.Trace

/-!
# Schema types

A schema declares scalars, object types, input types and operations. Fields and slots refer
to types either inline, by holding the definition itself, or by a name that is looked up
when a request reaches it; so types may refer to each other in any order, and in circles.
Callbacks are functions into `Run`: what a callback does depends only on what it is shown.
-/

namespace TypedQuery

/-- The JSON kinds a scalar admits. They matter to written declarations only. -/
inductive Primitive where
  | boolean
  | number
  | string
  | null
  | object
  | array
  | unknown
deriving DecidableEq

abbrev ScalarFunction := Json → Run Fault Json

/-- Decides whether a field may be selected, before anything is resolved. -/
abbrev Guard := GuardRequest → Run Fault Unit

/-- Checks a whole input object, already in normal form, at its path. -/
abbrev InputCheck := List (String × Json) → FieldPath → Run Fault Unit

abbrev OperationResolver := OperationRequest → Run Fault Json

abbrev FieldResolver := FieldRequest → Run Fault Json

/-- Derives the arguments of an operation from a request; none means no arguments. -/
abbrev ArgsSource := Context → Run Fault (Option Json)

/-- A leaf type. Without `parse` or `serialize` values pass as they are. -/
structure Scalar where
  name : String
  description : Option String := none
  kinds : List Primitive := []
  serialize : Option ScalarFunction := none
  parse : Option ScalarFunction := none

mutual

/-- The type of a slot as declared. -/
inductive InputRef where
  | scalar (scalar : Scalar)
  | input (type : InputType)
  | lookup (name : String)

/-- A place for an argument. -/
structure Slot where
  type : InputRef
  required : Bool := false
  nullable : Bool := false
  array : Option ArrayRule := none

/-- A composite argument type. -/
structure InputType where
  name : String
  description : Option String := none
  fields : List (String × Slot) := []
  check : Option InputCheck := none

end

mutual

/-- The type of a field as declared. -/
inductive OutputRef where
  | scalar (scalar : Scalar)
  | object (type : ObjectType)
  | lookup (name : String)

/-- What a field and an operation have in common. -/
structure Signature where
  type : OutputRef
  description : Option String := none
  nullable : Bool := false
  array : Option ArrayRule := none
  args : Option Slot := none
  guard : Option Guard := none

structure Field where
  signature : Signature
  /-- Produces the value of the field, whose inner shape is then its own affair. -/
  resolver : Option FieldResolver := none
  /-- The resolver is not called, and the value is null. -/
  deferred : Bool := false
  /-- Clients may not select the field. -/
  hidden : Bool := false

/-- A composite output type. -/
structure ObjectType where
  name : String
  description : Option String := none
  fields : List (String × Field) := []

end

inductive Method where
  | all
  | get
  | post
  | put
  | delete
  | patch
  | options
  | head
deriving DecidableEq

/-- The route under which an operation may be called. -/
structure Binding where
  method : Method
  route : String
  /-- The selection to make; an object has the arguments added to it. -/
  template : Option Json := none
  /-- Takes the place of the arguments from path and query string. -/
  args : Option ArgsSource := none

/-- A named entry point of the schema. -/
structure Operation where
  name : String
  signature : Signature
  resolver : OperationResolver
  binding : Option Binding := none

/-- A slot type after look-up. -/
inductive ResolvedInput where
  | scalar (scalar : Scalar)
  | input (type : InputType)

/-- A field type after look-up. -/
inductive ResolvedOutput where
  | scalar (scalar : Scalar)
  | object (type : ObjectType)

namespace ResolvedOutput

def name : ResolvedOutput → String
  | .scalar leaf => leaf.name
  | .object type => type.name

def isLeaf : ResolvedOutput → Bool
  | .scalar _ => true
  | .object _ => false

end ResolvedOutput

/-- A nullable field of the type and nothing else, from which a callback may start a plan of
its own. -/
def Field.bare (type : OutputRef) : Field where
  signature := { type, nullable := true }

def InputRef.typeName : InputRef → TypeName
  | .scalar leaf => .scalar leaf.name
  | .input type => .input type.name
  | .lookup name => .lookup name

def OutputRef.typeName : OutputRef → TypeName
  | .scalar leaf => .scalar leaf.name
  | .object type => .object type.name
  | .lookup name => .lookup name

def Slot.summary (slot : Slot) : SlotSummary :=
  ⟨slot.type.typeName, slot.required, slot.nullable, slot.array⟩

end TypedQuery
