import TypedQuery.Schema.Types

/-!
# The schema and registration

A schema is four tables, each in order of registration. A name that is taken is refused,
or its definition is replaced where it stands, depending on the table and on what the
caller allows; an operation is never replaced. A refused registration leaves the schema as
it was, because it returns no schema.
-/

namespace TypedQuery

structure Schema where
  scalars : List (String × Scalar) := []
  objects : List (String × ObjectType) := []
  inputs : List (String × InputType) := []
  operations : List (String × Operation) := []

namespace Schema

/-- Registers a scalar. A taken name is replaced if `override` allows it. -/
def addScalar (schema : Schema) (scalar : Scalar) (override : Bool) : Except Error Schema :=
  if Entries.has schema.scalars scalar.name && !override then
    .error (.setup (.duplicate "ScalarType" scalar.name))
  else .ok { schema with scalars := Entries.put schema.scalars scalar.name scalar }

/-- Registers an object type. No field may bear the name under which arguments are given. -/
def addObject (schema : Schema) (type : ObjectType) (replace : Bool) : Except Error Schema :=
  if Entries.has type.fields argsKey then .error (.setup (.reservedField type.name))
  else if Entries.has schema.objects type.name && !replace then
    .error (.setup (.duplicate "ObjectType" type.name))
  else .ok { schema with objects := Entries.put schema.objects type.name type }

def addInput (schema : Schema) (type : InputType) (replace : Bool) : Except Error Schema :=
  if Entries.has schema.inputs type.name && !replace then
    .error (.setup (.duplicate "InputType" type.name))
  else .ok { schema with inputs := Entries.put schema.inputs type.name type }

def addOperation (schema : Schema) (operation : Operation) : Except Error Schema :=
  if Entries.has schema.operations operation.name then
    .error (.setup (.duplicate "RootOperation" operation.name))
  else
    .ok { schema with
      operations := Entries.put schema.operations operation.name operation }

def scalar? (schema : Schema) (name : String) : Option Scalar :=
  Entries.get? schema.scalars name

def object? (schema : Schema) (name : String) : Option ObjectType :=
  Entries.get? schema.objects name

def input? (schema : Schema) (name : String) : Option InputType :=
  Entries.get? schema.inputs name

def operation? (schema : Schema) (name : String) : Option Operation :=
  Entries.get? schema.operations name

/-- The type that a field refers to. -/
def resolveOutput (schema : Schema) : OutputRef → Except Error ResolvedOutput
  | .scalar leaf => .ok (.scalar leaf)
  | .object type => .ok (.object type)
  | .lookup name =>
    match schema.object? name with
    | some type => .ok (.object type)
    | none => .error (.query (.unknownObject name))

/-- The type that a slot refers to. -/
def resolveInput (schema : Schema) : InputRef → Except Error ResolvedInput
  | .scalar leaf => .ok (.scalar leaf)
  | .input type => .ok (.input type)
  | .lookup name =>
    match schema.input? name with
    | some type => .ok (.input type)
    | none => .error (.args (.unknownInput name))

/-- A reference leads to an object type that it holds, or to a registered one of its name. -/
theorem resolveOutput_eq_object_iff {schema : Schema} {ref : OutputRef} {type : ObjectType} :
    schema.resolveOutput ref = .ok (.object type) ↔
      ref = .object type ∨ ∃ name, ref = .lookup name ∧ schema.object? name = some type := by
  cases ref with
  | scalar | object => simp [resolveOutput]
  | lookup name => cases found : schema.object? name <;> simp [resolveOutput, found]

theorem resolveInput_eq_input_iff {schema : Schema} {ref : InputRef} {type : InputType} :
    schema.resolveInput ref = .ok (.input type) ↔
      ref = .input type ∨ ∃ name, ref = .lookup name ∧ schema.input? name = some type := by
  cases ref with
  | scalar | input => simp [resolveInput]
  | lookup name => cases found : schema.input? name <;> simp [resolveInput, found]

/-- Only a scalar that is held itself is a scalar after look-up. -/
theorem resolveOutput_eq_scalar_iff {schema : Schema} {ref : OutputRef} {scalar : Scalar} :
    schema.resolveOutput ref = .ok (.scalar scalar) ↔ ref = .scalar scalar := by
  cases ref with
  | scalar | object => simp [resolveOutput]
  | lookup name => cases found : schema.object? name <;> simp [resolveOutput, found]

end Schema

end TypedQuery
