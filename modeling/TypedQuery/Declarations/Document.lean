import TypedQuery.Declarations.Reachable
import TypedQuery.Text.Uppercase

/-!
# Declaration documents

A document declares the types that a client of a schema sees: its scalars, the input types
in reach, the object types by name, one type for each object type with its fields, and the
operations. Every field and operation is a record of its type and its arguments. A document
exists if every look-up that it would mention leads somewhere.
-/

namespace TypedQuery.Declarations

/-- The type that a key is declared to have. -/
structure Leaf where
  value : String
  array : Option ArrayRule := none
  nullable : Bool := false
  optional : Bool := false
  description : Option String := none

/-- What stands under a key of an exported type: a type, or a record of types. -/
inductive Entry where
  | leaf (leaf : Leaf)
  | record (description : Option String) (leaves : List (String × Leaf))

/-- An exported type. -/
structure Export where
  description : Option String
  entries : List (String × Entry)

structure Document where
  scalars : Export
  inputs : Export
  mains : Export
  /-- The object types under their capitalized names. -/
  objects : List (String × Export)
  root : Export

/-- How a kind is written in a declaration. -/
def primitiveName : Primitive → String
  | .boolean => "boolean"
  | .number => "number"
  | .string => "string"
  | .null => "null"
  | .object => "Record<string, unknown>"
  | .array => "unknown[]"
  | .unknown => "unknown"

def scalarReference (name : String) : String := "Scalars['" ++ name ++ "']"

def inputReference (name : String) : String := "InputTypes['" ++ name ++ "']"

/-- How a field type is mentioned. -/
def outputReference (schema : Schema) : OutputRef → String
  | .scalar leaf => scalarReference leaf.name
  | .object type => Text.capitalize type.name
  | .lookup name =>
    match Entries.get? schema.objects name with
    | some type => Text.capitalize type.name
    | none => Text.capitalize name

/-- How a slot type is mentioned. -/
def slotReference (schema : Schema) (slot : Slot) : String :=
  match slot.type with
  | .scalar leaf => scalarReference leaf.name
  | .input type => inputReference type.name
  | .lookup name =>
    match Entries.get? schema.inputs name with
    | some type => inputReference type.name
    | none => inputReference name

/-- The declaration of a slot within an input type. -/
def slotLeaf (schema : Schema) (slot : Slot) : Leaf where
  value := slotReference schema slot
  array := slot.array
  nullable := slot.nullable
  optional := !slot.required

/-- The declaration of the arguments of a field. Arguments that are not required stand in a
tuple, which tells clients that the bare marker will do. -/
def argsLeaf (schema : Schema) (args : Option Slot) : Leaf :=
  match args with
  | none => { value := "undefined" }
  | some slot =>
    let value := slotReference schema slot
    { value := if slot.required then value else "[" ++ value ++ "]"
      array := slot.array
      nullable := slot.nullable }

/-- The type of a field or operation, shown as the given text. -/
def typeLeaf (signature : Signature) (value : String) : Leaf where
  value := value
  array := signature.array
  nullable := signature.nullable

/-- The record of a field. Nothing but its wrapping is told of a hidden one. -/
def fieldEntry (schema : Schema) (field : Field) : Entry :=
  let signature := field.signature
  .record signature.description
    (if field.hidden then [("Type", typeLeaf signature "never"), ("Args", { value := "undefined" })]
    else
      [("Type", typeLeaf signature (outputReference schema signature.type)),
        ("Args", argsLeaf schema signature.args)])

def operationEntry (schema : Schema) (operation : Operation) : Entry :=
  let signature := operation.signature
  .record signature.description
    [("Type", typeLeaf signature (outputReference schema signature.type)),
      ("Args", argsLeaf schema signature.args)]

def scalarEntry (scalar : Scalar) : Entry :=
  .leaf
    { value := "|".intercalate (scalar.kinds.map primitiveName)
      description := scalar.description }

def inputEntry (schema : Schema) (type : InputType) : Entry :=
  .record type.description
    (type.fields.map fun (name, slot) => (name, slotLeaf schema slot))

/-- The record by which an object type is found under its own name. -/
def mainEntry (type : ObjectType) : Entry :=
  .record none
    [("Typename", { value := "\"" ++ type.name ++ "\"" }),
      ("Type", { value := "GetType<" ++ Text.capitalize type.name ++ ">" })]

def objectExport (schema : Schema) (type : ObjectType) : Export where
  description := type.description
  entries := type.fields.map fun (name, field) => (name, fieldEntry schema field)

/-- The document of a schema, given the input types in reach. -/
def document (schema : Schema) (inputs : List (String × InputType)) : Document where
  scalars :=
    ⟨some "All Scalar values",
      schema.scalars.map fun (_, scalar) => (scalar.name, scalarEntry scalar)⟩
  inputs :=
    ⟨some "All Input types", inputs.map fun (name, type) => (name, inputEntry schema type)⟩
  mains :=
    ⟨some "All main types", schema.objects.map fun (_, type) => (type.name, mainEntry type)⟩
  objects := Entries.ofList <| schema.objects.map fun (_, type) =>
    (Text.capitalize type.name, objectExport schema type)
  root :=
    ⟨some "All Root resolvers",
      schema.operations.map fun (_, operation) =>
        (operation.name, operationEntry schema operation)⟩

/-- The document of a schema, unless a look-up that it would mention leads nowhere. -/
def ofSchema (schema : Schema) : Except Error Document := do
  let inputs ← reachableInputs schema
  return document schema inputs

/-- The exported types of a document with their names, in the order of the document. -/
def Document.exports (document : Document) : List (String × Export) :=
  [("Scalars", document.scalars), ("InputTypes", document.inputs),
    ("MainTypes", document.mains)] ++ document.objects ++ [("Root", document.root)]

end TypedQuery.Declarations
