import TypedQuery.Plan.Basic

/-!
# Conforming a value to a plan

A resolved value becomes response data: nulls and arrays only where they are declared, of
an object exactly the selected members in the order of the selection, and every scalar
through its `serialize` function. A branch in which nothing is selected reduces an object
to the empty object and any other value to null. Elements of an array are taken in order,
and the first error ends the walk.
-/

namespace TypedQuery.Plan

/-- Serializes one value that is not null. -/
def serialize (scalar : Scalar) (value : Json) : Run Error Json :=
  match scalar.serialize with
  | none => pure value
  | some serialize =>
    (Run.invoke (.serialize scalar.name value) (serialize value)).mapError fun _ =>
      .result (.refusedScalar scalar.name)

/-- Serializes a value or an element; null stays. -/
def serializeNullable (scalar : Scalar) (value : Json) : Run Error Json :=
  if value.isNull then pure .null else serialize scalar value

/-- Conforms the value of a scalar field. -/
def conformLeaf (signature : Signature) (scalar : Scalar) (value : Json) : Run Error Json :=
  match signature.array, value with
  | some rule, .array elements => do
    if !rule.nullElements && elements.any Json.isNull then .fail (.result .nullElement)
    return .array (← Run.traverse (serializeNullable scalar) elements)
  | some _, value => do
    if !signature.nullable then .fail (.result (.notArrayOfScalars false))
    else if value.isNull then pure .null
    else .fail (.result (.notArrayOfScalars true))
  | none, value => do
    if value.isNull && !signature.nullable then .fail (.result .nullScalar)
    serializeNullable scalar value

/-- What a value comes to when nothing is selected in it. -/
def collapse : Json → Json
  | .object _ => .object []
  | _ => .null

/-- Conforms the members of an object to the fields selected in it. -/
abbrev MembersReader := (members : List (String × Json)) → FieldPath →
  Run Error (List (String × Json))

/-- Conforms one value that is not null. -/
def conformObject (fields : MembersReader) (nothingSelected : Bool) (value : Json)
    (path : FieldPath) : Run Error Json :=
  if nothingSelected then pure (collapse value)
  else
    match value with
    | .object members => do return .object (← fields members path)
    | _ => .fail (.result .notObject)

def conformElement (fields : MembersReader) (nothingSelected : Bool) (rule : ArrayRule)
    (path : FieldPath) (element : Json) : Run Error Json :=
  if element.isNull then
    if rule.nullElements then pure .null else .fail (.result .nullElement)
  else conformObject fields nothingSelected element path

/-- Conforms the value of an object field. -/
def conformBranch (signature : Signature) (fields : MembersReader) (nothingSelected : Bool)
    (value : Json) (path : FieldPath) : Run Error Json :=
  if value.isNull then
    if signature.nullable then pure .null else .fail (.result .nullObject)
  else
    match signature.array with
    | none => conformObject fields nothingSelected value path
    | some rule =>
      match value with
      | .array elements => do
        let conformed ← Run.traverse (conformElement fields nothingSelected rule path) elements
        return .array conformed
      | _ => .fail (.result .notArrayOfObjects)

mutual

/-- The response data for a plan and its resolved value. -/
def conform : Plan → (value : Json) → FieldPath → Run Error Json
  | .leaf definition scalar _, value, path =>
    Run.attachPath path (conformLeaf definition.signature scalar value)
  | .branch definition _ _ _ children, value, path =>
    Run.attachPath path
      (conformBranch definition.signature (conformFields children) children.isEmpty value path)
termination_by structural plan => plan

/-- The data of the selected fields; a member that is missing counts as null. -/
def conformFields : (children : List (String × Plan)) → MembersReader
  | [], _, _ => pure []
  | (key, child) :: rest, members, path => do
    let first ← conform child ((Entries.get? members key).getD .null) (path ++ [key])
    let others ← conformFields rest members path
    return (key, first) :: others
termination_by structural children => children

end

end TypedQuery.Plan
