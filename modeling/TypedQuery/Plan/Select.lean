import TypedQuery.Plan.Basic
import TypedQuery.Arguments

/-!
# From a selection to a plan

The client's value for a field is the marker, which selects a leaf without arguments, or an
object. The object of a leaf may hold arguments and nothing else; the object of a branch
selects fields by their names. For each field the guard comes first, then its type, the
shape of the value, its arguments, and the fields within, in the order they are written.
The first objection ends it all, so that no resolver runs for a document that is not right
from end to end. The recursion follows the client's value.
-/

namespace TypedQuery

/-- What may be left out when a plan is made. -/
structure SelectOptions where
  /-- Plan the fields within fields that have a resolver of their own. -/
  fullTree : Bool := true
  checkArgs : Bool := true
  runGuards : Bool := true

/-- The request for which a plan is made. -/
structure Scope where
  schema : Schema
  /-- The value that selects a leaf. -/
  marker : Json
  context : Context
  operation : String
  options : SelectOptions := {}

namespace Scope

variable (scope : Scope)

/-- Asks the guard of a field, if it has one. -/
def askGuard (signature : Signature) (query : Json) (path : FieldPath) : Run Error Unit :=
  match signature.guard with
  | some guard =>
    if scope.options.runGuards then
      let request : GuardRequest :=
        ⟨scope.context, path, signature.args.map Slot.summary, query, scope.operation⟩
      (Run.invoke (.guard request) (guard request)).recover
    else pure ()
  | none => pure ()

/-- Checks the arguments of a field, at the path of the arguments. -/
def takeArgs (signature : Signature) (args : Option Json) (path : FieldPath) :
    Run Error (Option Json) :=
  if scope.options.checkArgs then
    Arguments.check scope.schema args signature.args (path ++ [argsKey])
  else pure args

/-- A leaf selected by the marker. Required arguments are missing from it. -/
def selectMarked (definition : Definition) (type : ResolvedOutput) (path : FieldPath) :
    Run Error Plan :=
  match type with
  | .object _ => .fail (.query .markedObject)
  | .scalar scalar => do
    if definition.signature.args.any (·.required) then
      .fail ((Error.args .required).withPath (path ++ [argsKey]))
    return .leaf definition scalar (← scope.takeArgs definition.signature none path)

/-- A leaf selected by an object. -/
def selectLeaf (definition : Definition) (scalar : Scalar) (members : List (String × Json))
    (path : FieldPath) : Run Error Plan := do
  if (Entries.keys members).any (· ≠ argsKey) then .fail (.query .fieldsOfLeaf)
  let args ← scope.takeArgs definition.signature (Entries.get? members argsKey) path
  return .leaf definition scalar args

/-- Whether the fields within a field are planned. -/
def plansChildren (definition : Definition) : Bool :=
  scope.options.fullTree || !definition.hasResolver

mutual

/-- The plan of one field. -/
def select : (query : Json) → Definition → FieldPath → Run Error Plan
  | .object members => fun definition path => Run.attachPath path do
    scope.askGuard definition.signature (.object members) path
    match ← Run.ofExcept (scope.schema.resolveOutput definition.signature.type) with
    | .scalar scalar => scope.selectLeaf definition scalar members path
    | .object type =>
      let args ← scope.takeArgs definition.signature (Entries.get? members argsKey) path
      let children ← selectFields members type (scope.plansChildren definition) path
      return .branch definition type (members.filter (·.1 ≠ argsKey)) args children
  | query => fun definition path => Run.attachPath path do
    scope.askGuard definition.signature query path
    let type ← Run.ofExcept (scope.schema.resolveOutput definition.signature.type)
    if query.same scope.marker then scope.selectMarked definition type path
    else .fail (.query .notSelection)
termination_by structural query => query

/-- The plans of the fields selected in an object. Where they are not planned, their names
are still checked. -/
def selectFields : (members : List (String × Json)) → ObjectType → (plan : Bool) → FieldPath →
    Run Error (List (String × Plan))
  | [], _, _, _ => pure []
  | (key, query) :: rest, type, plan, path => do
    if key = argsKey then selectFields rest type plan path
    else
      match Entries.get? type.fields key with
      | none => .fail ((Error.query .unknownField).withPath (path ++ [key]))
      | some field =>
        if field.hidden then .fail ((Error.query .hiddenField).withPath (path ++ [key]))
        else if plan then
          let child ← select query (.field field) (path ++ [key])
          let others ← selectFields rest type plan path
          return (key, child) :: others
        else selectFields rest type plan path
termination_by structural members => members

end

end Scope

end TypedQuery
