import TypedQuery.Plan.Basic

/-!
# Resolving a plan

The resolver of the operation produces a value, and the fields selected below it are filled
into that value in place, one after the other in the order of the selection. A field with a
resolver of its own takes what the resolver returns, whatever its inner shape; any other
field keeps what the parent holds under its name, with its own fields filled in if that is
an object. Later fields see what earlier ones have put into the parent.
-/

namespace TypedQuery

/-- The request for which a plan is resolved. -/
structure Resolution where
  context : Context
  operation : String
  /-- Fill in the fields below the operation. -/
  fullTree : Bool

namespace Resolution

variable (resolution : Resolution)

/-- Where a field stands once its resolver, if any, has been asked. -/
inductive Stage where
  /-- The value is final. -/
  | final (value : Json)
  /-- The fields selected in the value remain to be filled in. -/
  | open (value : Json)

/-- Asks the resolver of an operation or field. A deferred field has no value, and its
resolver is not asked. -/
def ask (definition : Definition) (args : Option Json) (selection : List (String × Json))
    (value : Json) (parent : List (String × Json)) (path : FieldPath) : Run Error Stage :=
  match definition with
  | .operation root => do
    let request : OperationRequest :=
      ⟨resolution.context, path, args, selection, resolution.operation⟩
    let answer ← (Run.invoke (.resolveOperation request) (root.resolver request)).recover
    return if resolution.fullTree then .open answer else .final answer
  | .field inner =>
    match inner.resolver with
    | none => pure (.open value)
    | some resolver =>
      if inner.deferred then pure (.final .null)
      else do
        let request : FieldRequest :=
          ⟨resolution.context, path, args, selection, value, parent, resolution.operation⟩
        return .final (← (Run.invoke (.resolveField request) (resolver request)).recover)

mutual

/-- The value of a plan, given what the parent holds under its name. -/
def resolve : Plan → (value : Json) → (parent : List (String × Json)) → FieldPath →
    Run Error Json
  | .leaf definition _ args, value, parent, path => Run.attachPath path do
    match ← resolution.ask definition args [] value parent path with
    | .final value => return value
    | .open value => return value
  | .branch definition _ selection args children, value, parent, path => Run.attachPath path do
    match ← resolution.ask definition args selection value parent path with
    | .open (.object members) => return .object (← resolveFields children members path)
    | .open value => return value
    | .final value => return value
termination_by structural plan => plan

/-- Fills the selected fields into an object. -/
def resolveFields : (children : List (String × Plan)) → (members : List (String × Json)) →
    FieldPath → Run Error (List (String × Json))
  | [], members, _ => pure members
  | (key, child) :: rest, members, path => do
    let held := (Entries.get? members key).getD .null
    let value ← resolve child held members (path ++ [key])
    resolveFields rest (Entries.put members key value) path
termination_by structural children => children

end

/-- The value of the plan of an operation. -/
def resolveRoot (plan : Plan) (path : FieldPath) : Run Error Json :=
  resolution.resolve plan .null [] path

end Resolution

end TypedQuery
