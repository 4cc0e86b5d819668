import TypedQuery.Schema.Basic

/-!
# Dangling look-ups

Names that the registered definitions refer to and that no table holds, each with the table
it is missing from. Only the references of the registered definitions themselves are
followed: a type that is held inline answers for itself when it is registered. The list is
ascending, so that each name comes once.
-/

namespace TypedQuery.Schema

/-- The look-up of a slot, if its table lacks the name. -/
def danglingSlot (schema : Schema) (slot : Slot) : List String :=
  match slot.type with
  | .lookup name => if Entries.has schema.inputs name then [] else ["input:" ++ name]
  | _ => []

/-- The look-ups of a field or operation that lead nowhere. -/
def danglingSignature (schema : Schema) (signature : Signature) : List String :=
  (match signature.type with
    | .lookup name => if Entries.has schema.objects name then [] else ["object:" ++ name]
    | _ => [])
    ++ (match signature.args with
      | some slot => danglingSlot schema slot
      | none => [])

/-- Every look-up of a registered definition that leads nowhere, in order of registration. -/
def danglingReferences (schema : Schema) : List String :=
  (schema.objects.flatMap fun (_, type) =>
      type.fields.flatMap fun (_, field) => danglingSignature schema field.signature)
    ++ (schema.inputs.flatMap fun (_, type) =>
      type.fields.flatMap fun (_, slot) => danglingSlot schema slot)
    ++ schema.operations.flatMap fun (_, operation) =>
      danglingSignature schema operation.signature

/-- Inserts a text into an ascending list that does not hold it yet. -/
def insertAscending (text : String) : List String → List String
  | [] => [text]
  | first :: rest =>
    if text < first then text :: first :: rest
    else if text = first then first :: rest
    else first :: insertAscending text rest

/-- The look-ups that lead nowhere, ascending and each once. -/
def dangling (schema : Schema) : List String :=
  (danglingReferences schema).foldl (fun sorted text => insertAscending text sorted) []

end TypedQuery.Schema
