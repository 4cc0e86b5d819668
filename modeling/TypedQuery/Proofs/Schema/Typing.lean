import TypedQuery.Proofs.Plan.Site
import TypedQuery.Proofs.Schema.Scalars

/-!
# Typed responses

What the declarations of a schema promise a client about the data of a response, as rules that
follow the client's document, those of `Schema.Typed`. A null stands where a field or the elements
of its array may be null, an array where one is declared, an object has exactly the members that are
selected in it, in the order of the selection, and a base scalar has its own kind of JSON value.
There is one exception: where nothing is selected in an object, null may stand for a value of
another kind.
-/

namespace TypedQuery

namespace Schema

variable (schema : Schema)

/-- The signature of an operation, or of a field of a type, whether the type is registered or is
held inline by a signature that is declared itself. -/
inductive Declares : Signature → Prop
  | operation {name root} : (name, root) ∈ schema.operations → Declares root.signature
  | registered {name type key field} : (name, type) ∈ schema.objects →
      (key, field) ∈ type.fields → Declares field.signature
  | inline {signature type key field} : Declares signature → signature.type = .object type →
      (key, field) ∈ type.fields → Declares field.signature

/-- All leaves are base scalars. -/
def BaseScalarsOnly : Prop :=
  ∀ signature, schema.Declares signature → ∀ scalar, signature.type = .scalar scalar →
    scalar ∈ Scalar.base

mutual

/-- `schema.Typed signature query data`: the data are what the signature promises to a client who
writes that query. -/
inductive Typed : Signature → (query : Json) → (data : Json) → Prop
  | null {signature query} : signature.nullable = true → Typed signature query .null
  | single {signature type query data} : signature.array = none →
      schema.resolveOutput signature.type = .ok type → TypedValue type query data →
      Typed signature query data
  | array {signature type rule query elements} : signature.array = some rule →
      schema.resolveOutput signature.type = .ok type → TypedElements type rule query elements →
      Typed signature query (.array elements)

/-- One value of a type. -/
inductive TypedValue : ResolvedOutput → (query : Json) → (data : Json) → Prop
  | boolean {query value} : TypedValue (.scalar Scalar.boolean) query (.bool value)
  | number {query value} : TypedValue (.scalar Scalar.number) query (.number value)
  | string {query value} : TypedValue (.scalar Scalar.string) query (.string value)
  | object {type members data} : TypedMembers type (members.filter (·.1 ≠ argsKey)) data →
      TypedValue (.object type) (.object members) (.object data)
  | unselected {type members} : members.filter (·.1 ≠ argsKey) = [] →
      TypedValue (.object type) (.object members) .null

/-- The elements of an array of that type, each a `TypedValue`, or null where nulls are allowed. -/
inductive TypedElements : ResolvedOutput → ArrayRule → (query : Json) → List Json → Prop
  | nil {type rule query} : TypedElements type rule query []
  | null {type rule query elements} : rule.nullElements = true →
      TypedElements type rule query elements → TypedElements type rule query (.null :: elements)
  | value {type rule query data elements} : TypedValue type query data →
      TypedElements type rule query elements → TypedElements type rule query (data :: elements)

/-- The members of an object of that type, one for each member of the selection. -/
inductive TypedMembers :
    ObjectType → (selection : List (String × Json)) → (data : List (String × Json)) → Prop
  | nil {type} : TypedMembers type [] []
  | cons {type key field query data selection members} : type.selectable? key = some field →
      Typed field.signature query data → TypedMembers type selection members →
      TypedMembers type ((key, query) :: selection) ((key, data) :: members)

end

variable {schema} {signature : Signature}

/-- What is declared declares the fields of its type. -/
theorem Declares.field (declared : schema.Declares signature) {type : ObjectType}
    (resolved : schema.resolveOutput signature.type = .ok (.object type)) {key : String}
    {field : Field} (inside : (key, field) ∈ type.fields) : schema.Declares field.signature := by
  obtain ref | ⟨name, _, found⟩ := resolveOutput_eq_object_iff.mp resolved
  · exact .inline declared ref inside
  · exact .registered (Entries.mem_of_get?_eq_some found) inside

/-- What is declared declares the fields that can be selected in it, by `ObjectType.selectable?`. -/
theorem Declares.selectable (declared : schema.Declares signature) {type : ObjectType}
    (resolved : schema.resolveOutput signature.type = .ok (.object type)) {key : String}
    {field : Field} (selected : type.selectable? key = some field) :
    schema.Declares field.signature := by
  obtain ⟨_, held, _⟩ := ObjectType.selectable?_eq_some_iff.mp selected
  exact declared.field resolved (Entries.mem_of_get?_eq_some held)

theorem BaseScalarsOnly.resolved (base : schema.BaseScalarsOnly)
    (declared : schema.Declares signature) {scalar : Scalar}
    (resolved : schema.resolveOutput signature.type = .ok (.scalar scalar)) :
    scalar ∈ Scalar.base :=
  base signature declared scalar (resolveOutput_eq_scalar_iff.mp resolved)

end Schema

end TypedQuery
