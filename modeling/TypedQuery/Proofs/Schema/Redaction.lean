import TypedQuery.Schema.Basic

/-!
# Redacted schemas

`Schema.redact` strikes out the definitions of the hidden fields of a schema and leaves their names,
in registered types as well as in those that are held inline, at any depth. Two schemas that are
redacted to the same differ in nothing but the definitions of fields that are hidden in both. What a
look-up leads to in a redacted schema is what it leads to in the schema, redacted.
-/

namespace TypedQuery

/-- A hidden field of which nothing is told. -/
def Field.blank : Field := { signature := { type := .lookup "" }, hidden := true }

mutual

/-- The same reference, with the type redacted that it holds inline. -/
def OutputRef.redact : OutputRef → OutputRef
  | .scalar leaf => .scalar leaf
  | .object type => .object type.redact
  | .lookup name => .lookup name
termination_by structural ref => ref

def Signature.redact : Signature → Signature
  | ⟨type, description, nullable, array, args, guard⟩ =>
    ⟨type.redact, description, nullable, array, args, guard⟩
termination_by structural signature => signature

/-- Nothing is told of a hidden field, which becomes `Field.blank`, and everything of any other. -/
def Field.redact : Field → Field
  | ⟨signature, resolver, deferred, hidden⟩ =>
    if hidden then .blank else ⟨signature.redact, resolver, deferred, hidden⟩
termination_by structural field => field

def ObjectType.redact : ObjectType → ObjectType
  | ⟨name, description, fields⟩ => ⟨name, description, redactFields fields⟩
termination_by structural type => type

def redactFields : List (String × Field) → List (String × Field)
  | [] => []
  | (key, field) :: rest => (key, field.redact) :: redactFields rest
termination_by structural fields => fields

end

namespace Signature

variable (signature : Signature)

@[simp] theorem type_redact : signature.redact.type = signature.type.redact := by
  cases signature; rfl

@[simp] theorem nullable_redact : signature.redact.nullable = signature.nullable := by
  cases signature; rfl

@[simp] theorem array_redact : signature.redact.array = signature.array := by
  cases signature; rfl

@[simp] theorem args_redact : signature.redact.args = signature.args := by
  cases signature; rfl

@[simp] theorem guard_redact : signature.redact.guard = signature.guard := by
  cases signature; rfl

end Signature

theorem Field.redact_of_hidden {field : Field} (h : field.hidden = true) :
    field.redact = .blank := by
  obtain ⟨signature, resolver, deferred, hidden⟩ := field
  exact if_pos h

theorem Field.redact_of_visible {field : Field} (h : field.hidden = false) :
    field.redact = { field with signature := field.signature.redact } := by
  obtain ⟨signature, resolver, deferred, hidden⟩ := field
  exact if_neg (ne_true_of_eq_false h)

/-- Redacting a field does not show it, nor hide it. -/
@[simp] theorem Field.hidden_redact (field : Field) : field.redact.hidden = field.hidden := by
  cases h : field.hidden with
  | true => rw [redact_of_hidden h, blank]
  | false => rw [redact_of_visible h, h]

theorem redactFields_eq_map (fields : List (String × Field)) :
    redactFields fields = fields.map fun field => (field.1, field.2.redact) := by
  induction fields with
  | nil => rfl
  | cons field fields ih => rw [redactFields, ih, List.map_cons]

/-- The fields of a redacted type bear the names of the fields of the type. -/
theorem ObjectType.get?_fields_redact (type : ObjectType) (key : String) :
    Entries.get? type.redact.fields key = (Entries.get? type.fields key).map Field.redact := by
  obtain ⟨name, description, fields⟩ := type
  rw [redact, redactFields_eq_map, Entries.get?_map]

def Operation.redact (root : Operation) : Operation :=
  { root with signature := root.signature.redact }

def ResolvedOutput.redact : ResolvedOutput → ResolvedOutput
  | .scalar leaf => .scalar leaf
  | .object type => .object type.redact

namespace Schema

/-- The schema without the definitions of hidden fields. -/
def redact (schema : Schema) : Schema :=
  { schema with
    objects := schema.objects.map fun entry => (entry.1, entry.2.redact)
    operations := schema.operations.map fun entry => (entry.1, entry.2.redact) }

variable (schema : Schema)

theorem operation?_redact (name : String) :
    schema.redact.operation? name = (schema.operation? name).map Operation.redact :=
  Entries.get?_map Operation.redact schema.operations name

theorem resolveOutput_redact (ref : OutputRef) :
    schema.redact.resolveOutput ref.redact
      = (schema.resolveOutput ref).map ResolvedOutput.redact := by
  cases ref with
  | scalar | object => rfl
  | lookup name =>
      have found : schema.redact.object? name = (schema.object? name).map ObjectType.redact :=
        Entries.get?_map ObjectType.redact schema.objects name
      rw [OutputRef.redact, resolveOutput, resolveOutput, found]
      cases schema.object? name <;> rfl

/-- Input types have no hidden members. -/
theorem resolveInput_redact : schema.redact.resolveInput = schema.resolveInput := by
  funext ref
  cases ref <;> rfl

end Schema

end TypedQuery
