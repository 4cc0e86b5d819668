import TypedQuery.Schema.Basic

/-!
# Schemas without their descriptions

Every type, field and operation may be described, in registered types as well as in those that are
held inline, at any depth. `Schema.undescribed` leaves all of it out, so two schemas that are the
same without descriptions differ in nothing but descriptions. What a look-up leads to in a schema
without descriptions is what it leads to in the schema, without descriptions.
-/

namespace TypedQuery

def Scalar.undescribed (scalar : Scalar) : Scalar := { scalar with description := none }

mutual

/-- The same reference, with the type undescribed that it holds inline. -/
def InputRef.undescribed : InputRef → InputRef
  | .scalar leaf => .scalar leaf.undescribed
  | .input type => .input type.undescribed
  | .lookup name => .lookup name
termination_by structural ref => ref

def Slot.undescribed : Slot → Slot
  | ⟨type, required, nullable, array⟩ => ⟨type.undescribed, required, nullable, array⟩
termination_by structural slot => slot

def InputType.undescribed : InputType → InputType
  | ⟨name, _, fields, check⟩ => ⟨name, none, undescribedSlots fields, check⟩
termination_by structural type => type

def undescribedSlots : List (String × Slot) → List (String × Slot)
  | [] => []
  | (key, slot) :: rest => (key, slot.undescribed) :: undescribedSlots rest
termination_by structural fields => fields

end

mutual

def OutputRef.undescribed : OutputRef → OutputRef
  | .scalar leaf => .scalar leaf.undescribed
  | .object type => .object type.undescribed
  | .lookup name => .lookup name
termination_by structural ref => ref

def Signature.undescribed : Signature → Signature
  | ⟨type, _, nullable, array, args, guard⟩ =>
    ⟨type.undescribed, none, nullable, array, args.map Slot.undescribed, guard⟩
termination_by structural signature => signature

def Field.undescribed : Field → Field
  | ⟨signature, resolver, deferred, hidden⟩ =>
    ⟨signature.undescribed, resolver, deferred, hidden⟩
termination_by structural field => field

def ObjectType.undescribed : ObjectType → ObjectType
  | ⟨name, _, fields⟩ => ⟨name, none, undescribedFields fields⟩
termination_by structural type => type

def undescribedFields : List (String × Field) → List (String × Field)
  | [] => []
  | (key, field) :: rest => (key, field.undescribed) :: undescribedFields rest
termination_by structural fields => fields

end

theorem undescribedSlots_eq_map (fields : List (String × Slot)) :
    undescribedSlots fields = fields.map fun (key, slot) => (key, slot.undescribed) := by
  induction fields with
  | nil => rfl
  | cons field fields ih => rw [undescribedSlots, ih, List.map_cons]

theorem undescribedFields_eq_map (fields : List (String × Field)) :
    undescribedFields fields = fields.map fun (key, field) => (key, field.undescribed) := by
  induction fields with
  | nil => rfl
  | cons field fields ih => rw [undescribedFields, ih, List.map_cons]

namespace Slot

variable (slot : Slot)

@[simp] theorem type_undescribed : slot.undescribed.type = slot.type.undescribed := by
  cases slot; rfl

@[simp] theorem required_undescribed : slot.undescribed.required = slot.required := by
  cases slot; rfl

@[simp] theorem nullable_undescribed : slot.undescribed.nullable = slot.nullable := by
  cases slot; rfl

@[simp] theorem array_undescribed : slot.undescribed.array = slot.array := by
  cases slot; rfl

end Slot

namespace InputType

variable (type : InputType)

@[simp] theorem name_undescribed : type.undescribed.name = type.name := by
  cases type; rfl

@[simp] theorem description_undescribed : type.undescribed.description = none := by
  cases type; rfl

theorem fields_undescribed :
    type.undescribed.fields = type.fields.map fun (key, slot) => (key, slot.undescribed) := by
  cases type
  exact undescribedSlots_eq_map _

end InputType

namespace Signature

variable (signature : Signature)

@[simp] theorem type_undescribed :
    signature.undescribed.type = signature.type.undescribed := by
  cases signature; rfl

@[simp] theorem description_undescribed : signature.undescribed.description = none := by
  cases signature; rfl

@[simp] theorem nullable_undescribed :
    signature.undescribed.nullable = signature.nullable := by
  cases signature; rfl

@[simp] theorem array_undescribed : signature.undescribed.array = signature.array := by
  cases signature; rfl

@[simp] theorem args_undescribed :
    signature.undescribed.args = signature.args.map Slot.undescribed := by
  cases signature; rfl

end Signature

namespace Field

variable (field : Field)

@[simp] theorem signature_undescribed :
    field.undescribed.signature = field.signature.undescribed := by
  cases field; rfl

@[simp] theorem hidden_undescribed : field.undescribed.hidden = field.hidden := by
  cases field; rfl

end Field

namespace ObjectType

variable (type : ObjectType)

@[simp] theorem name_undescribed : type.undescribed.name = type.name := by
  cases type; rfl

@[simp] theorem description_undescribed : type.undescribed.description = none := by
  cases type; rfl

theorem fields_undescribed :
    type.undescribed.fields = type.fields.map fun (key, field) => (key, field.undescribed) := by
  cases type
  exact undescribedFields_eq_map _

end ObjectType

def Operation.undescribed (root : Operation) : Operation :=
  { root with signature := root.signature.undescribed }

namespace Schema

/-- The schema without any descriptions. -/
def undescribed (schema : Schema) : Schema where
  scalars := schema.scalars.map fun (name, scalar) => (name, scalar.undescribed)
  objects := schema.objects.map fun (name, type) => (name, type.undescribed)
  inputs := schema.inputs.map fun (name, type) => (name, type.undescribed)
  operations := schema.operations.map fun (name, root) => (name, root.undescribed)

variable (schema : Schema)

theorem get?_objects_undescribed (name : String) :
    Entries.get? schema.undescribed.objects name
      = (Entries.get? schema.objects name).map ObjectType.undescribed :=
  Entries.get?_map ObjectType.undescribed schema.objects name

theorem get?_inputs_undescribed (name : String) :
    Entries.get? schema.undescribed.inputs name
      = (Entries.get? schema.inputs name).map InputType.undescribed :=
  Entries.get?_map InputType.undescribed schema.inputs name

end Schema

end TypedQuery
