import TypedQuery.Proofs.Schema.History

/-!
# Schemas that grow

Registering a definition under a new name lets one more look-up succeed, the one for that name,
which is `Registration.missing?`. All other look-ups are answered as before, as `Schema.GrowsInto`
says. No look-up leads to a registered scalar, since fields and slots hold their scalars themselves.
-/

namespace TypedQuery

/-- Of a table in which a new name was written, only the look-up of that name is answered
otherwise. -/
theorem Entries.Writes.get?_eq_or {α : Type} {name : String} {value : α}
    {entries written : List (String × α)} (h : Writes name value entries written)
    (new : name ∉ keys entries) (other : String) :
    get? written other = get? entries other ∨ other = name ∧ get? entries other = none := by
  cases h with
  | added =>
    by_cases same : other = name
    · subst same
      exact .inr ⟨rfl, get?_eq_none_iff.mpr new⟩
    · rw [get?_append, get?_cons, if_neg (Ne.symm same), get?_nil, Option.or_none]
      exact .inl rfl
  | replaced => exact absurd (by simp [keys]) new

/-- The error for which a request fails as long as the definition is not registered, if there is
one. -/
def Registration.missing? : Registration → Option Cause
  | .scalar .. => none
  | .object type _ => some (.query (.unknownObject type.name))
  | .input type _ => some (.args (.unknownInput type.name))
  | .operation root => some (.query (.unknownOperation root.name))

namespace Schema

/-- The other schema answers every look-up alike, except for those that fail for the missing
cause. -/
structure GrowsInto (schema other : Schema) (missing : Option Cause) : Prop where
  outputs : ∀ ref, other.resolveOutput ref = schema.resolveOutput ref ∨
    ∃ error, missing = some error.cause ∧ schema.resolveOutput ref = .error error
  inputs : ∀ ref, other.resolveInput ref = schema.resolveInput ref ∨
    ∃ error, missing = some error.cause ∧ schema.resolveInput ref = .error error
  operations : ∀ name, other.operation? name = schema.operation? name ∨
    missing = some (.query (.unknownOperation name)) ∧ schema.operation? name = none

/-- No definition stands under the name of the registration in the table that it is for. -/
def IsNew (schema : Schema) : Registration → Prop
  | .scalar leaf _ => leaf.name ∉ Entries.keys schema.scalars
  | .object type _ => type.name ∉ Entries.keys schema.objects
  | .input type _ => type.name ∉ Entries.keys schema.inputs
  | .operation root => root.name ∉ Entries.keys schema.operations

variable {schema next : Schema} {registration : Registration}

theorem growsInto_self (schema : Schema) (missing : Option Cause) :
    schema.GrowsInto schema missing :=
  ⟨fun _ => .inl rfl, fun _ => .inl rfl, fun _ => .inl rfl⟩

/-- Look-ups depend on the tables only through the names that are looked up. -/
theorem growsInto_of_tables {other : Schema} {missing : Option Cause}
    (objects : ∀ name, other.object? name = schema.object? name ∨
      missing = some (.query (.unknownObject name)) ∧ schema.object? name = none)
    (inputs : ∀ name, other.input? name = schema.input? name ∨
      missing = some (.args (.unknownInput name)) ∧ schema.input? name = none)
    (operations : ∀ name, other.operation? name = schema.operation? name ∨
      missing = some (.query (.unknownOperation name)) ∧ schema.operation? name = none) :
    schema.GrowsInto other missing := by
  refine ⟨fun ref => ?outputs, fun ref => ?inputs, operations⟩
  case outputs =>
    cases ref with
    | scalar | object => exact .inl rfl
    | lookup name =>
      rw [resolveOutput, resolveOutput]
      obtain same | ⟨lacks, unknown⟩ := objects name
      · exact .inl (by rw [same])
      · exact .inr ⟨.query (.unknownObject name), lacks, by rw [unknown]⟩
  case inputs =>
    cases ref with
    | scalar | input => exact .inl rfl
    | lookup name =>
      rw [resolveInput, resolveInput]
      obtain same | ⟨lacks, unknown⟩ := inputs name
      · exact .inl (by rw [same])
      · exact .inr ⟨.args (.unknownInput name), lacks, by rw [unknown]⟩

theorem growsInto_withScalars (schema : Schema) (scalars : List (String × Scalar))
    (missing : Option Cause) : schema.GrowsInto { schema with scalars } missing :=
  growsInto_of_tables (fun _ => .inl rfl) (fun _ => .inl rfl) fun _ => .inl rfl

/-- A definition that the schema `Accepts` under a new name lets the look-up of its name succeed. -/
theorem Accepts.growsInto (h : schema.Accepts registration next) (new : schema.IsNew registration) :
    schema.GrowsInto next registration.missing? := by
  cases h with
  | scalar => exact schema.growsInto_withScalars _ _
  | object unreserved may writes =>
    refine growsInto_of_tables (fun name => ?_) (fun _ => .inl rfl) fun _ => .inl rfl
    obtain same | ⟨rfl, unknown⟩ := writes.get?_eq_or new name
    · exact .inl same
    · exact .inr ⟨rfl, unknown⟩
  | input may writes =>
    refine growsInto_of_tables (fun _ => .inl rfl) (fun name => ?_) fun _ => .inl rfl
    obtain same | ⟨rfl, unknown⟩ := writes.get?_eq_or new name
    · exact .inl same
    · exact .inr ⟨rfl, unknown⟩
  | @operation root fresh =>
    have writes : Entries.Writes root.name root schema.operations _ := .added fresh
    refine growsInto_of_tables (fun _ => .inl rfl) (fun _ => .inl rfl) fun name => ?_
    obtain same | ⟨rfl, unknown⟩ := writes.get?_eq_or new name
    · exact .inl same
    · exact .inr ⟨rfl, unknown⟩

/-- Trying a definition with a new name answers at most the look-up of its name otherwise. -/
theorem growsInto_attempt (new : schema.IsNew registration) :
    schema.GrowsInto (schema.attempt registration) registration.missing? := by
  obtain same | accepts := schema.attempt_eq_or_accepts registration
  · rw [same]
    exact schema.growsInto_self _
  · exact accepts.growsInto new

/-- A scalar is registered, replaced or refused without any effect on look-ups. -/
theorem growsInto_attempt_scalar (schema : Schema) (scalar : Scalar) (override : Bool) :
    schema.GrowsInto (schema.attempt (.scalar scalar override)) none := by
  obtain same | accepts := schema.attempt_eq_or_accepts (.scalar scalar override)
  · rw [same]
    exact schema.growsInto_self none
  · generalize schema.attempt (.scalar scalar override) = after at accepts ⊢
    cases accepts with
    | scalar => exact schema.growsInto_withScalars _ none

/-- What is refused has no effect at all: an `attempt` leaves the schema as it is. -/
theorem attempt_of_refused {error : Error} (refused : schema.register registration = .error error) :
    schema.attempt registration = schema := by
  rw [attempt, refused]

end Schema

end TypedQuery
