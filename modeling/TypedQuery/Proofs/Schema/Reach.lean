import TypedQuery.Proofs.Schema.Dangling
import TypedQuery.Proofs.Schema.Typing

/-!
# Look-ups in reach

From what is registered one gets to further types, by their names and through types that are held
inline. A schema is `Complete` if all look-ups on the way lead somewhere. The list of dangling
look-ups tells of what is registered only. It tells everything if the types that are held inline
are registered, too.
-/

namespace TypedQuery.Schema

variable (schema : Schema)

/-- The slot of a declared signature, or of an input type, whether the type is registered or is held
inline by a slot that is declared itself. -/
inductive Takes : Slot → Prop
  | args {signature slot} : schema.Declares signature → signature.args = some slot → Takes slot
  | registered {name type key slot} : (name, type) ∈ schema.inputs →
      (key, slot) ∈ type.fields → Takes slot
  | inline {slot type key inner} : Takes slot → slot.type = .input type →
      (key, inner) ∈ type.fields → Takes inner

/-- Something in reach refers to an object type of that name. -/
def ReachesObject (name : String) : Prop :=
  ∃ signature, schema.Declares signature ∧ signature.type = .lookup name

/-- Something in reach refers to an input type of that name. -/
def ReachesInput (name : String) : Prop :=
  ∃ slot, schema.Takes slot ∧ slot.type = .lookup name

/-- Every look-up in reach, in the sense of `ReachesObject` and `ReachesInput`, leads to a type. -/
structure Complete : Prop where
  objects : ∀ name, schema.ReachesObject name → schema.object? name ≠ none
  inputs : ∀ name, schema.ReachesInput name → schema.input? name ≠ none

/-- The types that something registered holds inline are registered themselves. -/
structure InlineRegistered : Prop where
  objects : ∀ signature type, schema.Registers signature → signature.type = .object type →
    ∃ name, (name, type) ∈ schema.objects
  inputs : ∀ slot type, schema.RegistersSlot slot → slot.type = .input type →
    ∃ name, (name, type) ∈ schema.inputs

variable {schema} {signature : Signature} {slot : Slot}

theorem Registers.declares (registered : schema.Registers signature) :
    schema.Declares signature := by
  obtain ⟨operation, registered, rfl⟩ | ⟨type, registered, field, inside, rfl⟩ := registered
  · exact .operation registered
  · exact .registered registered inside

theorem RegistersSlot.takes (registered : schema.RegistersSlot slot) : schema.Takes slot := by
  obtain ⟨signature, registered, args⟩ | ⟨type, registered, field, inside, rfl⟩ := registered
  · exact .args registered.declares args
  · exact .registered registered inside

/-- Where inline types are registered, everything in reach is registered. -/
theorem InlineRegistered.registers (closed : schema.InlineRegistered)
    (declared : schema.Declares signature) : schema.Registers signature := by
  induction declared with
  | operation registered => exact .inl ⟨_, registered, rfl⟩
  | registered registered inside => exact .inr ⟨_, registered, _, inside, rfl⟩
  | inline _ holds inside ih =>
      obtain ⟨name, registered⟩ := closed.objects _ _ ih holds
      exact .inr ⟨_, registered, _, inside, rfl⟩

theorem InlineRegistered.registersSlot (closed : schema.InlineRegistered)
    (taken : schema.Takes slot) : schema.RegistersSlot slot := by
  induction taken with
  | args declared args => exact .inl ⟨_, closed.registers declared, args⟩
  | registered registered inside => exact .inr ⟨_, registered, _, inside, rfl⟩
  | inline _ holds inside ih =>
      obtain ⟨name, registered⟩ := closed.inputs _ _ ih holds
      exact .inr ⟨_, registered, _, inside, rfl⟩

theorem InlineRegistered.refersToObject_iff (closed : schema.InlineRegistered) {name : String} :
    schema.RefersToObject name ↔ schema.ReachesObject name := by
  constructor
  · rintro ⟨signature, registered, refers⟩
    exact ⟨signature, registered.declares, refers⟩
  · rintro ⟨signature, declared, refers⟩
    exact ⟨signature, closed.registers declared, refers⟩

theorem InlineRegistered.refersToInput_iff (closed : schema.InlineRegistered) {name : String} :
    schema.RefersToInput name ↔ schema.ReachesInput name := by
  constructor
  · rintro ⟨slot, registered, refers⟩
    exact ⟨slot, registered.takes, refers⟩
  · rintro ⟨slot, taken, refers⟩
    exact ⟨slot, closed.registersSlot taken, refers⟩

/-- If nothing dangles and inline types are registered, the schema is complete. -/
theorem InlineRegistered.complete (closed : schema.InlineRegistered)
    (nothing : schema.dangling = []) : schema.Complete where
  objects := by
    intro name reached missing
    have dangles : "object:" ++ name ∈ schema.dangling :=
      object_mem_dangling_iff.mpr ⟨closed.refersToObject_iff.mpr reached, missing⟩
    rw [nothing] at dangles
    cases dangles
  inputs := by
    intro name reached missing
    have dangles : "input:" ++ name ∈ schema.dangling :=
      input_mem_dangling_iff.mpr ⟨closed.refersToInput_iff.mpr reached, missing⟩
    rw [nothing] at dangles
    cases dangles

namespace Complete

variable (complete : schema.Complete)
include complete

theorem resolveOutput (declared : schema.Declares signature) :
    ∃ type, schema.resolveOutput signature.type = .ok type := by
  cases ref : signature.type with
  | scalar | object => exact ⟨_, rfl⟩
  | lookup name =>
      obtain ⟨type, found⟩ :=
        Option.ne_none_iff_exists'.mp (complete.objects name ⟨signature, declared, ref⟩)
      exact ⟨.object type, by rw [Schema.resolveOutput, found]⟩

theorem resolveInput (taken : schema.Takes slot) :
    ∃ type, schema.resolveInput slot.type = .ok type := by
  cases ref : slot.type with
  | scalar | input => exact ⟨_, rfl⟩
  | lookup name =>
      have registered : schema.input? name ≠ none := complete.inputs name ⟨slot, taken, ref⟩
      obtain ⟨type, found⟩ := Option.ne_none_iff_exists'.mp registered
      exact ⟨.input type, by rw [Schema.resolveInput, found]⟩

end Complete

/-- A slot leads to the slots of its type. -/
theorem Takes.member (taken : schema.Takes slot) {type : InputType}
    (resolved : schema.resolveInput slot.type = .ok (.input type)) {key : String} {inner : Slot}
    (inside : (key, inner) ∈ type.fields) : schema.Takes inner := by
  obtain ref | ⟨name, _, found⟩ := resolveInput_eq_input_iff.mp resolved
  · exact .inline taken ref inside
  · exact .registered (Entries.mem_of_get?_eq_some found) inside

end TypedQuery.Schema
