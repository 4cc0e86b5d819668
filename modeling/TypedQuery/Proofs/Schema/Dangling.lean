import Mathlib.Data.List.Sort
import Mathlib.Data.String.Basic
import TypedQuery.Proofs.Schema.Registration
import TypedQuery.Schema.Dangling

/-!
# Which look-ups dangle

The list `Schema.dangling` is strictly ascending, and what it lists are the references of the
registered definitions' own fields and slots to names that the tables lack, as `RefersToObject` and
`RefersToInput` say. So it does not matter in which order they were registered.
-/

namespace TypedQuery.Schema

theorem mem_insertAscending {text other : String} {sorted : List String} :
    other ∈ insertAscending text sorted ↔ other = text ∨ other ∈ sorted := by
  induction sorted with
  | nil => simp [insertAscending]
  | cons first rest ih =>
      unfold insertAscending
      split
      · exact List.mem_cons
      · split
        · rename_i same
          subst same
          simp
        · rw [List.mem_cons, List.mem_cons, ih, or_left_comm]

theorem pairwise_insertAscending (text : String) {sorted : List String}
    (h : sorted.Pairwise (· < ·)) : (insertAscending text sorted).Pairwise (· < ·) := by
  induction sorted with
  | nil => exact List.pairwise_singleton _ _
  | cons first rest ih =>
      obtain ⟨below, ascending⟩ := List.pairwise_cons.mp h
      unfold insertAscending
      split
      · rename_i before
        refine List.pairwise_cons.mpr ⟨?_, h⟩
        exact List.forall_mem_cons.mpr
          ⟨before, fun other inside => before.trans (below other inside)⟩
      · rename_i notBefore
        split
        · exact h
        · rename_i different
          have after : first < text := lt_of_le_of_ne (not_lt.mp notBefore) (Ne.symm different)
          refine List.pairwise_cons.mpr ⟨?_, ih ascending⟩
          intro other inside
          obtain rfl | inside := mem_insertAscending.mp inside
          · exact after
          · exact below other inside

/-- Each dangling look-up is listed once, in ascending order. -/
theorem pairwise_dangling (schema : Schema) : schema.dangling.Pairwise (· < ·) := by
  have inserted (texts sorted : List String) (ascending : sorted.Pairwise (· < ·)) :
      (texts.foldl (fun sorted text => insertAscending text sorted) sorted).Pairwise (· < ·) := by
    induction texts generalizing sorted with
    | nil => exact ascending
    | cons text texts ih => exact ih _ (pairwise_insertAscending text ascending)
  exact inserted _ _ List.Pairwise.nil

theorem mem_dangling_iff {schema : Schema} {text : String} :
    text ∈ schema.dangling ↔ text ∈ schema.danglingReferences := by
  have inserted (texts sorted : List String) :
      text ∈ texts.foldl (fun sorted text => insertAscending text sorted) sorted ↔
        text ∈ texts ∨ text ∈ sorted := by
    induction texts generalizing sorted with
    | nil => simp
    | cons first texts ih =>
        rw [List.foldl_cons, ih, mem_insertAscending, List.mem_cons, or_left_comm, or_assoc]
  rw [dangling, inserted]
  simp

variable {schema : Schema}

/-- The signature is that of an operation or of a field of a registered type. -/
def Registers (schema : Schema) (signature : Signature) : Prop :=
  (∃ operation ∈ schema.operations, signature = operation.2.signature) ∨
    ∃ type ∈ schema.objects, ∃ field ∈ type.2.fields, signature = field.2.signature

/-- The slot is that of such a signature or of a registered input type. -/
def RegistersSlot (schema : Schema) (slot : Slot) : Prop :=
  (∃ signature, schema.Registers signature ∧ signature.args = some slot) ∨
    ∃ type ∈ schema.inputs, ∃ field ∈ type.2.fields, slot = field.2

/-- Something that is registered refers to an object type of that name. -/
def RefersToObject (schema : Schema) (name : String) : Prop :=
  ∃ signature, schema.Registers signature ∧ signature.type = .lookup name

/-- Something that is registered refers to an input type of that name. -/
def RefersToInput (schema : Schema) (name : String) : Prop :=
  ∃ slot, schema.RegistersSlot slot ∧ slot.type = .lookup name

theorem mem_danglingSlot_iff {slot : Slot} {text : String} :
    text ∈ schema.danglingSlot slot ↔
      ∃ name, slot.type = .lookup name ∧ schema.input? name = none ∧ text = "input:" ++ name := by
  unfold danglingSlot
  cases slot.type with
  | scalar | input => simp
  | lookup name =>
      cases held : schema.input? name <;> simp_all [Entries.has, input?]

theorem mem_danglingSignature_iff {signature : Signature} {text : String} :
    text ∈ schema.danglingSignature signature ↔
      (∃ name, signature.type = .lookup name ∧ schema.object? name = none ∧
        text = "object:" ++ name) ∨
      ∃ slot, signature.args = some slot ∧ text ∈ schema.danglingSlot slot := by
  unfold danglingSignature
  rw [List.mem_append]
  refine or_congr ?_ ?_
  · cases signature.type with
    | scalar | object => simp
    | lookup name => cases held : schema.object? name <;> simp_all [Entries.has, object?]
  · cases signature.args <;> simp

/-- What `danglingReferences` lists are the references of registered definitions to names that are
not there. -/
theorem mem_danglingReferences_iff {text : String} :
    text ∈ schema.danglingReferences ↔
      (∃ name, schema.RefersToObject name ∧ schema.object? name = none ∧
        text = "object:" ++ name) ∨
      ∃ name, schema.RefersToInput name ∧ schema.input? name = none ∧
        text = "input:" ++ name := by
  have listed : text ∈ schema.danglingReferences ↔
      (∃ signature, schema.Registers signature ∧
        text ∈ schema.danglingSignature signature) ∨
      ∃ type ∈ schema.inputs, ∃ field ∈ type.2.fields, text ∈ schema.danglingSlot field.2 := by
    simp only [danglingReferences, List.mem_append, List.mem_flatMap, Registers]
    constructor
    · rintro ((⟨type, registered, field, declared, here⟩ | inSlot) | ⟨operation, registered, here⟩)
      · exact .inl ⟨_, .inr ⟨type, registered, field, declared, rfl⟩, here⟩
      · exact .inr inSlot
      · exact .inl ⟨_, .inl ⟨operation, registered, rfl⟩, here⟩
    · rintro (⟨_, ⟨operation, registered, rfl⟩ | ⟨type, registered, field, declared, rfl⟩, here⟩ |
        inSlot)
      · exact .inr ⟨operation, registered, here⟩
      · exact .inl (.inl ⟨type, registered, field, declared, here⟩)
      · exact .inl (.inr inSlot)
  rw [listed]
  simp only [mem_danglingSignature_iff, mem_danglingSlot_iff, RefersToObject, RefersToInput,
    RegistersSlot]
  constructor
  · rintro (⟨signature, declared, ⟨name, refers, missing, rfl⟩ |
      ⟨slot, args, name, refers, missing, rfl⟩⟩ |
      ⟨type, registered, field, declared, name, refers, missing, rfl⟩)
    · exact .inl ⟨name, ⟨signature, declared, refers⟩, missing, rfl⟩
    · exact .inr ⟨name, ⟨slot, .inl ⟨signature, declared, args⟩, refers⟩, missing, rfl⟩
    · exact .inr ⟨name, ⟨field.2, .inr ⟨type, registered, field, declared, rfl⟩, refers⟩,
        missing, rfl⟩
  · rintro (⟨name, ⟨signature, declared, refers⟩, missing, rfl⟩ |
      ⟨name, ⟨slot, ⟨signature, declared, args⟩ | ⟨type, registered, field, declared, rfl⟩,
        refers⟩, missing, rfl⟩)
    · exact .inl ⟨signature, declared, .inl ⟨name, refers, missing, rfl⟩⟩
    · exact .inl ⟨signature, declared, .inr ⟨slot, args, name, refers, missing, rfl⟩⟩
    · exact .inr ⟨type, registered, field, declared, name, refers, missing, rfl⟩

/-- An object type is listed as dangling exactly if it is referred to and is not registered. -/
theorem object_mem_dangling_iff {name : String} :
    "object:" ++ name ∈ schema.dangling ↔
      schema.RefersToObject name ∧ schema.object? name = none := by
  rw [mem_dangling_iff, mem_danglingReferences_iff]
  constructor
  · rintro (⟨other, refers, missing, same⟩ | ⟨other, _, _, same⟩)
    · obtain rfl : name = other := by simpa using same
      exact ⟨refers, missing⟩
    · have letters := congrArg String.toList same
      simp at letters
  · rintro ⟨refers, missing⟩
    exact .inl ⟨name, refers, missing, rfl⟩

/-- An input type is listed as dangling exactly if it is referred to and is not registered. -/
theorem input_mem_dangling_iff {name : String} :
    "input:" ++ name ∈ schema.dangling ↔
      schema.RefersToInput name ∧ schema.input? name = none := by
  rw [mem_dangling_iff, mem_danglingReferences_iff]
  constructor
  · rintro (⟨other, _, _, same⟩ | ⟨other, refers, missing, same⟩)
    · have letters := congrArg String.toList same
      simp at letters
    · obtain rfl : name = other := by simpa using same
      exact ⟨refers, missing⟩
  · rintro ⟨refers, missing⟩
    exact .inr ⟨name, refers, missing, rfl⟩

namespace Reorders

variable {other : Schema} (h : other.Reorders schema)
include h

/-- What is registered does not depend on the order. -/
theorem registers {signature : Signature} (declared : schema.Registers signature) :
    other.Registers signature := by
  obtain ⟨operation, registered, rfl⟩ | ⟨type, registered, field, inside, rfl⟩ := declared
  · exact .inl ⟨operation, h.operations.mem_iff.mpr registered, rfl⟩
  · exact .inr ⟨type, h.objects.mem_iff.mpr registered, field, inside, rfl⟩

theorem registersSlot {slot : Slot} (declared : schema.RegistersSlot slot) :
    other.RegistersSlot slot := by
  obtain ⟨signature, declared, args⟩ | ⟨type, registered, field, inside, rfl⟩ := declared
  · exact .inl ⟨signature, h.registers declared, args⟩
  · exact .inr ⟨type, h.inputs.mem_iff.mpr registered, field, inside, rfl⟩

theorem danglingReferences {text : String} (dangles : text ∈ schema.danglingReferences) :
    text ∈ other.danglingReferences := by
  rw [mem_danglingReferences_iff] at dangles ⊢
  obtain ⟨name, ⟨signature, declared, refers⟩, missing, same⟩ |
    ⟨name, ⟨slot, declared, refers⟩, missing, same⟩ := dangles
  · exact .inl ⟨name, ⟨signature, h.registers declared, refers⟩,
      (congrFun h.object? name).trans missing, same⟩
  · exact .inr ⟨name, ⟨slot, h.registersSlot declared, refers⟩,
      (congrFun h.input? name).trans missing, same⟩

theorem dangling : other.dangling = schema.dangling := by
  refine List.Pairwise.eq_of_mem_iff other.pairwise_dangling schema.pairwise_dangling ?_
  intro text
  rw [mem_dangling_iff, mem_dangling_iff]
  exact ⟨h.symm.danglingReferences, h.danglingReferences⟩

end Reorders

end TypedQuery.Schema
