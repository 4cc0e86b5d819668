import TypedQuery.Schema.Basic

/-!
# Registration

A schema is built by registering definitions one after the other, with `Schema.registerAll`.
Definitions with new names, which are `Fresh`, go to the ends of their tables, so that registering
them cannot fail, and no look-up can tell in which order they came.
-/

namespace TypedQuery

namespace Entries

variable {α : Type}

/-- The names of the second table are new to the first, and each comes once. -/
structure Fresh (entries more : List (String × α)) : Prop where
  unique : (keys more).Nodup
  new : ∀ name ∈ keys more, name ∉ keys entries

/-- What is new is new to a table with some of it already. -/
theorem Fresh.of_append {entries first second : List (String × α)}
    (h : Fresh entries (first ++ second)) :
    Fresh entries first ∧ Fresh (entries ++ first) second := by
  obtain ⟨unique, new⟩ := h
  rw [keys, List.map_append] at unique new
  obtain ⟨uniqueFirst, uniqueSecond, apart⟩ := List.nodup_append.mp unique
  obtain ⟨newFirst, newSecond⟩ := List.forall_mem_append.mp new
  refine ⟨⟨uniqueFirst, newFirst⟩, uniqueSecond, fun name named held => ?_⟩
  rw [keys, List.map_append] at held
  obtain held | held := List.mem_append.mp held
  · exact newSecond name named held
  · exact apart name held name named rfl

theorem Fresh.put {entries : List (String × α)} {name : String} {value : α}
    (h : Fresh entries [(name, value)]) :
    has entries name = false ∧ Entries.put entries name value = entries ++ [(name, value)] := by
  have new : name ∉ keys entries := h.new name List.mem_cons_self
  refine ⟨?_, put_of_not_mem new value⟩
  rwa [Bool.eq_false_iff, ne_eq, has_eq_true_iff]

theorem Fresh.perm {entries more reordered : List (String × α)} (h : Fresh entries more)
    (reordering : more.Perm reordered) : Fresh entries reordered := by
  have names : (keys more).Perm (keys reordered) := reordering.map Prod.fst
  exact ⟨names.nodup_iff.mp h.unique, fun name named => h.new name (names.mem_iff.mpr named)⟩

/-- Look-ups do not tell in which order new names were added. -/
theorem get?_append_perm {entries more reordered : List (String × α)} (fresh : Fresh entries more)
    (reordering : more.Perm reordered) (name : String) :
    get? (entries ++ reordered) name = get? (entries ++ more) name := by
  rw [get?_append, get?_append, get?_perm fresh.unique reordering]

end Entries

/-- A definition that is to be registered, with whether it may replace another one. -/
inductive Registration where
  | scalar (scalar : Scalar) (override : Bool)
  | object (type : ObjectType) (replace : Bool)
  | input (type : InputType) (replace : Bool)
  | operation (operation : Operation)

namespace Registration

/-- What is added to the table of scalars, and likewise below for the other tables. -/
def scalar? : Registration → Option (String × Scalar)
  | .scalar leaf _ => some (leaf.name, leaf)
  | _ => none

def object? : Registration → Option (String × ObjectType)
  | .object type _ => some (type.name, type)
  | _ => none

def input? : Registration → Option (String × InputType)
  | .input type _ => some (type.name, type)
  | _ => none

def operation? : Registration → Option (String × Operation)
  | .operation root => some (root.name, root)
  | _ => none

end Registration

namespace Schema

def register (schema : Schema) : Registration → Except Error Schema
  | .scalar scalar override => schema.addScalar scalar override
  | .object type replace => schema.addObject type replace
  | .input type replace => schema.addInput type replace
  | .operation operation => schema.addOperation operation

/-- Registers definitions in order, until one is refused. -/
def registerAll (schema : Schema) (registrations : List Registration) : Except Error Schema :=
  registrations.foldlM register schema

/-- The schema with definitions at the ends of its tables. -/
def extend (schema : Schema) (registrations : List Registration) : Schema where
  scalars := schema.scalars ++ registrations.filterMap Registration.scalar?
  objects := schema.objects ++ registrations.filterMap Registration.object?
  inputs := schema.inputs ++ registrations.filterMap Registration.input?
  operations := schema.operations ++ registrations.filterMap Registration.operation?

/-- The names are new to their tables, and in each table all different; no object type has a field
named like the arguments. -/
structure Fresh (schema : Schema) (registrations : List Registration) : Prop where
  scalars : Entries.Fresh schema.scalars (registrations.filterMap Registration.scalar?)
  objects : Entries.Fresh schema.objects (registrations.filterMap Registration.object?)
  inputs : Entries.Fresh schema.inputs (registrations.filterMap Registration.input?)
  operations : Entries.Fresh schema.operations (registrations.filterMap Registration.operation?)
  unreserved : ∀ entry ∈ registrations.filterMap Registration.object?,
    Entries.has entry.2.fields argsKey = false

variable {schema : Schema} {registrations reordered : List Registration}

theorem Fresh.of_append {first second : List Registration}
    (h : schema.Fresh (first ++ second)) :
    schema.Fresh first ∧ (schema.extend first).Fresh second := by
  obtain ⟨scalars, objects, inputs, operations, unreserved⟩ := h
  rw [List.filterMap_append] at scalars objects inputs operations unreserved
  obtain ⟨scalarsFirst, scalarsSecond⟩ := scalars.of_append
  obtain ⟨objectsFirst, objectsSecond⟩ := objects.of_append
  obtain ⟨inputsFirst, inputsSecond⟩ := inputs.of_append
  obtain ⟨operationsFirst, operationsSecond⟩ := operations.of_append
  obtain ⟨unreservedFirst, unreservedSecond⟩ := List.forall_mem_append.mp unreserved
  exact ⟨⟨scalarsFirst, objectsFirst, inputsFirst, operationsFirst, unreservedFirst⟩,
    ⟨scalarsSecond, objectsSecond, inputsSecond, operationsSecond, unreservedSecond⟩⟩

theorem Fresh.perm (h : schema.Fresh registrations) (reordering : registrations.Perm reordered) :
    schema.Fresh reordered where
  scalars := h.scalars.perm (reordering.filterMap _)
  objects := h.objects.perm (reordering.filterMap _)
  inputs := h.inputs.perm (reordering.filterMap _)
  operations := h.operations.perm (reordering.filterMap _)
  unreserved := fun entry inside =>
    h.unreserved entry ((reordering.filterMap _).mem_iff.mpr inside)

theorem extend_append (schema : Schema) (first second : List Registration) :
    schema.extend (first ++ second) = (schema.extend first).extend second := by
  simp only [extend, List.filterMap_append, List.append_assoc]

@[simp] theorem extend_nil (schema : Schema) : schema.extend [] = schema := by
  simp only [extend, List.filterMap_nil, List.append_nil]

/-- A definition with a new name goes to the end of its table: `register` extends the schema. -/
theorem register_of_fresh {registration : Registration} (fresh : schema.Fresh [registration]) :
    schema.register registration = .ok (schema.extend [registration]) := by
  cases registration with
  | scalar scalar override =>
      obtain ⟨new, written⟩ := Entries.Fresh.put fresh.scalars
      simp [register, addScalar, new, written, extend, Registration.scalar?, Registration.object?,
        Registration.input?, Registration.operation?]
  | object type replace =>
      obtain ⟨new, written⟩ := Entries.Fresh.put fresh.objects
      have unreserved : Entries.has type.fields argsKey = false :=
        fresh.unreserved _ List.mem_cons_self
      simp [register, addObject, new, written, unreserved, extend, Registration.scalar?,
        Registration.object?, Registration.input?, Registration.operation?]
  | input type replace =>
      obtain ⟨new, written⟩ := Entries.Fresh.put fresh.inputs
      simp [register, addInput, new, written, extend, Registration.scalar?, Registration.object?,
        Registration.input?, Registration.operation?]
  | operation operation =>
      obtain ⟨new, written⟩ := Entries.Fresh.put fresh.operations
      simp [register, addOperation, new, written, extend, Registration.scalar?,
        Registration.object?, Registration.input?, Registration.operation?]

/-- Definitions with new names are registered, whatever refers to what, and what comes of the schema
is `Schema.extend`. -/
theorem registerAll_of_fresh (fresh : schema.Fresh registrations) :
    schema.registerAll registrations = .ok (schema.extend registrations) := by
  induction registrations generalizing schema with
  | nil => rw [extend_nil]; rfl
  | cons registration rest ih =>
      have split : schema.Fresh ([registration] ++ rest) := fresh
      obtain ⟨first, others⟩ := split.of_append
      rw [registerAll, List.foldlM_cons, register_of_fresh first]
      exact (ih others).trans (congrArg _ (schema.extend_append [registration] rest).symm)

/-- The tables hold the same definitions, perhaps in another order, and look-ups find the same
ones. -/
structure Reorders (other schema : Schema) : Prop where
  objects : other.objects.Perm schema.objects
  inputs : other.inputs.Perm schema.inputs
  operations : other.operations.Perm schema.operations
  object? : other.object? = schema.object?
  input? : other.input? = schema.input?
  operation? : other.operation? = schema.operation?

theorem extend_reorders (fresh : schema.Fresh registrations)
    (reordering : registrations.Perm reordered) :
    (schema.extend reordered).Reorders (schema.extend registrations) where
  objects := (reordering.symm.filterMap _).append_left _
  inputs := (reordering.symm.filterMap _).append_left _
  operations := (reordering.symm.filterMap _).append_left _
  object? := funext (Entries.get?_append_perm fresh.objects (reordering.filterMap _))
  input? := funext (Entries.get?_append_perm fresh.inputs (reordering.filterMap _))
  operation? := funext (Entries.get?_append_perm fresh.operations (reordering.filterMap _))

theorem Reorders.symm {other : Schema} (h : other.Reorders schema) : schema.Reorders other where
  objects := h.objects.symm
  inputs := h.inputs.symm
  operations := h.operations.symm
  object? := h.object?.symm
  input? := h.input?.symm
  operation? := h.operation?.symm

namespace Reorders

variable {other : Schema} (h : other.Reorders schema)
include h

/-- References lead to the same types. -/
theorem resolveOutput : other.resolveOutput = schema.resolveOutput := by
  funext type
  cases type with
  | scalar | object => rfl
  | lookup name => rw [Schema.resolveOutput, Schema.resolveOutput, h.object?]

theorem resolveInput : other.resolveInput = schema.resolveInput := by
  funext type
  cases type with
  | scalar | input => rfl
  | lookup name => rw [Schema.resolveInput, Schema.resolveInput, h.input?]

end Reorders

end Schema

end TypedQuery
