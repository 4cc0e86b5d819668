import TypedQuery.Schema.Basic

/-!
# Input types in reach

A declaration document names the input types that the arguments of its fields and
operations lead to, through inline definitions and through look-ups, in the order in which
a walk from field to field and from slot to slot first comes to them. Types may refer to
each other in circles: a type is entered once, by its name. So the walk ends, since every
look-up that is followed takes a registered type that has not been entered, and inline
definitions become smaller.
-/

namespace TypedQuery.Declarations

/-- The name that a slot refers to. -/
def slotName (slot : Slot) : String :=
  match slot.type with
  | .scalar leaf => leaf.name
  | .input type => type.name
  | .lookup name => name

/-- How many registered input types have not been entered. -/
def unentered (schema : Schema) (entered : List (String × InputType)) : Nat :=
  schema.inputs.countP fun entry => !Entries.has entered entry.2.name

/-- The size of the slots that remain to be visited. -/
noncomputable def pendingSize : List Slot → Nat
  | [] => 0
  | slot :: rest => sizeOf slot + pendingSize rest

@[simp] theorem pendingSize_cons (slot : Slot) (rest : List Slot) :
    pendingSize (slot :: rest) = sizeOf slot + pendingSize rest := rfl

theorem pendingSize_append (a b : List Slot) :
    pendingSize (a ++ b) = pendingSize a + pendingSize b := by
  induction a with
  | nil => simp [pendingSize]
  | cons slot rest ih => simp [ih, Nat.add_assoc]

private theorem pendingSize_fields_le (fields : List (String × Slot)) :
    pendingSize (fields.map (·.2)) ≤ sizeOf fields := by
  induction fields with
  | nil => simp [pendingSize]
  | cons entry rest ih =>
    obtain ⟨name, slot⟩ := entry
    simp only [List.map_cons, pendingSize_cons, List.cons.sizeOf_spec, Prod.mk.sizeOf_spec]
    omega

/-- The slots of an input type in the order of their declaration. -/
def slots (type : InputType) : List Slot := type.fields.map (·.2)

/-- The slots of an inline type are together smaller than the slot that holds it. -/
theorem pendingSize_inline {slot : Slot} {type : InputType} (h : slot.type = .input type) :
    pendingSize (slots type) < sizeOf slot := by
  obtain ⟨ref, required, nullable, array⟩ := slot
  obtain ⟨name, description, fields, check⟩ := type
  simp only at h
  subst h
  have := pendingSize_fields_le fields
  simp only [slots, Slot.mk.sizeOf_spec, InputRef.input.sizeOf_spec, InputType.mk.sizeOf_spec]
  omega

theorem sizeOf_slot_pos (slot : Slot) : 0 < sizeOf slot := by
  cases slot
  simp only [Slot.mk.sizeOf_spec]
  omega

private theorem has_append (entered : List (String × InputType)) (name other : String)
    (type : InputType) :
    Entries.has (entered ++ [(other, type)]) name
      = (Entries.has entered name || decide (other = name)) := by
  rw [Bool.eq_iff_iff, Bool.or_eq_true, decide_eq_true_eq, Entries.has_eq_true_iff,
    Entries.has_eq_true_iff]
  simp [Entries.keys, eq_comm (a := name)]

/-- Entering a type leaves no more types unentered than before. -/
theorem unentered_append_le (schema : Schema) (entered : List (String × InputType))
    (name : String) (type : InputType) :
    unentered schema (entered ++ [(name, type)]) ≤ unentered schema entered := by
  apply List.countP_mono_left
  intro entry _ h
  rw [has_append] at h
  simp_all

/-- Entering a registered type that is new leaves fewer types unentered. -/
theorem unentered_append_lt {schema : Schema} {entered : List (String × InputType)}
    {name : String} {type : InputType} (registered : (name, type) ∈ schema.inputs)
    (new : Entries.has entered type.name = false) :
    unentered schema (entered ++ [(type.name, type)]) < unentered schema entered := by
  unfold unentered
  obtain ⟨before, after, split⟩ := List.append_of_mem registered
  rw [split]
  simp only [List.countP_append, List.countP_cons, has_append, new, decide_true, Bool.or_true,
    Bool.not_true, Bool.not_false, Bool.false_eq_true, if_true, if_false]
  have left : before.countP (fun entry =>
      !(Entries.has entered entry.2.name || decide (type.name = entry.2.name)))
      ≤ before.countP fun entry => !Entries.has entered entry.2.name :=
    List.countP_mono_left fun entry _ h => by simp_all
  have right : after.countP (fun entry =>
      !(Entries.has entered entry.2.name || decide (type.name = entry.2.name)))
      ≤ after.countP fun entry => !Entries.has entered entry.2.name :=
    List.countP_mono_left fun entry _ h => by simp_all
  omega

set_option linter.unusedVariables false in
/-- Walks through the pending slots and enters the input types they lead to. A look-up that
leads nowhere ends the walk. -/
def enterInputs (schema : Schema) (pending : List Slot) (entered : List (String × InputType)) :
    Except Error (List (String × InputType)) :=
  match pending with
  | [] => .ok entered
  | slot :: rest =>
    match ref : slot.type with
    | .scalar _ => enterInputs schema rest entered
    | .input type =>
      if Entries.has entered type.name then enterInputs schema rest entered
      else
        enterInputs schema (slots type ++ rest) (entered ++ [(type.name, type)])
    | .lookup name =>
      match found : Entries.get? schema.inputs name with
      | none => .error (.setup (.unknownInput name))
      | some type =>
        if new : Entries.has entered type.name then enterInputs schema rest entered
        else
          enterInputs schema (slots type ++ rest) (entered ++ [(type.name, type)])
termination_by (unentered schema entered, pendingSize pending)
decreasing_by
  · exact Prod.Lex.right _ (by have := sizeOf_slot_pos slot; simp; omega)
  · exact Prod.Lex.right _ (by have := sizeOf_slot_pos slot; simp; omega)
  · have shrinks := pendingSize_inline ref
    rcases Nat.lt_or_eq_of_le (unentered_append_le schema entered type.name type) with h | h
    · exact Prod.Lex.left _ _ h
    · rw [h]
      exact Prod.Lex.right _ (by rw [pendingSize_append, pendingSize_cons]; omega)
  · exact Prod.Lex.right _ (by have := sizeOf_slot_pos slot; simp; omega)
  · exact Prod.Lex.left _ _
      (unentered_append_lt (Entries.mem_of_get?_eq_some found) (by simpa using new))

/-- Enters the input types that the arguments of a field lead to, once its own type is known
to lead somewhere. -/
def enterSignature (schema : Schema) (entered : List (String × InputType))
    (signature : Signature) : Except Error (List (String × InputType)) := do
  match signature.type with
  | .lookup name =>
    if !Entries.has schema.objects name then .error (.setup (.unknownObject name))
  | _ => pure ()
  match signature.args with
  | none => return entered
  | some slot => enterInputs schema [slot] entered

/-- The signatures that a document declares: the fields that are not hidden, type by type,
then the operations. -/
def declaredSignatures (schema : Schema) : List Signature :=
  (schema.objects.flatMap fun (_, type) =>
      (type.fields.filter fun (_, field) => !field.hidden).map fun (_, field) =>
        field.signature)
    ++ schema.operations.map fun (_, operation) => operation.signature

/-- The input types in reach, by name, in the order of the walk. -/
def reachableInputs (schema : Schema) : Except Error (List (String × InputType)) :=
  (declaredSignatures schema).foldlM (enterSignature schema) []

end TypedQuery.Declarations
