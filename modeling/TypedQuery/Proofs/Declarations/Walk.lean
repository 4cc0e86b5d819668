import TypedQuery.Declarations.Document

/-!
# The walk over input types

The input types in reach are entered by a walk over slots. It goes on from a slot by the type to
which the slot leads, whether the type is held inline or looked up, and it takes one list of slots
after the other. So a document may be walked through signature by signature and slot by slot, as
`Declarations.walk` has it, and a new type is a walk of its own over its slots: `walk_slot_of_new`.
-/

namespace TypedQuery

namespace Schema

variable {schema : Schema} {error : Error}

/-- A type that is not found is one that is looked up. -/
theorem lookup_of_resolveOutput {ref : OutputRef}
    (failed : schema.resolveOutput ref = .error error) :
    ∃ name, ref = .lookup name ∧ schema.object? name = none := by
  cases ref with
  | scalar | object => cases failed
  | lookup name =>
      rw [resolveOutput] at failed
      cases missing : schema.object? name with
      | none => exact ⟨name, rfl, missing⟩
      | some type => rw [missing] at failed; cases failed

theorem lookup_of_resolveInput {ref : InputRef}
    (failed : schema.resolveInput ref = .error error) :
    ∃ name, ref = .lookup name ∧ schema.input? name = none := by
  cases ref with
  | scalar | input => cases failed
  | lookup name =>
      rw [resolveInput] at failed
      cases missing : schema.input? name with
      | none => exact ⟨name, rfl, missing⟩
      | some type => rw [missing] at failed; cases failed

end Schema

namespace Declarations

variable {schema : Schema}

/-- The walk goes on from a slot by the type to which the slot leads, after
`Schema.resolveInput`. -/
theorem enterInputs_cons (schema : Schema) (slot : Slot) (rest : List Slot)
    (entered : List (String × InputType)) :
    enterInputs schema (slot :: rest) entered =
      match schema.resolveInput slot.type with
      | .error _ => .error (.setup (.unknownInput (slotName slot)))
      | .ok (.scalar _) => enterInputs schema rest entered
      | .ok (.input type) =>
        if Entries.has entered type.name then enterInputs schema rest entered
        else enterInputs schema (slots type ++ rest) (entered ++ [(type.name, type)]) := by
  rw [enterInputs]
  unfold slotName Schema.resolveInput Schema.input?
  split
  next ref => rw [ref]
  next ref => rw [ref]
  next name ref =>
    rw [ref]
    dsimp only
    split
    next missing => rw [missing]
    next type found =>
      rw [found]
      dsimp only
      split <;> rfl

theorem enterInputs_of_missing {slot : Slot} {name : String} (ref : slot.type = .lookup name)
    (missing : schema.input? name = none) (rest : List Slot)
    (entered : List (String × InputType)) :
    enterInputs schema (slot :: rest) entered = .error (.setup (.unknownInput name)) := by
  rw [enterInputs_cons, slotName, ref, Schema.resolveInput, missing]

theorem enterInputs_of_scalar {slot : Slot} {scalar : Scalar}
    (resolved : schema.resolveInput slot.type = .ok (.scalar scalar)) (rest : List Slot)
    (entered : List (String × InputType)) :
    enterInputs schema (slot :: rest) entered = enterInputs schema rest entered := by
  rw [enterInputs_cons, resolved]

theorem enterInputs_of_known {slot : Slot} {type : InputType}
    (resolved : schema.resolveInput slot.type = .ok (.input type)) (rest : List Slot)
    {entered : List (String × InputType)} (known : type.name ∈ Entries.keys entered) :
    enterInputs schema (slot :: rest) entered = enterInputs schema rest entered := by
  rw [enterInputs_cons, resolved]
  exact if_pos (Entries.has_eq_true_iff.mpr known)

theorem enterInputs_of_new {slot : Slot} {type : InputType}
    (resolved : schema.resolveInput slot.type = .ok (.input type)) (rest : List Slot)
    {entered : List (String × InputType)} (new : type.name ∉ Entries.keys entered) :
    enterInputs schema (slot :: rest) entered
      = enterInputs schema (slots type ++ rest) (entered ++ [(type.name, type)]) := by
  rw [enterInputs_cons, resolved]
  exact if_neg fun known => new (Entries.has_eq_true_iff.mp known)

/-- Slots are walked through one list after the other. -/
theorem enterInputs_append (pending more : List Slot) (entered : List (String × InputType)) :
    enterInputs schema (pending ++ more) entered
      = enterInputs schema pending entered >>= enterInputs schema more := by
  fun_induction enterInputs schema pending entered with
  | case1 entered => rfl
  | case2 entered slot rest scalar ref ih =>
      have resolved : schema.resolveInput slot.type = .ok (.scalar scalar) := by rw [ref]; rfl
      rw [List.cons_append, enterInputs_of_scalar resolved, ih]
  | case3 entered slot rest type ref known ih =>
      have resolved : schema.resolveInput slot.type = .ok (.input type) := by rw [ref]; rfl
      rw [List.cons_append, enterInputs_of_known resolved _ (Entries.has_eq_true_iff.mp known), ih]
  | case4 entered slot rest type ref new ih =>
      have resolved : schema.resolveInput slot.type = .ok (.input type) := by rw [ref]; rfl
      have unknown : type.name ∉ Entries.keys entered := mt Entries.has_eq_true_iff.mpr new
      rw [List.cons_append, enterInputs_of_new resolved _ unknown, ← ih, List.append_assoc]
  | case5 entered slot rest name ref missing =>
      rw [List.cons_append, enterInputs_of_missing ref missing]
      rfl
  | case6 entered slot rest name ref type found known ih =>
      have resolved : schema.resolveInput slot.type = .ok (.input type) :=
        Schema.resolveInput_eq_input_iff.mpr (.inr ⟨name, ref, found⟩)
      rw [List.cons_append, enterInputs_of_known resolved _ (Entries.has_eq_true_iff.mp known), ih]
  | case7 entered slot rest name ref type found new ih =>
      have resolved : schema.resolveInput slot.type = .ok (.input type) :=
        Schema.resolveInput_eq_input_iff.mpr (.inr ⟨name, ref, found⟩)
      have unknown : type.name ∉ Entries.keys entered := mt Entries.has_eq_true_iff.mpr new
      rw [List.cons_append, enterInputs_of_new resolved _ unknown, ← ih, List.append_assoc]

/-- What is still to be visited: a signature, or one slot on its own. -/
inductive Visit where
  | signature (signature : Signature)
  | slot (slot : Slot)

/-- The walk over the input types that one visit after the other leads to, by `enterInputs` for
slots and `enterSignature` for signatures. -/
def walk (schema : Schema) (visits : List Visit) (entered : List (String × InputType)) :
    Except Error (List (String × InputType)) :=
  visits.foldlM (fun entered visit => match visit with
    | .signature signature => enterSignature schema entered signature
    | .slot slot => enterInputs schema [slot] entered) entered

/-- What a document visits: the fields of the object types, and the operations. -/
def documentVisits (schema : Schema) : List Visit :=
  (declaredSignatures schema).map .signature

theorem reachableInputs_eq_walk (schema : Schema) :
    reachableInputs schema = walk schema (documentVisits schema) [] := by
  rw [walk, documentVisits, List.foldlM_map]
  rfl

/-- Slots that are visited one by one are walked through together. -/
theorem walk_slots (pending : List Slot) (rest : List Visit)
    (entered : List (String × InputType)) :
    walk schema (pending.map .slot ++ rest) entered
      = enterInputs schema pending entered >>= walk schema rest := by
  induction pending generalizing entered with
  | nil =>
      rw [enterInputs]
      rfl
  | cons slot pending ih =>
      have first : walk schema ((slot :: pending).map .slot ++ rest) entered
          = enterInputs schema [slot] entered >>= walk schema (pending.map .slot ++ rest) := rfl
      have split : enterInputs schema (slot :: pending) entered
          = enterInputs schema [slot] entered >>= enterInputs schema pending :=
        enterInputs_append [slot] pending entered
      rw [first, split, bind_assoc]
      exact bind_congr ih

theorem walk_slot_of_missing {slot : Slot} {name : String} (ref : slot.type = .lookup name)
    (missing : schema.input? name = none) (rest : List Visit)
    (entered : List (String × InputType)) :
    walk schema (.slot slot :: rest) entered = .error (.setup (.unknownInput name)) := by
  show enterInputs schema [slot] entered >>= walk schema rest = _
  rw [enterInputs_of_missing ref missing]
  rfl

theorem walk_slot_of_scalar {slot : Slot} {scalar : Scalar}
    (resolved : schema.resolveInput slot.type = .ok (.scalar scalar)) (rest : List Visit)
    (entered : List (String × InputType)) :
    walk schema (.slot slot :: rest) entered = walk schema rest entered := by
  show enterInputs schema [slot] entered >>= walk schema rest = _
  rw [enterInputs_of_scalar resolved, enterInputs]
  rfl

theorem walk_slot_of_known {slot : Slot} {type : InputType}
    (resolved : schema.resolveInput slot.type = .ok (.input type)) (rest : List Visit)
    {entered : List (String × InputType)} (known : type.name ∈ Entries.keys entered) :
    walk schema (.slot slot :: rest) entered = walk schema rest entered := by
  show enterInputs schema [slot] entered >>= walk schema rest = _
  rw [enterInputs_of_known resolved _ known, enterInputs]
  rfl

/-- A new type is entered, and its slots are visited before anything else. -/
theorem walk_slot_of_new {slot : Slot} {type : InputType}
    (resolved : schema.resolveInput slot.type = .ok (.input type)) (rest : List Visit)
    {entered : List (String × InputType)} (new : type.name ∉ Entries.keys entered) :
    walk schema (.slot slot :: rest) entered
      = walk schema ((slots type).map .slot) (entered ++ [(type.name, type)])
          >>= walk schema rest := by
  have within : walk schema ((slots type).map .slot) (entered ++ [(type.name, type)])
      = enterInputs schema (slots type) (entered ++ [(type.name, type)]) := by
    rw [← List.append_nil ((slots type).map Visit.slot), walk_slots]
    exact bind_pure _
  show enterInputs schema [slot] entered >>= walk schema rest = _
  rw [enterInputs_of_new resolved _ new, List.append_nil, within]

/-- The arguments of a signature are visited if its own type leads somewhere. -/
theorem walk_signature {signature : Signature} {type : ResolvedOutput}
    (resolved : schema.resolveOutput signature.type = .ok type) (rest : List Visit)
    (entered : List (String × InputType)) :
    walk schema (.signature signature :: rest) entered
      = walk schema (signature.args.toList.map .slot ++ rest) entered := by
  have arguments : enterSignature schema entered signature
      = enterInputs schema signature.args.toList entered := by
    unfold enterSignature
    cases ref : signature.type with
    | scalar | object =>
        cases signature.args with
        | none => simp only [Option.toList_none, enterInputs]; rfl
        | some slot => rfl
    | lookup name =>
        have known : Entries.has schema.objects name = true := by
          rw [ref, Schema.resolveOutput, Schema.object?] at resolved
          cases found : Entries.get? schema.objects name with
          | none => rw [found] at resolved; cases resolved
          | some type => rw [Entries.has, found]; rfl
        dsimp only
        rw [known]
        cases signature.args with
        | none => simp only [Option.toList_none, enterInputs]; rfl
        | some slot => rfl
  rw [walk_slots, ← arguments]
  rfl

theorem walk_signature_of_missing {signature : Signature} {name : String}
    (ref : signature.type = .lookup name) (missing : schema.object? name = none)
    (rest : List Visit) (entered : List (String × InputType)) :
    walk schema (.signature signature :: rest) entered
      = .error (.setup (.unknownObject name)) := by
  have stops : enterSignature schema entered signature = .error (.setup (.unknownObject name)) := by
    have unknown : Entries.has schema.objects name = false := by
      rw [Schema.object?] at missing
      rw [Entries.has, missing]
      rfl
    unfold enterSignature
    rw [ref]
    dsimp only
    rw [unknown]
    rfl
  show enterSignature schema entered signature >>= walk schema rest = _
  rw [stops]
  rfl

end Declarations

end TypedQuery
