import TypedQuery.Declarations.Document
import TypedQuery.Proofs.Schema.Reach

/-!
# Declarations of complete schemas

A declaration document exists if the look-ups in reach lead somewhere, as `Schema.Complete` says.
The walk that collects the input types in reach goes from slots in reach to slots in reach, and
never comes to a name that is not registered. So `ofSchema_returns` has nothing more to ask for.
-/

namespace TypedQuery.Declarations

variable {schema : Schema}

/-- The slots of the type of a slot in reach are in reach. -/
theorem takes_slots {slot : Slot} (taken : schema.Takes slot) {type : InputType}
    (resolved : schema.resolveInput slot.type = .ok (.input type)) :
    ∀ inner ∈ slots type, schema.Takes inner := by
  intro inner inside
  obtain ⟨field, held, rfl⟩ := List.mem_map.mp inside
  exact taken.member resolved held

/-- What is declared is registered. -/
theorem registers_of_mem_declaredSignatures {signature : Signature}
    (declared : signature ∈ declaredSignatures schema) : schema.Registers signature := by
  obtain inTypes | inOperations := List.mem_append.mp declared
  · obtain ⟨type, registered, inType⟩ := List.mem_flatMap.mp inTypes
    obtain ⟨field, shown, rfl⟩ := List.mem_map.mp inType
    exact .inr ⟨type, registered, field, List.mem_of_mem_filter shown, rfl⟩
  · obtain ⟨operation, registered, rfl⟩ := List.mem_map.mp inOperations
    exact .inl ⟨operation, registered, rfl⟩

section Complete

variable (complete : schema.Complete)
include complete

/-- From slots in reach the walk comes to an end that is no failure. -/
theorem enterInputs_returns (pending : List Slot) (entered : List (String × InputType))
    (taken : ∀ slot ∈ pending, schema.Takes slot) :
    ∃ inputs, enterInputs schema pending entered = .ok inputs := by
  fun_induction enterInputs schema pending entered with
  | case1 entered => exact ⟨entered, rfl⟩
  | case2 entered slot rest scalar ref ih =>
      exact ih (List.forall_mem_cons.1 taken).2
  | case3 entered slot rest type ref old ih =>
      exact ih (List.forall_mem_cons.1 taken).2
  | case4 entered slot rest type ref new ih =>
      obtain ⟨first, others⟩ := List.forall_mem_cons.1 taken
      have resolved : schema.resolveInput slot.type = .ok (.input type) :=
        Schema.resolveInput_eq_input_iff.mpr (.inl ref)
      exact ih (List.forall_mem_append.mpr ⟨takes_slots first resolved, others⟩)
  | case5 entered slot rest name ref missing =>
      obtain ⟨first, _⟩ := List.forall_mem_cons.1 taken
      exact absurd missing (complete.inputs name ⟨slot, first, ref⟩)
  | case6 entered slot rest name ref type found old ih =>
      exact ih (List.forall_mem_cons.1 taken).2
  | case7 entered slot rest name ref type found new ih =>
      obtain ⟨first, others⟩ := List.forall_mem_cons.1 taken
      have resolved : schema.resolveInput slot.type = .ok (.input type) :=
        Schema.resolveInput_eq_input_iff.mpr (.inr ⟨name, ref, found⟩)
      exact ih (List.forall_mem_append.mpr ⟨takes_slots first resolved, others⟩)

theorem enterSignature_returns (entered : List (String × InputType)) {signature : Signature}
    (declared : schema.Declares signature) :
    ∃ inputs, enterSignature schema entered signature = .ok inputs := by
  have known (name : String) (ref : signature.type = .lookup name) :
      Entries.has schema.objects name = true :=
    Option.isSome_iff_ne_none.mpr (complete.objects name ⟨signature, declared, ref⟩)
  have walks : enterSignature schema entered signature
      = signature.args.elim (.ok entered) fun slot => enterInputs schema [slot] entered := by
    unfold enterSignature
    cases ref : signature.type with
    | scalar | object => cases signature.args <;> rfl
    | lookup name =>
        dsimp only
        rw [known name ref]
        cases signature.args <;> rfl
  rw [walks]
  cases takes : signature.args with
  | none => exact ⟨entered, rfl⟩
  | some slot =>
      have taken : schema.Takes slot := .args declared takes
      exact enterInputs_returns complete [slot] entered (List.forall_mem_singleton.mpr taken)

/-- The declarations of a schema that is `Schema.Complete` exist. -/
theorem ofSchema_returns : ∃ document, ofSchema schema = .ok document := by
  have entered (signatures : List Signature) (inputs : List (String × InputType))
      (declared : ∀ signature ∈ signatures, schema.Declares signature) :
      ∃ reached, signatures.foldlM (enterSignature schema) inputs = .ok reached := by
    induction signatures generalizing inputs with
    | nil => exact ⟨inputs, rfl⟩
    | cons signature signatures ih =>
        obtain ⟨first, others⟩ := List.forall_mem_cons.1 declared
        obtain ⟨more, returned⟩ := enterSignature_returns complete inputs first
        rw [List.foldlM_cons, returned]
        exact ih more others
  obtain ⟨reached, returned⟩ := entered (declaredSignatures schema) []
    fun signature declared => (registers_of_mem_declaredSignatures declared).declares
  refine ⟨document schema reached, ?_⟩
  rw [ofSchema, reachableInputs, returned]
  rfl

end Complete

end TypedQuery.Declarations
