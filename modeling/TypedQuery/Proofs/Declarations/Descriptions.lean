import TypedQuery.Proofs.Declarations.Exports
import TypedQuery.Proofs.Declarations.Mentions
import TypedQuery.Proofs.Declarations.Walk
import TypedQuery.Proofs.Schema.Descriptions

/-!
# Documents without their descriptions

Descriptions are carried over into a declaration document and decide nothing. The walk over the
input types goes the same way without them, and so `Schema.undescribed` is declared by
`Document.undescribed`: that is `ofSchema_undescribed`. Schemas that differ in nothing but
descriptions have the same document without them.
-/

namespace TypedQuery

namespace Entries

variable {α β : Type}

theorem put_map (f : α → β) (entries : List (String × α)) (name : String) (value : α) :
    put (entries.map fun (key, old) => (key, f old)) name (f value)
      = (put entries name value).map fun (key, old) => (key, f old) := by
  induction entries with
  | nil => rfl
  | cons entry entries ih =>
      rw [List.map_cons, put, put, ih]
      split <;> rfl

theorem ofList_map (f : α → β) (entries : List (String × α)) :
    ofList (entries.map fun (key, value) => (key, f value))
      = (ofList entries).map fun (key, value) => (key, f value) := by
  induction entries using List.reverseRecOn with
  | nil => rfl
  | append_singleton entries entry ih =>
      rw [List.map_append, List.map_singleton, ofList_concat, ofList_concat, ih, put_map]

theorem has_map (f : α → β) (entries : List (String × α)) (name : String) :
    has (entries.map fun (key, value) => (key, f value)) name = has entries name := by
  rw [has, get?_map, Option.isSome_map, has]

end Entries

namespace Declarations

def Leaf.undescribed (leaf : Leaf) : Leaf := { leaf with description := none }

def Entry.undescribed : Entry → Entry
  | .leaf shown => .leaf shown.undescribed
  | .record _ leaves => .record none (leaves.map fun (key, shown) => (key, shown.undescribed))

def undescribedEntries (entries : List (String × Entry)) : List (String × Entry) :=
  entries.map fun (key, entry) => (key, entry.undescribed)

/-- A section, which keeps its own description. -/
def Export.undescribedSection (exported : Export) : Export :=
  { exported with entries := undescribedEntries exported.entries }

def Export.undescribed (exported : Export) : Export :=
  { exported.undescribedSection with description := none }

/-- The document without the descriptions of a schema. Its keys stay, as in each
`Export.undescribed`. -/
def Document.undescribed (written : Document) : Document where
  scalars := written.scalars.undescribedSection
  inputs := written.inputs.undescribedSection
  mains := written.mains.undescribedSection
  objects := written.objects.map fun (name, exported) => (name, exported.undescribed)
  root := written.root.undescribedSection

section Entry

variable (schema : Schema)

theorem outputReference_undescribed (ref : OutputRef) :
    outputReference schema.undescribed ref.undescribed = outputReference schema ref := by
  cases ref with
  | scalar => rfl
  | object type =>
      rw [OutputRef.undescribed, outputReference, outputReference, type.name_undescribed]
  | lookup name =>
      rw [OutputRef.undescribed, outputReference, outputReference,
        schema.get?_objects_undescribed]
      cases Entries.get? schema.objects name with
      | none => rfl
      | some type => exact congrArg Text.capitalize type.name_undescribed

theorem slotReference_undescribed (slot : Slot) :
    slotReference schema.undescribed slot.undescribed = slotReference schema slot := by
  unfold slotReference
  rw [slot.type_undescribed]
  cases slot.type with
  | scalar => rfl
  | input type => exact congrArg inputReference type.name_undescribed
  | lookup name =>
      rw [InputRef.undescribed]
      dsimp only
      rw [schema.get?_inputs_undescribed]
      cases Entries.get? schema.inputs name with
      | none => rfl
      | some type => exact congrArg inputReference type.name_undescribed

theorem slotLeaf_undescribed (slot : Slot) :
    slotLeaf schema.undescribed slot.undescribed = slotLeaf schema slot := by
  simp [slotLeaf, slotReference_undescribed]

theorem argsLeaf_undescribed (args : Option Slot) :
    argsLeaf schema.undescribed (args.map Slot.undescribed) = argsLeaf schema args := by
  cases args with
  | none => rfl
  | some slot => simp [argsLeaf, slotReference_undescribed]

theorem typeLeaf_undescribed (signature : Signature) (value : String) :
    typeLeaf signature.undescribed value = typeLeaf signature value := by
  simp [typeLeaf]

/-- Types and arguments have no descriptions of their own. -/
theorem undescribed_typeLeaf (signature : Signature) (value : String) :
    (typeLeaf signature value).undescribed = typeLeaf signature value := rfl

theorem undescribed_argsLeaf (args : Option Slot) :
    (argsLeaf schema args).undescribed = argsLeaf schema args := by
  cases args <;> rfl

theorem operationEntry_undescribed (root : Operation) :
    operationEntry schema.undescribed root.undescribed
      = (operationEntry schema root).undescribed := by
  simp [operationEntry, Operation.undescribed, Entry.undescribed, outputReference_undescribed,
    argsLeaf_undescribed, typeLeaf_undescribed, undescribed_typeLeaf, undescribed_argsLeaf]

theorem fieldEntry_undescribed (field : Field) :
    fieldEntry schema.undescribed field.undescribed = (fieldEntry schema field).undescribed := by
  cases hidden : field.hidden with
  | true =>
      simp only [fieldEntry, Field.hidden_undescribed, Field.signature_undescribed, hidden,
        Signature.description_undescribed, typeLeaf_undescribed]
      rfl
  | false =>
      simp [fieldEntry, hidden, Entry.undescribed, outputReference_undescribed,
        argsLeaf_undescribed, typeLeaf_undescribed, undescribed_typeLeaf, undescribed_argsLeaf]

theorem inputEntry_undescribed (type : InputType) :
    inputEntry schema.undescribed type.undescribed = (inputEntry schema type).undescribed := by
  rw [inputEntry, type.fields_undescribed, List.map_map, inputEntry, Entry.undescribed,
    List.map_map, type.description_undescribed]
  refine congrArg _ (List.map_congr_left fun (key, slot) _ => ?_)
  exact congrArg (key, ·) (slotLeaf_undescribed schema slot)

theorem scalarEntry_undescribed (scalar : Scalar) :
    scalarEntry scalar.undescribed = (scalarEntry scalar).undescribed := rfl

theorem mainEntry_undescribed (type : ObjectType) :
    mainEntry type.undescribed = (mainEntry type).undescribed := by
  rw [mainEntry, type.name_undescribed]
  rfl

theorem objectExport_undescribed (type : ObjectType) :
    objectExport schema.undescribed type.undescribed
      = (objectExport schema type).undescribed := by
  unfold objectExport Export.undescribed Export.undescribedSection undescribedEntries
  rw [type.fields_undescribed, List.map_map, List.map_map, type.description_undescribed]
  refine congrArg _ (List.map_congr_left fun (key, field) _ => ?_)
  exact congrArg (key, ·) (fieldEntry_undescribed schema field)

end Entry

/-- What is computed from the values of a table, entry by entry. -/
theorem map_of_undescribed {α β : Type} (bare : α → α) (own : α → String)
    {entry entryBare : α → β} {strip : β → β} (names : ∀ value, own (bare value) = own value)
    (entries : ∀ value, entryBare (bare value) = strip (entry value))
    (table : List (String × α)) :
    ((table.map fun (name, value) => (name, bare value)).map fun (_, value) =>
        (own value, entryBare value))
      = (table.map fun (_, value) => (own value, entry value)).map fun (name, shown) =>
        (name, strip shown) := by
  simp [names, entries]

/-- The schema without descriptions is declared by the document without descriptions. -/
theorem document_undescribed (schema : Schema) (inputs : List (String × InputType)) :
    document schema.undescribed (inputs.map fun (name, type) => (name, type.undescribed))
      = (document schema inputs).undescribed := by
  have scalars := map_of_undescribed Scalar.undescribed Scalar.name (fun _ => rfl)
    scalarEntry_undescribed schema.scalars
  have sectionOfInputs : ((inputs.map fun (name, type) => (name, type.undescribed)).map
        fun (name, type) => (name, inputEntry schema.undescribed type))
      = (inputs.map fun (name, type) => (name, inputEntry schema type)).map
          fun (name, entry) => (name, entry.undescribed) := by
    simp [inputEntry_undescribed]
  have mains := map_of_undescribed ObjectType.undescribed ObjectType.name
    ObjectType.name_undescribed mainEntry_undescribed schema.objects
  have objects := map_of_undescribed ObjectType.undescribed (Text.capitalize ·.name)
    (fun type => congrArg Text.capitalize type.name_undescribed) (objectExport_undescribed schema)
    schema.objects
  have roots := map_of_undescribed Operation.undescribed Operation.name (fun _ => rfl)
    (operationEntry_undescribed schema) schema.operations
  unfold document Document.undescribed Export.undescribedSection undescribedEntries
  dsimp only
  rw [← scalars, ← sectionOfInputs, ← mains, ← Entries.ofList_map, ← objects, ← roots]
  rfl

section Walk

variable (schema : Schema)

/-- Input types by name, each as `InputType.undescribed`. -/
def undescribedInputs (inputs : List (String × InputType)) : List (String × InputType) :=
  inputs.map fun (name, type) => (name, type.undescribed)

theorem resolveInput_undescribed_of_scalar {slot : Slot} {scalar : Scalar}
    (resolved : schema.resolveInput slot.type = .ok (.scalar scalar)) :
    schema.undescribed.resolveInput slot.undescribed.type = .ok (.scalar scalar.undescribed) := by
  rw [slot.type_undescribed, Schema.resolveInput_eq_scalar_iff.mp resolved]
  rfl

theorem resolveInput_undescribed_of_input {slot : Slot} {type : InputType}
    (resolved : schema.resolveInput slot.type = .ok (.input type)) :
    schema.undescribed.resolveInput slot.undescribed.type = .ok (.input type.undescribed) := by
  rw [slot.type_undescribed]
  obtain ref | ⟨name, ref, found⟩ := Schema.resolveInput_eq_input_iff.mp resolved
  · rw [ref]
    rfl
  · rw [Schema.input?] at found
    rw [ref, InputRef.undescribed, Schema.resolveInput, Schema.input?,
      schema.get?_inputs_undescribed, found]
    rfl

theorem slots_undescribed (type : InputType) :
    slots type.undescribed = (slots type).map Slot.undescribed := by
  rw [slots, type.fields_undescribed, slots, List.map_map, List.map_map]
  rfl

/-- A step of the walk to an input type is the same step without descriptions. -/
theorem enterInputs_undescribed_cons {slot : Slot} {rest : List Slot}
    {entered : List (String × InputType)} {type : InputType}
    (resolved : schema.resolveInput slot.type = .ok (.input type)) :
    enterInputs schema.undescribed ((slot :: rest).map Slot.undescribed)
        (undescribedInputs entered)
      = if Entries.has entered type.name then
          enterInputs schema.undescribed (rest.map Slot.undescribed) (undescribedInputs entered)
        else
          enterInputs schema.undescribed ((slots type ++ rest).map Slot.undescribed)
            (undescribedInputs (entered ++ [(type.name, type)])) := by
  have bare := resolveInput_undescribed_of_input schema resolved
  rw [List.map_cons, enterInputs_cons, bare]
  dsimp only
  rw [type.name_undescribed, undescribedInputs, Entries.has_map, slots_undescribed,
    List.map_append, undescribedInputs, List.map_append]
  rfl

/-- The walk goes the same way without descriptions. -/
theorem enterInputs_undescribed (pending : List Slot) (entered : List (String × InputType)) :
    enterInputs schema.undescribed (pending.map Slot.undescribed) (undescribedInputs entered)
      = (enterInputs schema pending entered).map undescribedInputs := by
  fun_induction enterInputs schema pending entered with
  | case1 entered =>
      rw [List.map_nil, enterInputs]
      rfl
  | case2 entered slot rest scalar ref ih =>
      have resolved : schema.resolveInput slot.type = .ok (.scalar scalar) := by rw [ref]; rfl
      rw [List.map_cons, enterInputs_of_scalar (resolveInput_undescribed_of_scalar schema resolved),
        ih]
  | case3 entered slot rest type ref known ih =>
      have resolved : schema.resolveInput slot.type = .ok (.input type) := by rw [ref]; rfl
      rw [enterInputs_undescribed_cons schema resolved, if_pos known, ih]
  | case4 entered slot rest type ref new ih =>
      have resolved : schema.resolveInput slot.type = .ok (.input type) := by rw [ref]; rfl
      rw [enterInputs_undescribed_cons schema resolved, if_neg new, ih]
  | case5 entered slot rest name ref missing =>
      have bareRef : slot.undescribed.type = .lookup name := by
        rw [slot.type_undescribed, ref, InputRef.undescribed]
      have bareMissing : schema.undescribed.input? name = none := by
        rw [Schema.input?, schema.get?_inputs_undescribed, missing]
        rfl
      rw [List.map_cons, enterInputs_of_missing bareRef bareMissing]
      rfl
  | case6 entered slot rest name ref type found known ih =>
      have resolved : schema.resolveInput slot.type = .ok (.input type) :=
        Schema.resolveInput_eq_input_iff.mpr (.inr ⟨name, ref, found⟩)
      rw [enterInputs_undescribed_cons schema resolved, if_pos known, ih]
  | case7 entered slot rest name ref type found new ih =>
      have resolved : schema.resolveInput slot.type = .ok (.input type) :=
        Schema.resolveInput_eq_input_iff.mpr (.inr ⟨name, ref, found⟩)
      rw [enterInputs_undescribed_cons schema resolved, if_neg new, ih]

theorem shownSignatures_undescribed (type : ObjectType) :
    ((type.undescribed.fields.filter fun (_, field) => !field.hidden).map fun (_, field) =>
        field.signature)
      = ((type.fields.filter fun (_, field) => !field.hidden).map fun (_, field) =>
          field.signature).map Signature.undescribed := by
  rw [type.fields_undescribed, List.filter_map, List.map_map, List.map_map]
  simp [Function.comp_def]

theorem declaredSignatures_undescribed :
    declaredSignatures schema.undescribed
      = (declaredSignatures schema).map Signature.undescribed := by
  unfold declaredSignatures Schema.undescribed
  dsimp only
  rw [List.map_append, List.map_flatMap, List.flatMap_map, List.map_map, List.map_map]
  refine congrArg₂ _ (List.flatMap_congr fun entry _ => ?_) rfl
  exact shownSignatures_undescribed entry.2

theorem enterSignature_undescribed (entered : List (String × InputType)) (signature : Signature) :
    enterSignature schema.undescribed (undescribedInputs entered) signature.undescribed
      = (enterSignature schema entered signature).map undescribedInputs := by
  have registered (name : String) :
      Entries.has schema.undescribed.objects name = Entries.has schema.objects name :=
    Entries.has_map ObjectType.undescribed schema.objects name
  have walked (slot : Slot) :
      enterInputs schema.undescribed [slot.undescribed] (undescribedInputs entered)
        = (enterInputs schema [slot] entered).map undescribedInputs :=
    enterInputs_undescribed schema [slot] entered
  unfold enterSignature
  rw [signature.type_undescribed, signature.args_undescribed]
  cases signature.type with
  | scalar | object =>
      cases signature.args with
      | none => rfl
      | some slot => exact walked slot
  | lookup name =>
      rw [OutputRef.undescribed]
      dsimp only
      rw [registered]
      cases Entries.has schema.objects name with
      | false => rfl
      | true =>
          cases signature.args with
          | none => rfl
          | some slot => exact walked slot

theorem foldlM_map_of_step {ε α β γ δ : Type} {f : α → γ} {g : β → δ} {step : β → α → Except ε β}
    {bareStep : δ → γ → Except ε δ}
    (each : ∀ state entry, bareStep (g state) (f entry) = (step state entry).map g)
    (list : List α) (state : β) :
    (list.map f).foldlM bareStep (g state) = (list.foldlM step state).map g := by
  induction list generalizing state with
  | nil => rfl
  | cons entry list ih =>
      rw [List.map_cons, List.foldlM_cons, List.foldlM_cons, each]
      cases step state entry with
      | error error => rfl
      | ok next => exact ih next

theorem reachableInputs_undescribed :
    reachableInputs schema.undescribed = (reachableInputs schema).map undescribedInputs := by
  rw [reachableInputs, declaredSignatures_undescribed]
  exact foldlM_map_of_step (enterSignature_undescribed schema) (declaredSignatures schema) []

theorem ofSchema_undescribed :
    ofSchema schema.undescribed = (ofSchema schema).map Document.undescribed := by
  rw [ofSchema, reachableInputs_undescribed, ofSchema]
  cases reachableInputs schema with
  | error error => rfl
  | ok inputs => exact congrArg Except.ok (document_undescribed schema inputs)

end Walk

/-- Schemas that differ in nothing but descriptions are declared or refused alike, and by documents
that differ in nothing but descriptions. -/
theorem ofSchema_of_undescribed_eq {schema other : Schema}
    (same : schema.undescribed = other.undescribed) :
    (ofSchema schema).map Document.undescribed = (ofSchema other).map Document.undescribed := by
  rw [← ofSchema_undescribed, same, ofSchema_undescribed]

end Declarations

end TypedQuery
