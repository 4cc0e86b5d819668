import TypedQuery.Declarations.Printer
import TypedQuery.Proofs.Declarations.Exports
import TypedQuery.Proofs.Declarations.Walk
import TypedQuery.Proofs.Schema.Redaction

/-!
# What declarations show of hidden fields

A declaration document lists hidden fields by name. Beside the name it shows their `Field.cover`,
which is the description and the wrapping of the type, that is whether the field is an array and
whether it may be null; the type and the arguments are struck out before anything is looked up for
them. So two schemas that are redacted to the same are declared or refused alike, and where
`ObjectType.covers` tells that their hidden fields are described and wrapped alike, by the same
document. The type of a hidden field is written as the type without values only if there is no
wrapping.
-/

namespace TypedQuery

/-- What two lists have in common, element by element, is carried over to other values. -/
theorem map_eq_map_of_keys {α β γ δ ε : Type} {f : α → γ} {f' : β → γ} {g : α → δ} {g' : β → δ}
    {h : α → ε} {h' : β → ε} (step : ∀ a b, f a = f' b → g a = g' b → h a = h' b)
    {list : List α} {other : List β} (first : list.map f = other.map f')
    (second : list.map g = other.map g') : list.map h = other.map h' := by
  induction list generalizing other with
  | nil =>
      cases other with
      | nil => rfl
      | cons => cases first
  | cons a list ih =>
      cases other with
      | nil => cases first
      | cons b other =>
          obtain ⟨here, first⟩ := List.cons.inj first
          obtain ⟨there, second⟩ := List.cons.inj second
          rw [List.map_cons, List.map_cons, step a b here there, ih first second]

/-- The description of a field and the wrapping of its type. -/
def Field.cover (field : Field) : Option String × Option ArrayRule × Bool :=
  (field.signature.description, field.signature.array, field.signature.nullable)

/-- The `Field.cover` of each hidden field, at its place. -/
def ObjectType.covers (type : ObjectType) :
    List (Option (Option String × Option ArrayRule × Bool)) :=
  type.fields.map fun (_, field) => if field.hidden then some field.cover else none

@[simp] theorem Signature.description_redact (signature : Signature) :
    signature.redact.description = signature.description := by
  cases signature; rfl

namespace ObjectType

variable (type : ObjectType)

@[simp] theorem name_redact : type.redact.name = type.name := by
  cases type; rfl

@[simp] theorem description_redact : type.redact.description = type.description := by
  cases type; rfl

theorem fields_redact :
    type.redact.fields = type.fields.map fun field => (field.1, field.2.redact) := by
  obtain ⟨name, description, fields⟩ := type
  exact redactFields_eq_map fields

end ObjectType

theorem Schema.inputs_redact (schema : Schema) : schema.redact.inputs = schema.inputs := rfl

namespace Declarations

section Redact

variable (schema : Schema)

theorem outputReference_redact (ref : OutputRef) :
    outputReference schema.redact ref.redact = outputReference schema ref := by
  cases ref with
  | scalar => rfl
  | object type => rw [OutputRef.redact, outputReference, outputReference, type.name_redact]
  | lookup name =>
      have found : Entries.get? schema.redact.objects name
          = (Entries.get? schema.objects name).map ObjectType.redact :=
        Entries.get?_map ObjectType.redact schema.objects name
      rw [OutputRef.redact, outputReference, outputReference, found]
      cases Entries.get? schema.objects name with
      | none => rfl
      | some type => exact congrArg Text.capitalize type.name_redact

/-- Input types hide nothing. -/
theorem argsLeaf_redact : argsLeaf schema.redact = argsLeaf schema := rfl

theorem inputEntry_redact : inputEntry schema.redact = inputEntry schema := rfl

/-- Visible fields are declared as before. -/
theorem fieldEntry_redact {field : Field} (shown : field.hidden = false) :
    fieldEntry schema.redact field.redact = fieldEntry schema field := by
  simp [fieldEntry, shown, Field.redact_of_visible shown, typeLeaf, outputReference_redact,
    argsLeaf_redact]

theorem operationEntry_redact (root : Operation) :
    operationEntry schema.redact root.redact = operationEntry schema root := by
  simp [operationEntry, Operation.redact, typeLeaf, outputReference_redact, argsLeaf_redact]

theorem declaredSignatures_redact :
    declaredSignatures schema.redact = (declaredSignatures schema).map Signature.redact := by
  have fields (type : ObjectType) :
      (type.redact.fields.filter fun (_, field) => !field.hidden).map (·.2.signature)
        = ((type.fields.filter fun (_, field) => !field.hidden).map (·.2.signature)).map
          Signature.redact := by
    rw [ObjectType.fields_redact, List.filter_map, List.map_map, List.map_map]
    simp only [Function.comp_def, Field.hidden_redact]
    refine List.map_congr_left fun entry inside => ?_
    have shown : entry.2.hidden = false := by simpa using (List.mem_filter.mp inside).2
    rw [Field.redact_of_visible shown]
  unfold declaredSignatures Schema.redact
  dsimp only
  rw [List.map_append, List.map_flatMap, List.flatMap_map, List.map_map, List.map_map]
  exact congrArg₂ _ (List.flatMap_congr fun entry _ => fields entry.2) rfl

/-- The walk reads the input types only. -/
theorem enterInputs_redact (pending : List Slot) (entered : List (String × InputType)) :
    enterInputs schema.redact pending entered = enterInputs schema pending entered := by
  induction pending, entered using enterInputs.induct schema with
  | case1 entered => rw [enterInputs, enterInputs]
  | case2 | case3 | case4 | case5 | case6 | case7 =>
      simp [enterInputs_cons, Schema.resolveInput, Schema.input?, Schema.inputs_redact, *]

theorem enterSignature_redact (entered : List (String × InputType)) (signature : Signature) :
    enterSignature schema.redact entered signature.redact
      = enterSignature schema entered signature := by
  have registered (name : String) :
      Entries.has schema.redact.objects name = Entries.has schema.objects name := by
    have found : Entries.get? schema.redact.objects name
        = (Entries.get? schema.objects name).map ObjectType.redact :=
      Entries.get?_map ObjectType.redact schema.objects name
    rw [Entries.has, found, Option.isSome_map, Entries.has]
  unfold enterSignature
  rw [Signature.type_redact, Signature.args_redact]
  simp only [enterInputs_redact]
  cases signature.type with
  | scalar | object => rfl
  | lookup name =>
      rw [OutputRef.redact]
      dsimp only
      rw [registered]

/-- Nothing is looked up for hidden fields, so `reachableInputs` are the same. -/
theorem reachableInputs_redact : reachableInputs schema.redact = reachableInputs schema := by
  rw [reachableInputs, declaredSignatures_redact, List.foldlM_map, reachableInputs]
  simp only [enterSignature_redact]

end Redact

/-- How a hidden field is declared, by its `Field.cover`. -/
theorem fieldEntry_of_hidden (schema : Schema) {field : Field} (hidden : field.hidden = true) :
    fieldEntry schema field =
      .record field.cover.1
        [("Type", { value := "never", array := field.cover.2.1, nullable := field.cover.2.2 }),
          ("Args", { value := "undefined" })] := by
  simp [fieldEntry, hidden, Field.cover, typeLeaf]

section Same

variable {schema other : Schema} (same : schema.redact = other.redact)
include same

theorem reachableInputs_eq : reachableInputs schema = reachableInputs other := by
  rw [← reachableInputs_redact, same, reachableInputs_redact]

theorem fieldEntry_eq {field beside : Field} (fields : field.redact = beside.redact)
    (covers : (if field.hidden then some field.cover else none)
      = if beside.hidden then some beside.cover else none) :
    fieldEntry schema field = fieldEntry other beside := by
  have alike : field.hidden = beside.hidden := by
    rw [← field.hidden_redact, fields, beside.hidden_redact]
  cases hidden : field.hidden with
  | true =>
      rw [← alike, hidden, if_pos rfl, if_pos rfl] at covers
      rw [fieldEntry_of_hidden schema hidden, fieldEntry_of_hidden other (alike ▸ hidden),
        Option.some.inj covers]
  | false =>
      rw [← fieldEntry_redact schema hidden, same, fields,
        fieldEntry_redact other (alike ▸ hidden)]

theorem objectExport_eq {type beside : ObjectType} (types : type.redact = beside.redact)
    (covers : type.covers = beside.covers) :
    objectExport schema type = objectExport other beside := by
  have description : type.description = beside.description := by
    rw [← type.description_redact, types, beside.description_redact]
  have fields : (type.fields.map fun field => (field.1, field.2.redact))
      = beside.fields.map fun field => (field.1, field.2.redact) := by
    rw [← type.fields_redact, types, beside.fields_redact]
  unfold objectExport
  rw [description]
  congr 1
  refine map_eq_map_of_keys ?_ fields covers
  rintro ⟨key, field⟩ ⟨name, beside⟩ sameField sameCover
  obtain ⟨rfl, sameField⟩ := Prod.mk.inj sameField
  exact congrArg (key, ·) (fieldEntry_eq same sameField sameCover)

/-- Where hidden fields have the same covers, the same is declared. -/
theorem document_eq (covers : (schema.objects.map fun (_, type) => type.covers)
      = other.objects.map fun (_, type) => type.covers) :
    document schema = document other := by
  have types : (schema.objects.map fun entry => (entry.1, entry.2.redact))
      = other.objects.map fun entry => (entry.1, entry.2.redact) := congrArg Schema.objects same
  have operations : (schema.operations.map fun entry => (entry.1, entry.2.redact))
      = other.operations.map fun entry => (entry.1, entry.2.redact) :=
    congrArg Schema.operations same
  have names {type beside : ObjectType} (types : type.redact = beside.redact) :
      type.name = beside.name := by
    rw [← type.name_redact, types, beside.name_redact]
  have inputs : inputEntry schema = inputEntry other := by
    rw [← inputEntry_redact, same, inputEntry_redact]
  funext reached
  have scalars : (document schema reached).scalars = (document other reached).scalars := by
    have table : schema.scalars = other.scalars := (congrArg Schema.scalars same :)
    rw [document, document, table]
  have reach : (document schema reached).inputs = (document other reached).inputs := by
    rw [document, document, inputs]
  have mains : (document schema reached).mains = (document other reached).mains := by
    refine congrArg (Export.mk _) (map_eq_map_of_keys ?_ types types)
    rintro ⟨_, type⟩ ⟨_, beside⟩ entries _
    dsimp only [mainEntry]
    rw [names (Prod.mk.inj entries).2]
  have objects : (document schema reached).objects = (document other reached).objects := by
    refine congrArg Entries.ofList (map_eq_map_of_keys ?_ types covers)
    rintro ⟨_, type⟩ ⟨_, beside⟩ entries cover
    have types : type.redact = beside.redact := (Prod.mk.inj entries).2
    dsimp only
    rw [names types, objectExport_eq same types cover]
  have root : (document schema reached).root = (document other reached).root := by
    refine congrArg (Export.mk _) (map_eq_map_of_keys ?_ operations operations)
    rintro ⟨_, root⟩ ⟨_, beside⟩ entries _
    have roots : root.redact = beside.redact := (Prod.mk.inj entries).2
    have name : root.name = beside.name := (congrArg Operation.name roots :)
    dsimp only
    rw [← operationEntry_redact schema root, name, roots, same, operationEntry_redact]
  exact (Document.mk.injEq ..).mpr ⟨scalars, reach, mains, objects, root⟩

end Same

/-- What a document shows besides the schema is the same for every document. -/
theorem render_eq_iff {written beside : Document} {options : Options} :
    written.render options = beside.render options ↔
      String.join (written.exports.map renderExport)
        = String.join (beside.exports.map renderExport) :=
  String.append_right_inj _

/-- The type without values stands alone just if it is not wrapped. -/
theorem render_never_iff (signature : Signature) :
    (typeLeaf signature "never").render = "(never)" ↔
      signature.array = none ∧ signature.nullable = false := by
  unfold typeLeaf Leaf.render
  cases signature.array with
  | none => cases signature.nullable <;> decide
  | some rule =>
      obtain ⟨nullElements⟩ := rule
      cases signature.nullable <;> cases nullElements <;> decide

/-- What is written for a hidden field under its name. -/
theorem renderEntry_of_hidden (schema : Schema) {field : Field} (hidden : field.hidden = true)
    (key : String) :
    renderEntry (key, fieldEntry schema field)
      = comment field.signature.description ++ "\"" ++ key ++ "\":\x7b\"Type\":"
        ++ (typeLeaf field.signature "never").render ++ ";\"Args\":(undefined);\x7d;" := by
  have args : ({ value := "undefined" } : Leaf).render = "(undefined)" := by decide
  simp only [fieldEntry, hidden, if_true, renderEntry, List.map_cons, List.map_nil, renderLeaf,
    args]
  apply String.toList_injective
  simp [comment, typeLeaf, String.join]

/-- Schemas that differ only in the definitions of hidden fields are declared or refused alike.
Where hidden fields have the same descriptions and the same wrapping, they are declared by the same
document. A hidden field is declared under its name, with its description; its type is written as
the type without values just if it is no array and may not be null, and its arguments not at all. -/
theorem hidden_fields_show_their_cover {schema other : Schema}
    (same : schema.redact = other.redact) :
    ((∃ written, ofSchema schema = .ok written) ↔ ∃ written, ofSchema other = .ok written) ∧
      (∀ error, ofSchema schema = .error error ↔ ofSchema other = .error error) ∧
      ((schema.objects.map fun (_, type) => type.covers)
          = (other.objects.map fun (_, type) => type.covers) →
        ofSchema schema = ofSchema other) ∧
      ∀ written, ofSchema schema = .ok written → ∀ name exported,
        (name, exported) ∈ written.objects →
        ∃ entry ∈ schema.objects, Text.capitalize entry.2.name = name ∧
          ∀ key field, (key, field) ∈ entry.2.fields → field.hidden = true →
            ∃ shown, (key, shown) ∈ exported.entries ∧
              renderEntry (key, shown)
                = comment field.signature.description ++ "\"" ++ key ++ "\":\x7b\"Type\":"
                  ++ (typeLeaf field.signature "never").render
                  ++ ";\"Args\":(undefined);\x7d;" ∧
              ((typeLeaf field.signature "never").render = "(never)" ↔
                field.signature.array = none ∧ field.signature.nullable = false) := by
  have reached : reachableInputs schema = reachableInputs other := reachableInputs_eq same
  have declared {schema : Schema} : (∃ written, ofSchema schema = .ok written) ↔
      ∃ inputs, reachableInputs schema = .ok inputs := by
    simp [ofSchema_eq_ok_iff, exists_comm]
  have refused {schema : Schema} {error : Error} : ofSchema schema = .error error ↔
      reachableInputs schema = .error error := by
    rw [ofSchema]
    cases reachableInputs schema <;> simp [bind, Except.bind, pure, Except.pure]
  refine ⟨?_, fun error => ?_, fun covers => ?_, ?shown⟩
  · rw [declared, declared, reached]
  · rw [refused, refused, reached]
  · rw [ofSchema, ofSchema, reached, document_eq same covers]
  case shown =>
    intro written declared name exported held
    obtain ⟨inputs, _, rfl⟩ := ofSchema_eq_ok_iff.mp declared
    obtain ⟨⟨_, type⟩, registered, named⟩ := List.mem_map.mp (Entries.mem_of_mem_ofList held)
    obtain ⟨rfl, rfl⟩ := Prod.mk.inj named
    refine ⟨_, registered, rfl, fun key field inside hidden => ⟨fieldEntry schema field, ?_, ?_⟩⟩
    · exact List.mem_map.mpr ⟨(key, field), inside, rfl⟩
    · exact ⟨renderEntry_of_hidden schema hidden key, render_never_iff field.signature⟩

/-- Users have a name, and a phone number that nobody may select. -/
def phoneSchema (phone : Signature) : Schema :=
  Schema.base.attemptAll
    [.object
      { name := "user"
        fields :=
          [("name", .bare (.scalar Scalar.string)),
            ("phone", { signature := phone, hidden := true })] }
      false]

/-- Nothing shows of a phone number that is looked up where nothing is found. -/
theorem hidden_fields_show_their_cover_phone :
    let text := phoneSchema { type := .scalar Scalar.string }
    let lookup := phoneSchema
      { type := .lookup "phone", args := some { type := .lookup "country" } }
    text.redact = lookup.redact ∧ ofSchema text = ofSchema lookup ∧
      ∃ written, ofSchema lookup = .ok written ∧ ∃ exported, ("User", exported) ∈ written.objects ∧
        ∃ shown, ("phone", shown) ∈ exported.entries ∧
          renderEntry ("phone", shown)
            = "\"phone\":\x7b\"Type\":(never);\"Args\":(undefined);\x7d;" := by
  intro text lookup
  have same : text.redact = lookup.redact := rfl
  obtain ⟨_, _, alike, _⟩ := hidden_fields_show_their_cover same
  obtain ⟨_, _, _, declared⟩ := hidden_fields_show_their_cover same.symm
  obtain ⟨written, build⟩ : ∃ written, ofSchema lookup = .ok written := ⟨_, rfl⟩
  obtain ⟨exported, held⟩ : ∃ exported, ("User", exported) ∈ written.objects := by
    cases build
    exact ⟨_, List.mem_singleton_self _⟩
  obtain ⟨entry, registered, _, fields⟩ := declared written build "User" exported held
  obtain rfl := List.mem_singleton.mp registered
  obtain ⟨shown, inside, rendered, _⟩ :=
    fields "phone" _ (List.mem_cons_of_mem _ List.mem_cons_self) rfl
  exact ⟨same, alike rfl, written, build, exported, held, shown, inside, rendered.trans (by decide)⟩

/-- A phone number that may be missing is told from one that may not. -/
theorem hidden_fields_show_nullable_phone :
    let always := phoneSchema { type := .scalar Scalar.string }
    let sometimes := phoneSchema { type := .scalar Scalar.string, nullable := true }
    always.redact = sometimes.redact ∧
      ∃ written beside, ofSchema always = .ok written ∧ ofSchema sometimes = .ok beside ∧
        written.render {} ≠ beside.render {} := by
  intro always sometimes
  refine ⟨rfl, _, _, rfl, rfl, ?_⟩
  rw [ne_eq, render_eq_iff]
  decide +kernel

end Declarations

end TypedQuery
