import TypedQuery.Proofs.Declarations.Exports
import TypedQuery.Proofs.Declarations.Mentions
import TypedQuery.Proofs.Plan.Naming

/-!
# Declared fields and selectable fields

Clients read in a declaration document which names they may select in an operation, and
`Scope.select` decides it. The document goes by the name of the object type, under which a type is
registered, and the planner goes by the type to which the operation leads. A look-up leads to the
registered type, so both read the same fields and the document `Agrees` with the planner. A type
that is held inline is what it was when the operation was registered; if another type has been
registered in its place, the two may differ, and they differ just at the names that the two types
treat differently.
-/

namespace TypedQuery

namespace Declarations

/-- The declaration of the type of a field or operation, if it is one. -/
def Entry.type? : Entry → Option Leaf
  | .leaf _ => none
  | .record _ leaves => Entries.get? leaves "Type"

/-- The exported type has an entry of that name whose declared type has that property. -/
def Export.Declares (exported : Export) (key : String) (property : String → Prop) : Prop :=
  ∃ entry leaf, Entries.get? exported.entries key = some entry ∧ entry.type? = some leaf ∧
    property leaf.value

/-- The exported type says of a name what the planner makes of it when it is selected in the
operation: it lacks a name that is unknown, declares a name that is hidden to have no type, and
declares a name that is selected to have a type. -/
structure Agrees (exported : Export) (scope : Scope) (root : Operation)
    (members : List (String × Json)) (key : String) : Prop where
  unknown : scope.ObjectsTo (.operation root) members [root.name] key .unknownField ↔
    Entries.get? exported.entries key = none
  hidden : scope.ObjectsTo (.operation root) members [root.name] key .hiddenField ↔
    exported.Declares key (· = "never")
  selected : ¬ scope.ObjectsTo (.operation root) members [root.name] key .unknownField ∧
      ¬ scope.ObjectsTo (.operation root) members [root.name] key .hiddenField ↔
    exported.Declares key (· ≠ "never")

variable {schema : Schema} {type current : ObjectType} {key : String}

theorem type?_fieldEntry (schema : Schema) (field : Field) :
    (fieldEntry schema field).type? = some (typeLeaf field.signature
      (if field.hidden then "never" else outputReference schema field.signature.type)) := by
  unfold fieldEntry
  cases field.hidden <;> rfl

theorem type?_operationEntry (schema : Schema) (root : Operation) :
    (operationEntry schema root).type?
      = some (typeLeaf root.signature (outputReference schema root.signature.type)) := rfl

theorem get?_objectExport (schema : Schema) (type : ObjectType) (key : String) :
    Entries.get? (objectExport schema type).entries key
      = (Entries.get? type.fields key).map (fieldEntry schema) :=
  Entries.get?_map (fieldEntry schema) type.fields key

/-- The exported type of an object type, its `objectExport`, lacks the names that are unknown in
it. -/
theorem objectExport_lacks_iff :
    Entries.get? (objectExport schema type).entries key = none ↔
      type.objection? key = some .unknownField := by
  rw [get?_objectExport, ObjectType.objection?]
  cases Entries.get? type.fields key with
  | none => simp
  | some field => cases hidden : field.hidden <;> simp [hidden]

theorem objectExport_declares_iff {property : String → Prop} :
    (objectExport schema type).Declares key property ↔ ∃ field,
      Entries.get? type.fields key = some field ∧ property
        (if field.hidden then "never" else outputReference schema field.signature.type) := by
  unfold Export.Declares
  rw [get?_objectExport]
  cases Entries.get? type.fields key with
  | none => simp
  | some field => simp [type?_fieldEntry, typeLeaf]

/-- It declares a hidden name, and no other, to have no type. -/
theorem objectExport_declares_never_iff :
    (objectExport schema type).Declares key (· = "never") ↔
      type.objection? key = some .hiddenField := by
  rw [objectExport_declares_iff, ObjectType.objection?]
  cases Entries.get? type.fields key with
  | none => simp
  | some field => cases hidden : field.hidden <;> simp [hidden, outputReference_ne_never]

theorem objectExport_declares_type_iff :
    (objectExport schema type).Declares key (· ≠ "never") ↔ type.objection? key = none := by
  rw [objectExport_declares_iff, ObjectType.objection?]
  cases Entries.get? type.fields key with
  | none => simp
  | some field => cases hidden : field.hidden <;> simp [hidden, outputReference_ne_never]

/-- Where planning goes by one type and the document by another, they agree on the names to which
both types object alike, by `ObjectType.objection?`. -/
theorem agrees_objectExport_iff {scope : Scope} {root : Operation} {members : List (String × Json)}
    {query : Json} {args : Option Json}
    (resolved : scope.schema.resolveOutput root.signature.type = .ok (.object type))
    (only : members.filter (·.1 ≠ argsKey) = [(key, query)])
    (entered : (scope.enter (.operation root) members [root.name]).Returns args) :
    Agrees (objectExport schema current) scope root members key ↔
      current.objection? key = type.objection? key := by
  have unknown : scope.ObjectsTo (.operation root) members [root.name] key .unknownField ↔
      type.objection? key = some .unknownField :=
    Scope.objectsTo_iff resolved only entered (.inl rfl)
  have hidden : scope.ObjectsTo (.operation root) members [root.name] key .hiddenField ↔
      type.objection? key = some .hiddenField :=
    Scope.objectsTo_iff resolved only entered (.inr rfl)
  constructor
  · intro agrees
    have sameUnknown := unknown.symm.trans (agrees.unknown.trans objectExport_lacks_iff)
    have sameHidden := hidden.symm.trans (agrees.hidden.trans objectExport_declares_never_iff)
    cases objects : type.objection? key with
    | none =>
        rw [ObjectType.objection?_eq_none_iff] at objects ⊢
        exact ⟨fun named => objects.1 (sameUnknown.mpr named),
          fun named => objects.2 (sameHidden.mpr named)⟩
    | some fault =>
        obtain ⟨⟨⟩⟩ | ⟨⟨⟩⟩ := ObjectType.onName_of_objection? objects
        · exact sameUnknown.mp objects
        · exact sameHidden.mp objects
  · intro same
    constructor
    · rw [unknown, objectExport_lacks_iff, same]
    · rw [hidden, objectExport_declares_never_iff, same]
    · rw [unknown, hidden, objectExport_declares_type_iff, same, ObjectType.objection?_eq_none_iff]

/-- The type that an operation is declared to have is the exported type of the object type that is
registered under the name of the one to which the operation leads. Whatever the options and the
request, once the operation has been entered, the exported type says of a name that is selected in
it what the planner makes of the name, just if the registered type treats the name like the type to
which the operation leads. If the operation leads there by a look-up, that is the registered type
itself. -/
theorem declared_names_agree_with_planning (reached : schema.Reached) (apart : Apart schema)
    {written : Document} (declared : ofSchema schema = .ok written) {name : String}
    {root : Operation} (registered : schema.operation? name = some root)
    (resolved : schema.resolveOutput root.signature.type = .ok (.object type))
    (found : schema.object? type.name = some current) :
    (∀ looked, root.signature.type = .lookup looked → current = type) ∧
      ∃ entry leaf exported, Entries.get? written.root.entries name = some entry ∧
        entry.type? = some leaf ∧ Entries.get? written.exports leaf.value = some exported ∧
        ∀ (scope : Scope) members key query args, scope.schema = schema →
          members.filter (·.1 ≠ argsKey) = [(key, query)] →
          (scope.enter (.operation root) members [root.name]).Returns args →
          (Agrees exported scope root members key ↔
            current.objection? key = type.objection? key) := by
  obtain ⟨inputs, _, rfl⟩ := ofSchema_eq_ok_iff.mp declared
  refine ⟨?lookup, operationEntry schema root, _, objectExport schema current, ?root,
    type?_operationEntry schema root, ?exported, ?agrees⟩
  case lookup =>
    intro looked ref
    rw [ref, Schema.resolveOutput_eq_object_iff] at resolved
    obtain ⟨⟨⟩⟩ | ⟨_, ⟨⟩, held⟩ := resolved
    have own : schema.object? type.name = some type :=
      reached.sound.objects.get?_own (Entries.mem_of_get?_eq_some held)
    exact Option.some.inj (found.symm.trans own)
  case root =>
    show Entries.get? (schema.operations.map _) name = _
    rw [reached.sound.operations.get?_map_own (operationEntry schema) name]
    exact congrArg (Option.map (operationEntry schema)) registered
  case exported =>
    have own : current.name = type.name :=
      (reached.sound.objects.own _ (Entries.mem_of_get?_eq_some found)).symm
    show Entries.get? _ (outputReference schema root.signature.type) = _
    rw [outputReference_of_object resolved, ← own]
    exact apart.get?_exports (Entries.mem_of_get?_eq_some found)
  case agrees =>
    rintro scope members key query args rfl only entered
    exact agrees_objectExport_iff resolved only entered

/-- Notes have a text and a secret. -/
def noteType : ObjectType where
  name := "note"
  fields :=
    [("text", .bare (.scalar Scalar.string)),
      ("secret", { Field.bare (.scalar Scalar.string) with hidden := true })]

def noteRoot : Operation where
  name := "note"
  signature := { type := .object noteType }
  resolver := fun _ => pure .null

/-- An operation holds the type of notes, which is registered as it is. -/
def noteRegistrations : List Registration := [.object noteType false, .operation noteRoot]

def noteScope : Scope where
  schema := Schema.base.attemptAll noteRegistrations
  marker := .bool true
  context := ⟨"POST", "/", [], [], [], []⟩
  operation := "note"

/-- The secret of a note is declared to have no type, and is not selected. -/
theorem declared_names_agree_with_planning_note :
    ∃ written entry leaf exported, ofSchema noteScope.schema = .ok written ∧
      Entries.get? written.root.entries "note" = some entry ∧ entry.type? = some leaf ∧
      Entries.get? written.exports leaf.value = some exported ∧
      exported.Declares "secret" (· = "never") ∧
      Agrees exported noteScope noteRoot [("secret", .bool true)] "secret" := by
  have reached : noteScope.schema.Reached := Schema.Reached.base.attemptAll noteRegistrations
  have apart : Apart noteScope.schema := ⟨by decide, by decide⟩
  have declared : ∃ written, ofSchema noteScope.schema = .ok written := ⟨_, rfl⟩
  obtain ⟨written, declared⟩ := declared
  have registered : noteScope.schema.operation? "note" = some noteRoot := rfl
  have resolved : noteScope.schema.resolveOutput noteRoot.signature.type
      = .ok (.object noteType) := rfl
  have found : noteScope.schema.object? noteType.name = some noteType := rfl
  obtain ⟨_, entry, leaf, exported, held, typed, exports, agrees⟩ :=
    declared_names_agree_with_planning reached apart declared registered resolved found
  have agrees : Agrees exported noteScope noteRoot [("secret", .bool true)] "secret" :=
    (agrees noteScope [("secret", .bool true)] "secret" (.bool true) none rfl rfl rfl).mpr rfl
  have hidden : exported.Declares "secret" (· = "never") := agrees.hidden.mp rfl
  exact ⟨written, entry, leaf, exported, declared, held, typed, exports, hidden, agrees⟩

/-- The type of drafts is replaced after an operation has come to hold it. -/
def draftRegistrations : List Registration :=
  let draft (key : String) : ObjectType :=
    { name := "draft", fields := [(key, .bare (.scalar Scalar.string))] }
  [.object (draft "author") false,
    .operation
      { name := "draft", signature := { type := .object (draft "author") }
        resolver := fun _ => pure .null },
    .object (draft "title") true]

/-- The author of a draft is selected, and the exported type by which the operation is declared has
no entry for it. -/
theorem draft_author_undeclared :
    ∃ schema written root entry leaf exported plan,
      Schema.base.registerAll draftRegistrations = .ok schema ∧ Apart schema ∧
      ofSchema schema = .ok written ∧ schema.operation? "draft" = some root ∧
      Entries.get? written.root.entries "draft" = some entry ∧ entry.type? = some leaf ∧
      Entries.get? written.exports leaf.value = some exported ∧
      Entries.get? exported.entries "author" = none ∧
      Scope.select { noteScope with schema, operation := "draft" }
        (.object [("author", .bool true)]) (.operation root) ["draft"] = pure plan :=
  ⟨_, _, _, _, _, _, _, rfl, ⟨by decide, by decide⟩, rfl, rfl, rfl, rfl, rfl, rfl, rfl⟩

end Declarations

end TypedQuery
