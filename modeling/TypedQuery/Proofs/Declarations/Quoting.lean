import TypedQuery.Proofs.Declarations.Closure
import TypedQuery.Proofs.Declarations.DocumentTokens

/-!
# How the names of a schema are read

Nothing is escaped in a declaration document. A name is written as a key between double quotes.
Where a type is mentioned its name stands between single quotes, or without quotes if it is the name
of an object type. A description is written as a block comment. If names and descriptions leave
nothing open at the places where they stand, the schema is `Quotable`: its document is tidy, and by
`document_reads` the literals are read as the names, one by one.
-/

namespace TypedQuery

namespace Schema

open Declarations

variable (schema : Schema)

/-- The names that a document writes as keys. -/
inductive WritesKey : String → Prop
  | scalar {name scalar} : (name, scalar) ∈ schema.scalars → WritesKey scalar.name
  | object {name type} : (name, type) ∈ schema.objects → WritesKey type.name
  | field {name type key field} : (name, type) ∈ schema.objects → (key, field) ∈ type.fields →
      WritesKey key
  | operation {name root} : (name, root) ∈ schema.operations → WritesKey root.name
  | input {type} : schema.LeadsToInput type → WritesKey type.name
  | member {type key slot} : schema.LeadsToInput type → (key, slot) ∈ type.fields → WritesKey key

/-- The names of scalars and input types that a document mentions. -/
inductive Mentions : String → Prop
  | output {signature scalar} : signature ∈ declaredSignatures schema →
      signature.type = .scalar scalar → Mentions scalar.name
  | slot {slot scalar} : schema.Leads slot → slot.type = .scalar scalar → Mentions scalar.name
  | input {type} : schema.LeadsToInput type → Mentions type.name

/-- The names of object types that a document writes without quotes. -/
inductive NamesObject : String → Prop
  | registered {name type} : (name, type) ∈ schema.objects → NamesObject type.name
  | inline {signature type} : signature ∈ declaredSignatures schema →
      signature.type = .object type → NamesObject type.name

/-- The descriptions that a document shows, that of an input type only if `LeadsToInput` holds of
it. -/
inductive Describes : String → Prop
  | scalar {name scalar text} : (name, scalar) ∈ schema.scalars →
      scalar.description = some text → Describes text
  | object {name type text} : (name, type) ∈ schema.objects → type.description = some text →
      Describes text
  | field {name type key field text} : (name, type) ∈ schema.objects →
      (key, field) ∈ type.fields → field.signature.description = some text → Describes text
  | operation {name root text} : (name, root) ∈ schema.operations →
      root.signature.description = some text → Describes text
  | input {type text} : schema.LeadsToInput type → type.description = some text → Describes text

/-- Names and descriptions leave nothing open where they stand. -/
structure Quotable : Prop where
  keys : ∀ name, schema.WritesKey name → Verbatim '"' name
  mentions : ∀ name, schema.Mentions name → Verbatim '\'' name
  objects : ∀ name, schema.NamesObject name → Bare (Text.capitalize name)
  descriptions : ∀ text, schema.Describes text → Harmless text

end Schema

namespace Declarations

variable {schema : Schema} {inputs : List (String × InputType)}

/-- What has been covered, in the sense of `Covers`, when the walk to the input types in reach has
ended. -/
theorem covers_of_reachableInputs (returned : reachableInputs schema = .ok inputs) :
    ∃ final, Covers schema schema.Leads {} (documentVisits schema) final ∧
      (document schema inputs).inputs.entries = final.table ∧
      (Entries.keys final.table).Nodup := by
  obtain ⟨outcome, collects⟩ := Consistent.start.collects (documentVisits schema)
  have walked : Matches schema [] [] outcome (.ok inputs) :=
    returned ▸ reachableInputs_eq_walk schema ▸ collects.matches .start
  cases outcome with
  | error error => cases walked
  | ok final =>
      obtain ⟨_, ⟨⟩, _, consistent⟩ := walked
      have table : (document schema inputs).inputs.entries = final.table := by
        rw [consistent.table]
        simp [document, sectionOf]
      exact ⟨final, covers_of_collects collects, table, consistent.keys ▸ consistent.unique⟩

section Mentions

theorem Plain.intercalate {separator : String} (plain : Plain separator) {texts : List String}
    (each : ∀ text ∈ texts, Plain text) : Plain (separator.intercalate texts) := by
  induction texts with
  | nil =>
      rw [String.intercalate_nil]
      decide
  | cons first rest ih =>
      obtain ⟨own, others⟩ := List.forall_mem_cons.mp each
      cases rest with
      | nil => rwa [String.intercalate_singleton]
      | cons next rest =>
          rw [String.intercalate_cons_cons]
          exact (own.append plain).append (ih others)

theorem plain_primitiveName (kind : Primitive) : Plain (primitiveName kind) := by
  cases kind <;> decide

/-- A mention of a section by a name between single quotes. -/
theorem unquoted_mention {before name : String} (plain : Plain before)
    (verbatim : Verbatim '\'' name) : Unquoted (before ++ "['" ++ name ++ "']") := by
  have text : before ++ "['" ++ name ++ "']" = before ++ "[" ++ ("'" ++ name ++ "'") ++ "]" := by
    apply String.toList_injective
    simp
  rw [text]
  exact (((Unquoted.plain plain).append (.plain (by decide))).append (.single verbatim)).append
    (.plain (by decide))

theorem unquoted_scalarReference {name : String} (verbatim : Verbatim '\'' name) :
    Unquoted (scalarReference name) :=
  unquoted_mention (by decide : Plain "Scalars") verbatim

theorem unquoted_inputReference {name : String} (verbatim : Verbatim '\'' name) :
    Unquoted (inputReference name) :=
  unquoted_mention (by decide : Plain "InputTypes") verbatim

variable (quotable : schema.Quotable)
include quotable

theorem unquoted_outputReference {signature : Signature}
    (declared : signature ∈ declaredSignatures schema) {type : ResolvedOutput}
    (resolved : schema.resolveOutput signature.type = .ok type) :
    Unquoted (outputReference schema signature.type) := by
  cases type with
  | scalar scalar =>
      have ref : signature.type = .scalar scalar := Schema.resolveOutput_eq_scalar_iff.mp resolved
      rw [outputReference_of_scalar resolved]
      exact unquoted_scalarReference (quotable.mentions _ (.output declared ref))
  | object type =>
      have names : schema.NamesObject type.name := by
        obtain ref | ⟨name, _, found⟩ := Schema.resolveOutput_eq_object_iff.mp resolved
        · exact .inline declared ref
        · exact .registered (Entries.mem_of_get?_eq_some found)
      rw [outputReference_of_object resolved]
      exact .bare (quotable.objects _ names)

theorem unquoted_slotReference {slot : Slot} (leads : schema.Leads slot) {names : List String}
    (settled : Settled schema names slot) : Unquoted (slotReference schema slot) := by
  obtain ⟨type, resolved, _⟩ := settled
  cases type with
  | scalar scalar =>
      have ref : slot.type = .scalar scalar := Schema.resolveInput_eq_scalar_iff.mp resolved
      rw [slotReference_of_scalar resolved]
      exact unquoted_scalarReference (quotable.mentions _ (.slot leads ref))
  | input type =>
      rw [slotReference_of_input resolved]
      exact unquoted_inputReference (quotable.mentions _ (.input ⟨slot, leads, resolved⟩))

theorem unquoted_argsLeaf {args : Option Slot} {names : List String}
    (leads : ∀ slot, args = some slot → schema.Leads slot ∧ Settled schema names slot) :
    Unquoted (argsLeaf schema args).value := by
  cases args with
  | none => exact .plain (by decide : Plain "undefined")
  | some slot =>
      obtain ⟨leads, settled⟩ := leads slot rfl
      have mention := unquoted_slotReference quotable leads settled
      unfold argsLeaf
      dsimp only
      split
      · exact mention
      · exact ((Unquoted.plain (by decide : Plain "[")).append mention).append
          (.plain (by decide))

end Mentions

/-- What is written of the entry leaves nothing open, and its literals are read as the names. -/
structure ReadsAs (entry : String × Entry) (names : List String) : Prop where
  tidy : TidyEntry entry
  quotes : entryQuotes entry = names.map some

section Entry

/-- A type without literals in double quotes, and without a description. -/
structure UnquotedLeaf (leaf : Leaf) : Prop where
  value : Unquoted leaf.value
  description : leaf.description = none

theorem UnquotedLeaf.tidy {key : String} {leaf : Leaf} (h : UnquotedLeaf leaf)
    (verbatim : Verbatim '"' key) : TidyLeaf (key, leaf) :=
  ⟨verbatim, h.value.closed, by simp [h.description]⟩

namespace ReadsAs

variable {key : String} (verbatim : Verbatim '"' key) {description : Option String}
  (harmless : ∀ text ∈ description, Harmless text)
include verbatim harmless

theorem record {leaves : List (String × Leaf)}
    (each : ∀ leaf ∈ leaves, Verbatim '"' leaf.1 ∧ UnquotedLeaf leaf.2) :
    ReadsAs (key, .record description leaves) (key :: Entries.keys leaves) where
  tidy := .record verbatim harmless fun leaf inside =>
    (each leaf inside).2.tidy (each leaf inside).1
  quotes := by
    have quotes : leaves.flatMap leafQuotes = leaves.flatMap fun leaf => [some leaf.1] := by
      refine List.flatMap_congr fun leaf inside => ?_
      rw [leafQuotes, (each leaf inside).2.value.quotes]
    simp [entryQuotes, quotes, Entries.keys, ← List.map_eq_flatMap]

/-- The record of a field or operation. -/
theorem signature {type args : Leaf} (first : UnquotedLeaf type) (second : UnquotedLeaf args) :
    ReadsAs (key, .record description [("Type", type), ("Args", args)]) [key, "Type", "Args"] := by
  have keys : Verbatim '"' "Type" ∧ Verbatim '"' "Args" := by decide
  refine record verbatim harmless (List.forall_mem_cons.mpr ⟨⟨keys.1, first⟩, ?_⟩)
  exact List.forall_mem_singleton.mpr ⟨keys.2, second⟩

end ReadsAs

theorem keys_slotLeaves (schema : Schema) (type : InputType) :
    Entries.keys (type.fields.map fun (name, slot) => (name, slotLeaf schema slot))
      = Entries.keys type.fields := by
  simp [Entries.keys]

variable (quotable : schema.Quotable)
include quotable

theorem readsAs_scalarEntry {name : String} {scalar : Scalar}
    (registered : (name, scalar) ∈ schema.scalars) :
    ReadsAs (scalar.name, scalarEntry scalar) [scalar.name] := by
  have kinds : Plain ("|".intercalate (scalar.kinds.map primitiveName)) := by
    refine Plain.intercalate (by decide) fun text inside => ?_
    obtain ⟨kind, _, rfl⟩ := List.mem_map.mp inside
    exact plain_primitiveName kind
  have value : Unquoted ("|".intercalate (scalar.kinds.map primitiveName)) := .plain kinds
  refine ⟨.leaf ⟨quotable.keys _ (.scalar registered), value.closed, fun text held => ?_⟩, ?_⟩
  · exact quotable.descriptions _ (.scalar registered held)
  · exact congrArg (some scalar.name :: ·) value.quotes

theorem readsAs_mainEntry {name : String} {type : ObjectType}
    (registered : (name, type) ∈ schema.objects) :
    ReadsAs (type.name, mainEntry type) [type.name, "Typename", type.name, "Type"] := by
  have verbatim : Verbatim '"' type.name := quotable.keys _ (.object registered)
  have capital : Bare (Text.capitalize type.name) := quotable.objects _ (.registered registered)
  have named : Unquoted ("GetType<" ++ Text.capitalize type.name ++ ">") :=
    ((Unquoted.plain (by decide)).append (.bare capital)).append (.plain (by decide))
  have keys : Verbatim '"' "Typename" ∧ Verbatim '"' "Type" := by decide
  refine ⟨.record verbatim nofun (List.forall_mem_cons.mpr ⟨?typename, ?type⟩), ?quotes⟩
  case typename => exact ⟨keys.1, ⟨_, shows_double verbatim⟩, nofun⟩
  case type => exact List.forall_mem_singleton.mpr ⟨keys.2, named.closed, nofun⟩
  case quotes =>
    simp [mainEntry, entryQuotes, leafQuotes, doubleQuoted_double_iff.mpr verbatim, named.quotes]

/-- The record of an input type to which a slot leads. -/
theorem readsAs_inputEntry {type : InputType} (leads : schema.LeadsToInput type)
    {names : List String} (settled : ∀ slot ∈ slots type, Settled schema names slot) :
    ReadsAs (type.name, inputEntry schema type) (type.name :: Entries.keys type.fields) := by
  rw [← keys_slotLeaves schema type]
  refine .record (quotable.keys _ (.input leads))
    (fun _ held => quotable.descriptions _ (.input leads held)) fun leaf inside => ?_
  obtain ⟨⟨key, slot⟩, member, rfl⟩ := List.mem_map.mp inside
  refine ⟨quotable.keys _ (.member leads member), ?_, rfl⟩
  obtain ⟨outer, met, resolved⟩ := leads
  exact unquoted_slotReference quotable (met.member resolved member)
    (settled slot (List.mem_map_of_mem member))

section Covered

variable {final : Progress} (covers : Covers schema schema.Leads {} (documentVisits schema) final)
include covers

/-- The record of a declared signature. -/
theorem readsAs_of_signature {signature : Signature}
    (declared : signature ∈ declaredSignatures schema) {key : String}
    (verbatim : Verbatim '"' key) {description : Option String}
    (harmless : ∀ text ∈ description, Harmless text) :
    ReadsAs (key, .record description
      [("Type", typeLeaf signature (outputReference schema signature.type)),
        ("Args", argsLeaf schema signature.args)]) [key, "Type", "Args"] := by
  obtain ⟨type, resolved⟩ := resolves_of_covers covers declared
  refine .signature verbatim harmless ⟨unquoted_outputReference quotable declared resolved, rfl⟩
    ⟨unquoted_argsLeaf quotable fun slot held => ⟨?_, settled_of_covers covers declared held⟩, ?_⟩
  · exact leads_of_mem_declaredSignatures declared held
  · cases signature.args <;> rfl

theorem readsAs_operationEntry {name : String} {root : Operation}
    (registered : (name, root) ∈ schema.operations) :
    ReadsAs (root.name, operationEntry schema root) [root.name, "Type", "Args"] :=
  readsAs_of_signature quotable covers (operation_mem_declaredSignatures registered)
    (quotable.keys _ (.operation registered))
    fun _ held => quotable.descriptions _ (.operation registered held)

theorem readsAs_fieldEntry {name key : String} {type : ObjectType} {field : Field}
    (registered : (name, type) ∈ schema.objects) (inside : (key, field) ∈ type.fields) :
    ReadsAs (key, fieldEntry schema field) [key, "Type", "Args"] := by
  have verbatim : Verbatim '"' key := quotable.keys _ (.field registered inside)
  have harmless : ∀ text ∈ field.signature.description, Harmless text :=
    fun _ held => quotable.descriptions _ (.field registered inside held)
  unfold fieldEntry
  cases shown : field.hidden with
  | true =>
      have never : Plain "never" ∧ Plain "undefined" := by decide
      exact .signature verbatim harmless ⟨.plain never.1, rfl⟩ ⟨.plain never.2, rfl⟩
  | false =>
      have declared : field.signature ∈ declaredSignatures schema :=
        field_mem_declaredSignatures registered inside shown
      exact readsAs_of_signature quotable covers declared verbatim harmless

end Covered

end Entry

section Document

/-- The object types that a document exports, by the names of the exports: of each of the `capitals`
the last one. -/
def exportedTypes (schema : Schema) : List (String × ObjectType) :=
  Entries.ofList <| schema.objects.map fun (_, type) => (Text.capitalize type.name, type)

/-- The names that the literals of a document are read as, in the order of the document. -/
def literalNames (schema : Schema) (inputs : List (String × InputType)) : List String :=
  (schema.scalars.flatMap fun (_, scalar) => [scalar.name])
    ++ (inputs.flatMap fun (name, type) => name :: Entries.keys type.fields)
    ++ (schema.objects.flatMap fun (_, type) => [type.name, "Typename", type.name, "Type"])
    ++ ((exportedTypes schema).flatMap fun (_, type) =>
      type.fields.flatMap fun (key, _) => [key, "Type", "Args"])
    ++ schema.operations.flatMap fun (_, root) => [root.name, "Type", "Args"]

theorem objects_document (schema : Schema) (inputs : List (String × InputType)) :
    (document schema inputs).objects
      = (exportedTypes schema).map fun (name, type) => (name, objectExport schema type) := by
  rw [exportedTypes, ← Entries.ofList_map, List.map_map]
  rfl

/-- What is written of the export leaves nothing open, and its literals are read as the names, entry
by entry as `ReadsAs` says. -/
structure ExportReadsAs (declared : String × Export) (names : List String) : Prop where
  tidy : TidyExport declared
  quotes : declared.2.entries.flatMap entryQuotes = names.map some

theorem ExportReadsAs.of_entries {name : String} (bare : Bare name) {description : Option String}
    (harmless : ∀ text ∈ description, Harmless text) {α : Type} {list : List α}
    {entry : α → String × Entry} {names : α → List String}
    (each : ∀ a ∈ list, ReadsAs (entry a) (names a)) :
    ExportReadsAs (name, ⟨description, list.map entry⟩) (list.flatMap names) where
  tidy := ⟨bare, harmless, List.forall_mem_map.mpr fun a inside => (each a inside).tidy⟩
  quotes := by
    rw [List.flatMap_map, List.map_flatMap]
    exact List.flatMap_congr fun a inside => (each a inside).quotes

/-- Exports that are read as lists of names are read as all of them, one after the other. -/
theorem flatMap_exports {α : Type} {list : List α} {write : α → String × Export}
    {names : α → List String} (each : ∀ a ∈ list, ExportReadsAs (write a) (names a)) :
    ((list.map write).flatMap fun declared => declared.2.entries.flatMap entryQuotes)
      = (list.flatMap names).map some := by
  rw [List.flatMap_map, List.map_flatMap]
  exact List.flatMap_congr fun a inside => (each a inside).quotes

theorem readsAs_scalars (quotable : schema.Quotable) (inputs : List (String × InputType)) :
    ExportReadsAs ("Scalars", (document schema inputs).scalars)
      (schema.scalars.flatMap fun (_, scalar) => [scalar.name]) :=
  .of_entries (by decide) (by rintro _ ⟨⟩; exact .plain (by decide)) fun _ registered =>
    readsAs_scalarEntry quotable registered

theorem readsAs_mains (quotable : schema.Quotable) (inputs : List (String × InputType)) :
    ExportReadsAs ("MainTypes", (document schema inputs).mains)
      (schema.objects.flatMap fun (_, type) => [type.name, "Typename", type.name, "Type"]) :=
  .of_entries (by decide) (by rintro _ ⟨⟩; exact .plain (by decide)) fun _ registered =>
    readsAs_mainEntry quotable registered

variable (quotable : schema.Quotable) (returned : reachableInputs schema = .ok inputs)
include quotable returned

/-- The record of an input type in reach. -/
theorem readsAs_of_reachable {name : String} {type : InputType} (inside : (name, type) ∈ inputs) :
    ReadsAs (name, inputEntry schema type) (name :: Entries.keys type.fields) := by
  obtain ⟨final, covers, table, unique⟩ := covers_of_reachableInputs returned
  have held : (name, inputEntry schema type) ∈ final.table :=
    table ▸ List.mem_map_of_mem (f := fun entry => (entry.1, inputEntry schema entry.2)) inside
  obtain ⟨other, leads, rfl, found, settled⟩ :=
    record_of_covers covers (List.mem_map_of_mem (f := Prod.fst) held)
  have same : inputEntry schema type = inputEntry schema other :=
    Option.some.inj (((Entries.get?_eq_some_iff unique).mpr held).symm.trans found)
  have keys : Entries.keys type.fields = Entries.keys other.fields := by
    injection same with _ leaves
    rw [← keys_slotLeaves schema type, leaves, keys_slotLeaves schema other]
  rw [same, keys]
  exact readsAs_inputEntry quotable leads settled

theorem readsAs_inputs :
    ExportReadsAs ("InputTypes", (document schema inputs).inputs)
      (inputs.flatMap fun (name, type) => name :: Entries.keys type.fields) :=
  .of_entries (by decide) (by rintro _ ⟨⟩; exact .plain (by decide)) fun _ inside =>
    readsAs_of_reachable quotable returned inside

theorem readsAs_object {name : String} {type : ObjectType}
    (exported : (name, type) ∈ exportedTypes schema) :
    ExportReadsAs (name, objectExport schema type)
      (type.fields.flatMap fun (key, _) => [key, "Type", "Args"]) := by
  obtain ⟨final, covers, _⟩ := covers_of_reachableInputs returned
  obtain ⟨⟨key, type⟩, registered, same⟩ := List.mem_map.mp (Entries.mem_of_mem_ofList exported)
  obtain ⟨rfl, rfl⟩ := Prod.mk.inj same
  refine .of_entries (quotable.objects _ (.registered registered))
    (fun _ held => quotable.descriptions _ (.object registered held)) ?_
  exact fun _ inside => readsAs_fieldEntry quotable covers registered inside

theorem readsAs_root :
    ExportReadsAs ("Root", (document schema inputs).root)
      (schema.operations.flatMap fun (_, root) => [root.name, "Type", "Args"]) := by
  obtain ⟨final, covers, _⟩ := covers_of_reachableInputs returned
  refine .of_entries (by decide) (by rintro _ ⟨⟩; exact .plain (by decide)) ?_
  exact fun _ registered => readsAs_operationEntry quotable covers registered

/-- What is written of a document leaves nothing open, and its literals are read as the names that
stand in their places. -/
theorem document_reads :
    (∀ declared ∈ (document schema inputs).exports, TidyExport declared) ∧
      ((document schema inputs).exports.flatMap fun declared =>
          declared.2.entries.flatMap entryQuotes)
        = (literalNames schema inputs).map some := by
  have scalars := readsAs_scalars quotable inputs
  have mains := readsAs_mains quotable inputs
  have inputTypes := readsAs_inputs quotable returned
  have root := readsAs_root quotable returned
  have objects : ∀ entry ∈ exportedTypes schema, ExportReadsAs _ _ :=
    fun entry exported => readsAs_object quotable returned exported
  rw [Document.exports, objects_document]
  refine ⟨?tidy, ?quotes⟩
  case tidy =>
    have exports : ∀ entry ∈ exportedTypes schema,
        TidyExport (entry.1, objectExport schema entry.2) :=
      fun entry exported => (objects entry exported).tidy
    have none : ∀ declared ∈ [], TidyExport declared := List.forall_mem_nil _
    simp only [List.forall_mem_append, List.forall_mem_cons, List.forall_mem_map]
    exact ⟨⟨⟨scalars.tidy, inputTypes.tidy, mains.tidy, none⟩, exports⟩, root.tidy, none⟩
  case quotes =>
    rw [List.flatMap_append, List.flatMap_append, flatMap_exports objects]
    simp only [List.flatMap_cons, List.flatMap_nil, scalars.quotes, inputTypes.quotes, mains.quotes,
      root.quotes, literalNames, List.map_append, List.append_nil, List.append_assoc]

end Document

end Declarations

end TypedQuery
