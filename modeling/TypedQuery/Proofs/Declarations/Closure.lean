import TypedQuery.Proofs.Declarations.Coverage
import TypedQuery.Proofs.Declarations.Mentions

/-!
# Closed documents

A document mentions types by their names, so a type that is held inline has to be the one that is
registered under its name, as `Schema.InlineCurrent` says. If all of them are, the document is
`Closed`, that is whatever it mentions is declared in it: scalars and input types in their sections,
and object types among the exports.
-/

namespace TypedQuery.Declarations

variable {schema : Schema}

namespace Document

variable (document : Document)

/-- The text mentions a scalar of the document. -/
def DeclaresScalar (text : String) : Prop :=
  ∃ name ∈ Entries.keys document.scalars.entries, text = scalarReference name

/-- The text mentions the type of a field or operation, which is a scalar or an object type that is
exported. -/
def DeclaresOutput (text : String) : Prop :=
  document.DeclaresScalar text ∨ text ∈ Entries.keys document.objects

/-- The text mentions the type of a slot, which is a scalar or an input type of the document. -/
def DeclaresSlot (text : String) : Prop :=
  document.DeclaresScalar text ∨
    ∃ name ∈ Entries.keys document.inputs.entries, text = inputReference name

/-- The text mentions the type of arguments, which may stand in a tuple, or says that there are no
arguments. -/
def DeclaresArgs (text : String) : Prop :=
  text = "undefined" ∨ document.DeclaresSlot text ∨
    ∃ mention, document.DeclaresSlot mention ∧ text = "[" ++ mention ++ "]"

/-- The record of a field or operation mentions what is declared, unless the field is hidden. -/
def DeclaresRecord (entry : Entry) : Prop :=
  ∃ description type args, entry = .record description [("Type", type), ("Args", args)] ∧
    (type.value = "never" ∧ args.value = "undefined" ∨
      document.DeclaresOutput type.value ∧ document.DeclaresArgs args.value)

/-- Whatever the document mentions is declared in it, section by section, as `DeclaresRecord` says
of one entry. -/
structure Closed : Prop where
  /-- A scalar is declared by the kinds of its values, and mentions nothing else. -/
  scalars : ∀ entry ∈ document.scalars.entries, ∃ leaf, entry.2 = .leaf leaf ∧
    ∃ kinds : List Primitive, leaf.value = "|".intercalate (kinds.map primitiveName)
  inputs : ∀ entry ∈ document.inputs.entries, ∃ description leaves,
    entry.2 = .record description leaves ∧
      ∀ leaf ∈ leaves, document.DeclaresSlot leaf.2.value
  mains : ∀ entry ∈ document.mains.entries, ∃ name type,
    entry.2 = .record none [("Typename", name), ("Type", type)] ∧
      name.value = "\"" ++ entry.1 ++ "\"" ∧
      ∃ capital ∈ Entries.keys document.objects, type.value = "GetType<" ++ capital ++ ">"
  objects : ∀ declared ∈ document.objects, ∀ entry ∈ declared.2.entries,
    document.DeclaresRecord entry.2
  root : ∀ entry ∈ document.root.entries, document.DeclaresRecord entry.2

end Document

section Closed

variable {inputs : List (String × InputType)}

theorem declaresScalar {scalar : Scalar} (registered : schema.scalar? scalar.name = some scalar) :
    (document schema inputs).DeclaresScalar (scalarReference scalar.name) := by
  have inside : (scalar.name, scalar) ∈ schema.scalars := Entries.mem_of_get?_eq_some registered
  refine ⟨scalar.name, ?_, rfl⟩
  exact List.mem_map.mpr ⟨_, List.mem_map_of_mem inside, rfl⟩

theorem capitalize_mem_objects {name : String} {type : ObjectType}
    (registered : (name, type) ∈ schema.objects) :
    Text.capitalize type.name ∈ Entries.keys (document schema inputs).objects := by
  rw [keys_objects, List.mem_eraseDups]
  exact List.mem_map_of_mem registered

theorem keys_inputs :
    Entries.keys (document schema inputs).inputs.entries = Entries.keys inputs := by
  simp [document, Entries.keys]

/-- The type of a registered signature is declared if it leads somewhere. -/
theorem declaresOutput (current : schema.InlineCurrent) {signature : Signature}
    (registered : schema.Registers signature) {type : ResolvedOutput}
    (resolved : schema.resolveOutput signature.type = .ok type) :
    (document schema inputs).DeclaresOutput (outputReference schema signature.type) := by
  cases type with
  | scalar scalar =>
      have ref : signature.type = .scalar scalar := Schema.resolveOutput_eq_scalar_iff.mp resolved
      rw [outputReference_of_scalar resolved]
      exact .inl (declaresScalar (current.outputScalars signature scalar registered ref))
  | object type =>
      have found : ∃ name, schema.object? name = some type := by
        obtain ref | ⟨name, _, found⟩ := Schema.resolveOutput_eq_object_iff.mp resolved
        · exact ⟨_, current.objects signature type registered ref⟩
        · exact ⟨name, found⟩
      obtain ⟨name, found⟩ := found
      rw [outputReference_of_object resolved]
      exact .inr (capitalize_mem_objects (Entries.mem_of_get?_eq_some found))

/-- The type of a registered slot is declared if the slot leads to a scalar, or to an input type of
the section. -/
theorem declaresSlot (current : schema.InlineCurrent) {slot : Slot}
    (registered : schema.RegistersSlot slot)
    (settled : Settled schema (Entries.keys inputs) slot) :
    (document schema inputs).DeclaresSlot (slotReference schema slot) := by
  obtain ⟨type, resolved, inside⟩ := settled
  cases type with
  | scalar scalar =>
      have ref : slot.type = .scalar scalar := Schema.resolveInput_eq_scalar_iff.mp resolved
      rw [slotReference_of_scalar resolved]
      exact .inl (declaresScalar (current.inputScalars slot scalar registered ref))
  | input type =>
      rw [slotReference_of_input resolved]
      exact .inr ⟨type.name, keys_inputs ▸ inside type rfl, rfl⟩

theorem declaresArgs (current : schema.InlineCurrent) {args : Option Slot}
    (registered : ∀ slot, args = some slot → schema.RegistersSlot slot)
    (settled : ∀ slot, args = some slot → Settled schema (Entries.keys inputs) slot) :
    (document schema inputs).DeclaresArgs (argsLeaf schema args).value := by
  cases args with
  | none => exact .inl rfl
  | some slot =>
      have declared : (document schema inputs).DeclaresSlot (slotReference schema slot) :=
        declaresSlot current (registered slot rfl) (settled slot rfl)
      unfold argsLeaf
      dsimp only
      split
      · exact .inr (.inl declared)
      · exact .inr (.inr ⟨_, declared, rfl⟩)

end Closed

section Document

variable (current : schema.InlineCurrent) {final : Progress}
  (covers : Covers schema schema.Leads {} (documentVisits schema) final)
  {inputs : List (String × InputType)} (names : Entries.keys inputs = Entries.keys final.table)
include current covers names

theorem declaresRecord_of_signature {signature : Signature}
    (declared : signature ∈ declaredSignatures schema) (description : Option String) :
    (document schema inputs).DeclaresRecord (.record description
      [("Type", typeLeaf signature (outputReference schema signature.type)),
        ("Args", argsLeaf schema signature.args)]) := by
  obtain ⟨type, resolved⟩ := resolves_of_covers covers declared
  have registered : schema.Registers signature := registers_of_mem_declaredSignatures declared
  refine ⟨description, _, _, rfl, .inr ⟨declaresOutput current registered resolved, ?_⟩⟩
  refine declaresArgs current (fun slot args => .inl ⟨signature, registered, args⟩) ?_
  exact fun slot args => names ▸ settled_of_covers covers declared args

theorem declaresRecord_of_field {name key : String} {type : ObjectType} {field : Field}
    (registered : (name, type) ∈ schema.objects) (inside : (key, field) ∈ type.fields) :
    (document schema inputs).DeclaresRecord (fieldEntry schema field) := by
  unfold fieldEntry
  cases shown : field.hidden with
  | true => exact ⟨_, _, _, rfl, .inl ⟨rfl, rfl⟩⟩
  | false =>
      have declared : field.signature ∈ declaredSignatures schema :=
        field_mem_declaredSignatures registered inside shown
      exact declaresRecord_of_signature current covers names declared _

/-- What is declared is `Closed` if its section of input types is the one that has been
collected. -/
theorem document_closed (reached : schema.Reached) (unique : (Entries.keys final.table).Nodup)
    (entries : (document schema inputs).inputs.entries = final.table) :
    (document schema inputs).Closed where
  scalars := by
    intro entry inside
    obtain ⟨⟨name, scalar⟩, _, rfl⟩ := List.mem_map.mp inside
    exact ⟨_, rfl, scalar.kinds, rfl⟩
  inputs := by
    intro entry inside
    obtain ⟨type, found, record, settled⟩ :=
      entry_of_covers current reached covers unique (entries ▸ inside)
    refine ⟨_, _, record, fun leaf held => ?_⟩
    obtain ⟨⟨key, slot⟩, member, rfl⟩ := List.mem_map.mp held
    have registered : schema.RegistersSlot slot :=
      .inr ⟨_, Entries.mem_of_get?_eq_some found, _, member, rfl⟩
    exact declaresSlot current registered (names ▸ settled slot (List.mem_map_of_mem member))
  mains := by
    intro entry inside
    obtain ⟨⟨name, type⟩, registered, rfl⟩ := List.mem_map.mp inside
    exact ⟨_, _, rfl, rfl, _, capitalize_mem_objects registered, rfl⟩
  objects := by
    rintro ⟨capital, exported⟩ declared entry inside
    obtain ⟨before, after, split, _⟩ := Entries.last_of_mem_ofList declared
    have listed := split ▸ List.mem_append_right before List.mem_cons_self
    obtain ⟨⟨name, type⟩, registered, same⟩ := List.mem_map.mp listed
    obtain ⟨rfl, rfl⟩ := Prod.mk.inj same
    obtain ⟨⟨key, field⟩, member, rfl⟩ := List.mem_map.mp inside
    exact declaresRecord_of_field current covers names registered member
  root := by
    intro entry inside
    obtain ⟨⟨name, root⟩, registered, rfl⟩ := List.mem_map.mp inside
    have declared : root.signature ∈ declaredSignatures schema :=
      operation_mem_declaredSignatures registered
    exact declaresRecord_of_signature current covers names declared _

end Document

/-- Whatever is declared, the recursion by which its input types are collected comes to an end, with
the error or with the section of the document. If whatever is held inline is what is registered
under its name, the section has just the names of the input types to which declared arguments lead,
each once and in the order in which they are first visited. Each entry lists the fields of the
registered type of its name, and what is mentioned anywhere in the document is declared in it. -/
theorem declarations_are_closed (reached : schema.Reached) (current : schema.InlineCurrent) :
    ∃ outcome, Collects schema {} (documentVisits schema) outcome ∧
      (∀ error, ofSchema schema = .error error ↔ outcome = .error error) ∧
      ∀ written, ofSchema schema = .ok written → ∃ collected, outcome = .ok collected ∧
        written.inputs.entries = collected.table ∧
        Entries.keys written.inputs.entries = collected.visited.eraseDups ∧
        (Entries.keys written.inputs.entries).Nodup ∧
        (∀ name, name ∈ Entries.keys written.inputs.entries ↔
          ∃ type, schema.LeadsToInput type ∧ type.name = name) ∧
        (∀ entry ∈ written.inputs.entries, ∃ type leaves, schema.input? entry.1 = some type ∧
          entry.2 = .record type.description leaves ∧
          Entries.keys leaves = Entries.keys type.fields) ∧
        written.Closed := by
  obtain ⟨outcome, collects⟩ := Consistent.start.collects (documentVisits schema)
  have walked : Matches schema [] [] outcome (reachableInputs schema) :=
    reachableInputs_eq_walk schema ▸ collects.matches .start
  refine ⟨outcome, collects, ?_⟩
  cases outcome with
  | error error =>
      have failed : ofSchema schema = .error error := by
        rw [ofSchema, show reachableInputs schema = .error error from walked]
        rfl
      rw [failed]
      refine ⟨fun other => by simp, fun written declared => ?_⟩
      cases declared
  | ok final =>
      obtain ⟨inputs, returned, _, consistent⟩ := walked
      have written : ofSchema schema = .ok (document schema inputs) :=
        ofSchema_eq_ok_iff.mpr ⟨inputs, returned, rfl⟩
      have covers : Covers schema schema.Leads {} (documentVisits schema) final :=
        covers_of_collects collects
      have entries : (document schema inputs).inputs.entries = final.table := by
        rw [consistent.table]
        simp [document, sectionOf]
      have unique : (Entries.keys final.table).Nodup := consistent.keys ▸ consistent.unique
      rw [written]
      refine ⟨fun other => by simp, ?_⟩
      rintro _ ⟨⟩
      refine ⟨final, rfl, entries, ?_, ?_, ?_, ?_, ?_⟩
      · rw [entries, consistent.order]
      · rwa [entries]
      · intro name
        rw [entries]
        exact mem_section_iff current reached covers
      · rw [entries]
        intro entry inside
        obtain ⟨type, found, record, _⟩ := entry_of_covers current reached covers unique inside
        exact ⟨type, _, found, record, by simp [Entries.keys]⟩
      · exact document_closed current covers consistent.keys.symm reached unique entries

/-- A filter leads to an order of results, and both lead back to the filter. -/
def filterType : InputType where
  name := "filter"
  fields :=
    [("text", { type := .scalar Scalar.string }), ("order", { type := .lookup "order" }),
      ("not", { type := .lookup "filter" })]

def orderType : InputType where
  name := "order"
  fields :=
    [("by", { type := .scalar Scalar.string, required := true }),
      ("within", { type := .lookup "filter" })]

/-- A book leads to similar books, by a filter that is held inline. -/
def similarType : ObjectType where
  name := "book"
  fields :=
    [("title", .bare (.scalar Scalar.string)),
      ("similar",
        { signature := { type := .lookup "book", args := some { type := .input filterType } } })]

def similarRegistrations : List Registration :=
  [.input filterType false, .input orderType false, .object similarType false,
    .operation
      { name := "books"
        signature := { type := .object similarType, args := some { type := .lookup "order" } }
        resolver := fun _ => pure .null }]

def similarSchema : Schema := Schema.base.attemptAll similarRegistrations

theorem similarSchema_inlineCurrent : similarSchema.InlineCurrent := by
  have signatures (signature : Signature) (registered : similarSchema.Registers signature) :
      signature ∈ [{ type := .object similarType, args := some { type := .lookup "order" } },
        (Field.bare (.scalar Scalar.string)).signature,
        { type := .lookup "book", args := some { type := .input filterType } }] := by
    obtain ⟨operation, inside, rfl⟩ | ⟨type, inside, field, held, rfl⟩ := registered
    · obtain rfl := List.mem_singleton.mp inside
      exact List.mem_cons_self
    · obtain rfl := List.mem_singleton.mp inside
      exact List.mem_cons_of_mem _ (List.mem_map_of_mem (f := fun entry => entry.2.signature) held)
  have slots (slot : Slot) (registered : similarSchema.RegistersSlot slot) :
      slot ∈ { type := .lookup "order" } :: { type := .input filterType } ::
        (slots filterType ++ slots orderType) := by
    obtain ⟨signature, registered, args⟩ | ⟨type, inside, field, held, rfl⟩ := registered
    · have inside := signatures signature registered
      simp only [List.mem_cons, List.not_mem_nil, or_false] at inside
      obtain rfl | rfl | rfl := inside <;> cases args <;> simp
    · refine List.mem_cons_of_mem _ (List.mem_cons_of_mem _ ?_)
      obtain rfl | inside := List.mem_cons.mp inside
      · exact List.mem_append_left _ (List.mem_map_of_mem held)
      · obtain rfl := List.mem_singleton.mp inside
        exact List.mem_append_right _ (List.mem_map_of_mem held)
  simp only [Declarations.slots, filterType, orderType, List.mem_cons, List.not_mem_nil, or_false,
    List.map_cons, List.map_nil, List.cons_append, List.nil_append] at signatures slots
  constructor
  · intro signature type registered ref
    obtain rfl | rfl | rfl := signatures signature registered <;> cases ref
    rfl
  · intro slot type registered ref
    obtain rfl | rfl | rfl | rfl | rfl | rfl | rfl := slots slot registered <;> cases ref
    rfl
  · intro signature scalar registered ref
    obtain rfl | rfl | rfl := signatures signature registered <;> cases ref
    rfl
  · intro slot scalar registered ref
    obtain rfl | rfl | rfl | rfl | rfl | rfl | rfl := slots slot registered <;> cases ref <;> rfl

theorem reachableInputs_similarSchema :
    reachableInputs similarSchema = .ok [("filter", filterType), ("order", orderType)] := by
  have filter : similarSchema.resolveInput (.lookup "filter") = .ok (.input filterType) := rfl
  have order : similarSchema.resolveInput (.lookup "order") = .ok (.input orderType) := rfl
  have held : similarSchema.resolveInput (.input filterType) = .ok (.input filterType) := rfl
  have similar : enterInputs similarSchema [{ type := .input filterType }] []
      = .ok [("filter", filterType), ("order", orderType)] := by
    rw [enterInputs_of_new held _ List.not_mem_nil, slots, filterType]
    simp only [List.map_cons, List.map_nil, List.nil_append, List.append_nil]
    rw [enterInputs_of_scalar rfl, enterInputs_of_new order _ (by decide), slots, orderType]
    simp only [List.map_cons, List.map_nil, List.cons_append, List.nil_append]
    rw [enterInputs_of_scalar rfl, enterInputs_of_known filter _ (by decide),
      enterInputs_of_known filter _ (by decide), enterInputs]
  have books : enterInputs similarSchema [{ type := .lookup "order" }]
      [("filter", filterType), ("order", orderType)]
      = .ok [("filter", filterType), ("order", orderType)] := by
    rw [enterInputs_of_known order _ (by decide), enterInputs]
  show (enterInputs similarSchema [{ type := .input filterType }] [] >>= fun inputs =>
    enterInputs similarSchema [{ type := .lookup "order" }] inputs >>= pure) = _
  rw [similar]
  show enterInputs similarSchema [{ type := .lookup "order" }]
    [("filter", filterType), ("order", orderType)] >>= pure = _
  rw [books]
  rfl

theorem declarations_are_closed_similar :
    ∃ written collected, ofSchema similarSchema = .ok written ∧
      Collects similarSchema {} (documentVisits similarSchema) (.ok collected) ∧
      Entries.keys written.inputs.entries = ["filter", "order"] ∧
      collected.visited.eraseDups = ["filter", "order"] ∧ written.Closed := by
  have reached : similarSchema.Reached := Schema.Reached.base.attemptAll similarRegistrations
  have written : ofSchema similarSchema = .ok (document similarSchema _) :=
    ofSchema_eq_ok_iff.mpr ⟨_, reachableInputs_similarSchema, rfl⟩
  obtain ⟨outcome, collects, _, declared⟩ :=
    declarations_are_closed reached similarSchema_inlineCurrent
  obtain ⟨collected, rfl, _, order, _, _, _, closed⟩ := declared _ written
  exact ⟨_, collected, written, collects, rfl, order.symm, closed⟩

end TypedQuery.Declarations
