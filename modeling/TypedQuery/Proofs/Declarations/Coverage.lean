import TypedQuery.Proofs.Declarations.Collection
import TypedQuery.Proofs.Declarations.Completeness

/-!
# The input types that are collected

A run of the collection leaves alone what is in the section before it begins, and when it ends every
slot that it has visited leads somewhere, as `Covers` says. A type that has come to the section has
its record there, and its own slots lead somewhere, too. If types that are held inline are the ones
that are registered under their names, a name stands for one type, and the section of a document has
all types to which the declared arguments lead, which is `Schema.LeadsToInput`.
-/

namespace TypedQuery

namespace Schema

variable (schema : Schema)

/-- The slot is met on the way from the arguments of an operation, or of a field that is not hidden,
through the types to which slots lead. -/
inductive Leads : Slot → Prop
  | operation {name root slot} : (name, root) ∈ schema.operations →
      root.signature.args = some slot → Leads slot
  | field {name type key field slot} : (name, type) ∈ schema.objects →
      (key, field) ∈ type.fields → field.hidden = false → field.signature.args = some slot →
      Leads slot
  | member {slot type key inner} : Leads slot → schema.resolveInput slot.type = .ok (.input type) →
      (key, inner) ∈ type.fields → Leads inner

/-- A slot that is met on the way, as `Leads` says, leads to the input type. -/
def LeadsToInput (type : InputType) : Prop :=
  ∃ slot, schema.Leads slot ∧ schema.resolveInput slot.type = .ok (.input type)

/-- Input types to which slots lead have different names. -/
def InputsApart : Prop :=
  ∀ type other, schema.LeadsToInput type → schema.LeadsToInput other → other.name = type.name →
    other = type

/-- Whatever is held inline is what is registered under its name. -/
structure InlineCurrent : Prop where
  objects : ∀ signature type, schema.Registers signature → signature.type = .object type →
    schema.object? type.name = some type
  inputs : ∀ slot type, schema.RegistersSlot slot → slot.type = .input type →
    schema.input? type.name = some type
  outputScalars : ∀ signature scalar, schema.Registers signature →
    signature.type = .scalar scalar → schema.scalar? scalar.name = some scalar
  inputScalars : ∀ slot scalar, schema.RegistersSlot slot → slot.type = .scalar scalar →
    schema.scalar? scalar.name = some scalar

variable {schema}

/-- A slot that is registered leads to an input type that is registered under its own name. -/
theorem InlineCurrent.input?_of_resolveInput (current : schema.InlineCurrent)
    (reached : schema.Reached) {slot : Slot} (registered : schema.RegistersSlot slot)
    {type : InputType} (resolved : schema.resolveInput slot.type = .ok (.input type)) :
    schema.input? type.name = some type := by
  obtain ref | ⟨name, _, found⟩ := resolveInput_eq_input_iff.mp resolved
  · exact current.inputs slot type registered ref
  · exact reached.sound.inputs.get?_own (Entries.mem_of_get?_eq_some found)

/-- Whatever is met on the way is registered. -/
theorem InlineCurrent.registersSlot (current : schema.InlineCurrent) (reached : schema.Reached)
    {slot : Slot} (leads : schema.Leads slot) : schema.RegistersSlot slot := by
  induction leads with
  | operation registered args => exact .inl ⟨_, .inl ⟨_, registered, rfl⟩, args⟩
  | field registered inside _ args => exact .inl ⟨_, .inr ⟨_, registered, _, inside, rfl⟩, args⟩
  | member _ resolved inside ih =>
      have found := current.input?_of_resolveInput reached ih resolved
      exact .inr ⟨_, Entries.mem_of_get?_eq_some found, _, inside, rfl⟩

/-- An input type is the only one of its name. -/
theorem InlineCurrent.input?_of_leadsToInput (current : schema.InlineCurrent)
    (reached : schema.Reached) {type : InputType} (leads : schema.LeadsToInput type) :
    schema.input? type.name = some type := by
  obtain ⟨slot, leads, resolved⟩ := leads
  exact current.input?_of_resolveInput reached (current.registersSlot reached leads) resolved

theorem InlineCurrent.inputsApart (current : schema.InlineCurrent) (reached : schema.Reached) :
    schema.InputsApart := by
  intro type other leads otherLeads named
  have found : schema.input? type.name = some type := current.input?_of_leadsToInput reached leads
  have otherFound := current.input?_of_leadsToInput reached otherLeads
  rw [named, found] at otherFound
  exact (Option.some.inj otherFound).symm

end Schema

namespace Declarations

variable {schema : Schema}

/-- The slot leads to a scalar, or to an input type that is in the section. -/
def Settled (schema : Schema) (names : List String) (slot : Slot) : Prop :=
  ∃ type, schema.resolveInput slot.type = .ok type ∧
    ∀ input, type = .input input → input.name ∈ names

theorem Settled.mono {names more : List String} {slot : Slot} (h : Settled schema names slot)
    (grown : names ⊆ more) : Settled schema more slot := by
  obtain ⟨type, resolved, inside⟩ := h
  exact ⟨type, resolved, fun input same => grown (inside input same)⟩

/-- The visit leads somewhere, and so do the arguments that it declares, each `Settled`. -/
def Visit.Settled (schema : Schema) (names : List String) : Visit → Prop
  | .signature declared => (∃ type, schema.resolveOutput declared.type = .ok type) ∧
      ∀ args, declared.args = some args → Declarations.Settled schema names args
  | .slot met => Declarations.Settled schema names met

/-- Every slot that is visited has the property. -/
def Visit.Has (property : Slot → Prop) : Visit → Prop
  | .signature declared => ∀ args, declared.args = some args → property args
  | .slot met => property met

theorem Progress.mem_keys_write {progress : Progress} {name key : String} {entry : Entry} :
    key ∈ Entries.keys (progress.write name entry).table ↔
      key ∈ Entries.keys progress.table ∨ key = name := by
  rw [Progress.table_write, Entries.keys_put]
  split
  next known => exact ⟨.inl, fun either => either.elim id fun same => same ▸ known⟩
  · simp

/-- A run leaves alone what is in the section before, be it the record of a type or a place that is
reserved for one. -/
theorem Collects.keeps {progress : Progress} {visits : List Visit}
    {outcome : Except Error Progress} (collects : Collects schema progress visits outcome)
    {final : Progress} (ended : outcome = .ok final) {name : String} {entry : Entry}
    (held : Entries.get? progress.table name = some entry) :
    Entries.get? final.table name = some entry := by
  induction collects generalizing final with
  | done =>
      obtain rfl := Except.ok.inj ended
      exact held
  | undeclared | missing | stopped => cases ended
  | declared _ _ ih => exact ih ended held
  | scalar _ _ ih => exact ih ended held
  | known _ _ _ ih => exact ih ended held
  | @entered progress inner slot rest type outcome _ new _ _ ihWithin ihRest =>
      have known : name ∈ Entries.keys progress.table := Entries.mem_keys_iff.mpr ⟨entry, held⟩
      have apart : name ≠ type.name := fun same => new (same ▸ known)
      have inside : Entries.get? inner.table name = some entry :=
        ihWithin rfl ((Entries.get?_put_of_ne apart ..).trans held)
      exact ihRest ended ((Entries.get?_put_of_ne apart ..).trans inside)

theorem Collects.grows {progress : Progress} {visits : List Visit} {final : Progress}
    (collects : Collects schema progress visits (.ok final)) :
    Entries.keys progress.table ⊆ Entries.keys final.table := by
  intro name inside
  obtain ⟨entry, held⟩ := Entries.mem_keys_iff.mp inside
  exact Entries.mem_keys_iff.mpr ⟨entry, collects.keeps rfl held⟩

/-- What a run of the recursion has covered when it ends. -/
structure Covers (schema : Schema) (property : Slot → Prop) (progress : Progress)
    (visits : List Visit) (final : Progress) : Prop where
  visits : ∀ visit ∈ visits, visit.Settled schema (Entries.keys final.table)
  /-- A name that has come to the section has the record of a type to which a slot leads. -/
  types : ∀ name ∈ Entries.keys final.table, name ∈ Entries.keys progress.table ∨
    ∃ slot type, property slot ∧ schema.resolveInput slot.type = .ok (.input type) ∧
      type.name = name ∧ Entries.get? final.table name = some (inputEntry schema type) ∧
      ∀ inner ∈ slots type, Settled schema (Entries.keys final.table) inner

/-- All visits lead somewhere, and so do the slots of all types that come to the section. -/
theorem Collects.covers {progress : Progress} {visits : List Visit}
    {outcome : Except Error Progress} (collects : Collects schema progress visits outcome)
    {final : Progress} (ended : outcome = .ok final) {property : Slot → Prop}
    (closed : ∀ slot type, property slot → schema.resolveInput slot.type = .ok (.input type) →
      ∀ inner ∈ slots type, property inner)
    (has : ∀ visit ∈ visits, visit.Has property) :
    Covers schema property progress visits final := by
  induction collects generalizing final with
  | done =>
      obtain rfl := Except.ok.inj ended
      exact ⟨nofun, fun name inside => .inl inside⟩
  | undeclared | missing | stopped => cases ended
  | declared resolved rest ih =>
      obtain ⟨first, others⟩ := List.forall_mem_cons.1 has
      have covers := ih ended (List.forall_mem_append.mpr ⟨by
        intro visit inside
        obtain ⟨args, held, rfl⟩ := List.mem_map.mp inside
        exact first args (Option.mem_toList.mp held), others⟩)
      obtain ⟨arguments, rest⟩ := List.forall_mem_append.1 covers.visits
      refine ⟨List.forall_mem_cons.mpr ⟨⟨⟨_, resolved⟩, fun args held => ?_⟩, rest⟩, covers.types⟩
      exact arguments _ (List.mem_map_of_mem (Option.mem_toList.mpr held))
  | scalar resolved rest ih =>
      obtain ⟨_, others⟩ := List.forall_mem_cons.1 has
      have covers := ih ended others
      exact ⟨List.forall_mem_cons.mpr ⟨⟨_, resolved, nofun⟩, covers.visits⟩, covers.types⟩
  | known resolved known rest ih =>
      obtain ⟨_, others⟩ := List.forall_mem_cons.1 has
      have covers := ih ended others
      refine ⟨List.forall_mem_cons.mpr ⟨⟨_, resolved, ?_⟩, covers.visits⟩, covers.types⟩
      rintro _ ⟨⟩
      subst ended
      exact rest.grows known
  | @entered progress inner slot visits type outcome resolved new within rest ihInner ihRest =>
      obtain ⟨first, others⟩ := List.forall_mem_cons.1 has
      have members : ∀ visit ∈ (slots type).map Visit.slot, visit.Has property := by
        intro visit inside
        obtain ⟨member, held, rfl⟩ := List.mem_map.mp inside
        exact closed slot type first resolved member held
      have inside := ihInner rfl members
      have outside := ihRest ended others
      subst ended
      have written : Entries.get? final.table type.name = some (inputEntry schema type) :=
        rest.keeps rfl (Entries.get?_put_self ..)
      have kept : Entries.keys inner.table ⊆ Entries.keys final.table :=
        fun _ held => rest.grows (Progress.mem_keys_write.mpr (.inl held))
      have members : ∀ inner ∈ slots type, Settled schema (Entries.keys final.table) inner :=
        fun _ held => (inside.visits _ (List.mem_map_of_mem held)).mono kept
      refine ⟨List.forall_mem_cons.mpr ⟨⟨_, resolved, ?_⟩, outside.visits⟩, fun name held => ?_⟩
      · rintro _ ⟨⟩
        exact Entries.mem_keys_iff.mpr ⟨_, written⟩
      · by_cases same : name = type.name
        · subst same
          exact .inr ⟨slot, type, first, resolved, rfl, written, members⟩
        obtain held | led := outside.types name held
        · have held : name ∈ Entries.keys inner.table :=
            (Progress.mem_keys_write.mp held).resolve_right same
          obtain held | ⟨slot, other, met, leads, named, entry, settled⟩ := inside.types name held
          · exact .inl ((Progress.mem_keys_write.mp held).resolve_right same)
          · have entry := rest.keeps rfl ((Entries.get?_put_of_ne same ..).trans entry)
            exact .inr ⟨slot, other, met, leads, named, entry,
              fun _ held => (settled _ held).mono kept⟩
        · exact .inr led

theorem field_mem_declaredSignatures {name key : String} {type : ObjectType} {field : Field}
    (registered : (name, type) ∈ schema.objects) (inside : (key, field) ∈ type.fields)
    (shown : field.hidden = false) : field.signature ∈ declaredSignatures schema := by
  refine List.mem_append_left _ (List.mem_flatMap.mpr ⟨(name, type), registered, ?_⟩)
  exact List.mem_map.mpr ⟨(key, field), List.mem_filter.mpr ⟨inside, by simp [shown]⟩, rfl⟩

theorem operation_mem_declaredSignatures {name : String} {root : Operation}
    (registered : (name, root) ∈ schema.operations) :
    root.signature ∈ declaredSignatures schema :=
  List.mem_append_right _ (List.mem_map.mpr ⟨(name, root), registered, rfl⟩)

/-- The arguments that are declared are where the way to the input types begins. -/
theorem leads_of_mem_declaredSignatures {signature : Signature}
    (declared : signature ∈ declaredSignatures schema) {slot : Slot}
    (args : signature.args = some slot) : schema.Leads slot := by
  obtain inTypes | inOperations := List.mem_append.mp declared
  · obtain ⟨⟨name, type⟩, registered, inType⟩ := List.mem_flatMap.mp inTypes
    obtain ⟨⟨key, field⟩, inside, rfl⟩ := List.mem_map.mp inType
    obtain ⟨inside, shown⟩ := List.mem_filter.mp inside
    exact .field registered inside (by simpa using shown) args
  · obtain ⟨⟨name, root⟩, registered, rfl⟩ := List.mem_map.mp inOperations
    exact .operation registered args

/-- What has been collected for a document when the recursion ends: it `Covers` the slots that
`Leads` lists. -/
theorem covers_of_collects {final : Progress}
    (collects : Collects schema {} (documentVisits schema) (.ok final)) :
    Covers schema schema.Leads {} (documentVisits schema) final := by
  refine collects.covers rfl ?_ ?_
  · intro slot type leads resolved inner inside
    obtain ⟨⟨key, inner⟩, held, rfl⟩ := List.mem_map.mp inside
    exact leads.member resolved held
  · intro visit inside
    obtain ⟨signature, declared, rfl⟩ := List.mem_map.mp inside
    exact fun slot args => leads_of_mem_declaredSignatures declared args

section Covered

variable (current : schema.InlineCurrent) (reached : schema.Reached) {final : Progress}
  (covers : Covers schema schema.Leads {} (documentVisits schema) final)
include covers

theorem resolves_of_covers {signature : Signature}
    (declared : signature ∈ declaredSignatures schema) :
    ∃ type, schema.resolveOutput signature.type = .ok type :=
  (covers.visits _ (List.mem_map_of_mem declared)).1

theorem settled_of_covers {signature : Signature}
    (declared : signature ∈ declaredSignatures schema) {slot : Slot}
    (args : signature.args = some slot) : Settled schema (Entries.keys final.table) slot :=
  (covers.visits _ (List.mem_map_of_mem declared)).2 slot args

/-- A name of the section has the record of the input type of that name, to which a slot leads. -/
theorem record_of_covers {name : String} (inside : name ∈ Entries.keys final.table) :
    ∃ type, schema.LeadsToInput type ∧ type.name = name ∧
      Entries.get? final.table name = some (inputEntry schema type) ∧
      ∀ slot ∈ slots type, Settled schema (Entries.keys final.table) slot := by
  obtain ⟨⟨⟩⟩ | ⟨slot, type, leads, resolved, named, held, settled⟩ := covers.types name inside
  exact ⟨type, ⟨slot, leads, resolved⟩, named, held, settled⟩

/-- Every slot that is met on the way leads to a scalar or into the section. -/
theorem settled_of_leads (apart : schema.InputsApart) {slot : Slot} (leads : schema.Leads slot) :
    Settled schema (Entries.keys final.table) slot := by
  induction leads with
  | operation registered args =>
      exact settled_of_covers covers (operation_mem_declaredSignatures registered) args
  | field registered inside shown args =>
      exact settled_of_covers covers (field_mem_declaredSignatures registered inside shown) args
  | @member slot type key inner leads resolved inside ih =>
      obtain ⟨_, same, named⟩ := ih
      obtain rfl := Except.ok.inj (resolved.symm.trans same)
      obtain ⟨other, otherLeads, otherNamed, _, settled⟩ := record_of_covers covers (named type rfl)
      -- The type of that name in the section is this type.
      obtain rfl := apart type other ⟨slot, leads, resolved⟩ otherLeads otherNamed
      exact settled inner (List.mem_map_of_mem inside)

/-- A type to which a slot leads has its record in the section. -/
theorem record_of_leads (apart : schema.InputsApart) {type : InputType}
    (leads : schema.LeadsToInput type) :
    Entries.get? final.table type.name = some (inputEntry schema type) := by
  obtain ⟨slot, met, resolved⟩ := leads
  obtain ⟨_, same, named⟩ := settled_of_leads covers apart met
  obtain rfl := Except.ok.inj (resolved.symm.trans same)
  obtain ⟨other, otherLeads, otherNamed, held, _⟩ := record_of_covers covers (named type rfl)
  obtain rfl := apart type other ⟨slot, met, resolved⟩ otherLeads otherNamed
  exact held

include current reached

theorem mem_section_iff {name : String} :
    name ∈ Entries.keys final.table ↔ ∃ type, schema.LeadsToInput type ∧ type.name = name := by
  constructor
  · intro inside
    obtain ⟨type, leads, named, _⟩ := record_of_covers covers inside
    exact ⟨type, leads, named⟩
  · rintro ⟨type, leads, rfl⟩
    have apart : schema.InputsApart := current.inputsApart reached
    exact Entries.mem_keys_iff.mpr ⟨_, record_of_leads covers apart leads⟩

/-- An entry of the section is the record of the input type of its name. -/
theorem entry_of_covers (unique : (Entries.keys final.table).Nodup) {entry : String × Entry}
    (inside : entry ∈ final.table) :
    ∃ type, schema.input? entry.1 = some type ∧ entry.2 = inputEntry schema type ∧
      ∀ slot ∈ slots type, Settled schema (Entries.keys final.table) slot := by
  obtain ⟨type, leads, named, held, settled⟩ :=
    record_of_covers covers (List.mem_map_of_mem inside)
  have found : schema.input? type.name = some type := current.input?_of_leadsToInput reached leads
  have same : some entry.2 = some (inputEntry schema type) :=
    ((Entries.get?_eq_some_iff unique).mpr inside).symm.trans held
  exact ⟨type, named ▸ found, Option.some.inj same, settled⟩

end Covered

end Declarations

end TypedQuery
