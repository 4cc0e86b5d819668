import TypedQuery.Proofs.Declarations.Coverage
import TypedQuery.Proofs.Elements

/-!
# Registered definitions that are declared

A document has an entry for every scalar, object type and operation that is registered. Its input
types are found on the way from the declared arguments, so an entry there is the record of a type to
which a slot leads, as `RecordOf` tells it field by field, and an input type that is registered
without a slot leading to it is left out. If the input types to which slots lead have different
names, which is `Schema.InputsApart`, each of them has its own record.
-/

namespace TypedQuery.Declarations

variable {schema : Schema}

/-- What a client is told of a field of an input type: its name, its type by reference, and whether
there may be nothing, null or an array. -/
structure LeafOf (schema : Schema) (field : String × Slot) (leaf : String × Leaf) : Prop where
  name : leaf.1 = field.1
  value : leaf.2.value = slotReference schema field.2
  array : leaf.2.array = field.2.array
  nullable : leaf.2.nullable = field.2.nullable
  optional : leaf.2.optional = !field.2.required
  description : leaf.2.description = none

/-- The entry has a leaf for each field of the input type, in the order of the fields, and nothing
else. -/
def RecordOf (schema : Schema) (type : InputType) (entry : Entry) : Prop :=
  ∃ leaves, entry = .record type.description leaves ∧
    List.Forall₂ (LeafOf schema) type.fields leaves

theorem LeafOf.eq {field : String × Slot} {leaf : String × Leaf} (h : LeafOf schema field leaf) :
    leaf = (field.1, slotLeaf schema field.2) := by
  obtain ⟨name, value, array, nullable, optional, description⟩ := leaf
  obtain ⟨rfl, rfl, rfl, rfl, rfl, rfl⟩ := h
  rfl

/-- Nothing is left open about the record: it is the `inputEntry` of the type. -/
theorem recordOf_iff {type : InputType} {entry : Entry} :
    RecordOf schema type entry ↔ entry = inputEntry schema type := by
  constructor
  · rintro ⟨leaves, rfl, related⟩
    exact congrArg _ (eq_map_of_forall₂ (related.imp fun _ _ => LeafOf.eq))
  · rintro rfl
    refine ⟨_, rfl, List.forall₂_map_right_iff.mpr (List.forall₂_same.mpr ?_)⟩
    exact fun _ _ => ⟨rfl, rfl, rfl, rfl, rfl, rfl⟩

/-- The section of input types is what a run of the recursion has covered, in the sense of
`Covers`. -/
theorem covers_of_ofSchema {written : Document} (declared : ofSchema schema = .ok written) :
    ∃ final inputs, written = document schema inputs ∧ written.inputs.entries = final.table ∧
      Covers schema schema.Leads {} (documentVisits schema) final := by
  obtain ⟨inputs, returned, rfl⟩ := ofSchema_eq_ok_iff.mp declared
  have ends : ∃ outcome, Collects schema {} (documentVisits schema) outcome :=
    Consistent.start.collects _
  obtain ⟨outcome, collects⟩ := ends
  have walked : Matches schema [] [] outcome (reachableInputs schema) :=
    reachableInputs_eq_walk schema ▸ collects.matches .start
  rw [returned] at walked
  cases outcome with
  | error error => cases walked
  | ok final =>
      obtain ⟨_, same, _, consistent⟩ := walked
      obtain rfl := Except.ok.inj same
      refine ⟨final, inputs, rfl, ?_, covers_of_collects collects⟩
      rw [consistent.table]
      simp [document, sectionOf]

/-- Whenever there is a document, every scalar, object type and operation that is registered has its
entry under the registered name, and nothing else has one. An entry among the input types is the
record, with all fields, of an input type of its name to which a slot leads. If the input types to
which slots lead have different names, a registered input type has its record, provided that some
slot leads to it; it has none if no slot leads to a type of its name. -/
theorem registered_definitions_are_declared (reached : schema.Reached) {written : Document}
    (declared : ofSchema schema = .ok written) :
    (∀ name, Entries.get? written.scalars.entries name
      = (schema.scalar? name).map scalarEntry) ∧
    (∀ name, Entries.get? written.mains.entries name = (schema.object? name).map mainEntry) ∧
    (∀ name, Entries.get? written.root.entries name
      = (schema.operation? name).map (operationEntry schema)) ∧
    (∀ name entry, Entries.get? written.inputs.entries name = some entry →
      ∃ type, schema.LeadsToInput type ∧ type.name = name ∧ RecordOf schema type entry) ∧
    ∀ name type, schema.input? name = some type →
      (schema.InputsApart → schema.LeadsToInput type →
        ∃ entry, Entries.get? written.inputs.entries name = some entry ∧
          RecordOf schema type entry) ∧
      ((∀ other, schema.LeadsToInput other → other.name ≠ name) →
        Entries.get? written.inputs.entries name = none) := by
  obtain ⟨final, inputs, rfl, entries, covers⟩ := covers_of_ofSchema declared
  have sound : schema.Sound := reached.sound
  have recorded : ∀ name entry, Entries.get? final.table name = some entry →
      ∃ type, schema.LeadsToInput type ∧ type.name = name ∧ RecordOf schema type entry := by
    intro name entry held
    obtain ⟨type, leads, named, record, _⟩ :=
      record_of_covers covers (Entries.mem_keys_iff.mpr ⟨entry, held⟩)
    obtain rfl := Option.some.inj (held.symm.trans record)
    exact ⟨type, leads, named, recordOf_iff.mpr rfl⟩
  rw [entries]
  refine ⟨sound.scalars.get?_map_own scalarEntry, sound.objects.get?_map_own mainEntry,
    sound.operations.get?_map_own (operationEntry schema), recorded, ?_⟩
  intro name type registered
  obtain rfl : name = type.name := sound.inputs.own _ (Entries.mem_of_get?_eq_some registered)
  refine ⟨fun apart leads => ?_, fun nowhere => ?_⟩
  · exact ⟨_, record_of_leads covers apart leads, recordOf_iff.mpr rfl⟩
  refine Option.eq_none_iff_forall_ne_some.mpr fun entry held => ?_
  obtain ⟨other, leads, named, _⟩ := recorded _ _ held
  exact nowhere other leads named

/-- A page of results. -/
def pageType : InputType where
  name := "page"
  fields := [("size", { type := .scalar Scalar.number })]

/-- What results are filtered by. -/
def textFilterType : InputType where
  name := "filter"
  fields := [("text", { type := .scalar Scalar.string })]

/-- A search asks for a page; it has no filter yet. -/
def searchRegistrations : List Registration :=
  [.input pageType false, .input textFilterType false,
    .operation
      { name := "search"
        signature := { type := .scalar Scalar.string, args := some { type := .lookup "page" } }
        resolver := fun _ => pure .null }]

def searchSchema : Schema := Schema.base.attemptAll searchRegistrations

theorem reachableInputs_searchSchema : reachableInputs searchSchema = .ok [("page", pageType)] := by
  have page : searchSchema.resolveInput (.lookup "page") = .ok (.input pageType) := rfl
  show enterInputs searchSchema [{ type := .lookup "page" }] [] >>= pure = _
  rw [enterInputs_of_new page _ List.not_mem_nil, slots, pageType]
  simp only [List.map_cons, List.map_nil, List.nil_append, List.append_nil]
  rw [enterInputs_of_scalar rfl, enterInputs]
  rfl

theorem slot_of_leads {slot : Slot} (leads : searchSchema.Leads slot) :
    slot = { type := .lookup "page" } ∨ slot = { type := .scalar Scalar.number } := by
  induction leads with
  | operation registered args =>
      obtain ⟨-, rfl⟩ := Prod.mk.inj (List.mem_singleton.mp registered)
      exact .inl (Option.some.inj args).symm
  | field registered => cases registered
  | member _ resolved inside ih =>
      obtain rfl | rfl := ih
      · cases resolved
        obtain ⟨-, rfl⟩ := Prod.mk.inj (List.mem_singleton.mp inside)
        exact .inr rfl
      · cases resolved

/-- Nothing but a page is ever asked for. -/
theorem eq_pageType_of_leadsToInput {type : InputType}
    (leads : searchSchema.LeadsToInput type) : type = pageType := by
  obtain ⟨slot, met, resolved⟩ := leads
  obtain rfl | rfl := slot_of_leads met
  · cases resolved
    rfl
  · cases resolved

/-- The record of a page is declared, and lists its size. -/
theorem registered_definitions_are_declared_search :
    ∃ written leaf, ofSchema searchSchema = .ok written ∧
      Entries.get? written.inputs.entries "page" = some (.record none [("size", leaf)]) ∧
      leaf.value = "Scalars['number']" ∧ leaf.optional = true ∧
      searchSchema.input? "filter" = some textFilterType ∧
      Entries.get? written.inputs.entries "filter" = none := by
  have reached : searchSchema.Reached := Schema.Reached.base.attemptAll searchRegistrations
  have declared : ofSchema searchSchema = .ok (document searchSchema [("page", pageType)]) :=
    ofSchema_eq_ok_iff.mpr ⟨_, reachableInputs_searchSchema, rfl⟩
  have apart : searchSchema.InputsApart := fun type other leads otherLeads _ => by
    rw [eq_pageType_of_leadsToInput leads, eq_pageType_of_leadsToInput otherLeads]
  have page : searchSchema.LeadsToInput pageType :=
    ⟨_, .operation List.mem_cons_self rfl, rfl⟩
  obtain ⟨_, _, _, _, inputs⟩ := registered_definitions_are_declared reached declared
  obtain ⟨_, held, _, rfl, each⟩ := (inputs "page" _ rfl).1 apart page
  obtain ⟨⟨name, leaf⟩, _, size, rest, rfl⟩ := List.forall₂_cons_left_iff.mp each
  obtain rfl := List.forall₂_nil_left_iff.mp rest
  obtain rfl : name = "size" := size.name
  refine ⟨_, leaf, declared, held, size.value, size.optional, rfl,
    (inputs "filter" _ rfl).2 fun other leads => ?_⟩
  rw [eq_pageType_of_leadsToInput leads]
  decide

/-- An input type that is registered and that no argument mentions. -/
def filterRegistrations : List Registration := [.input textFilterType false]

/-- There is a document, and it has no input types at all. -/
theorem filter_is_left_out :
    ∃ schema written, Schema.base.registerAll filterRegistrations = .ok schema ∧
      schema.input? "filter" = some textFilterType ∧ ofSchema schema = .ok written ∧
      written.inputs.entries = [] :=
  ⟨_, _, rfl, rfl, rfl, rfl⟩

end TypedQuery.Declarations
