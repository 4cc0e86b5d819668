import TypedQuery.Proofs.Plan.Parts
import TypedQuery.Proofs.Schema.Scalars

/-!
# Data that stay as they are

Response data may be conformed to their plan once more. Where scalars leave alone what they have
serialized, and something is selected in every object, the plan is `Stable` and nothing happens to
the data: an object keeps its members and their order, an array its elements, and a null stands
where a null may stand.
-/

namespace TypedQuery

/-- The scalar leaves alone what it has serialized, which is never null. -/
def Scalar.Settled (scalar : Scalar) : Prop :=
  ∀ serialize, scalar.serialize = some serialize → ∀ value data, (serialize value).Returns data →
    data ≠ .null ∧ (serialize data).Returns data

namespace Scalar

theorem boolean_settled : Scalar.boolean.Settled := by
  rintro _ ⟨⟩ value _ ⟨⟩
  exact ⟨nofun, rfl⟩

theorem number_settled : Scalar.number.Settled := by
  rintro _ ⟨⟩
  exact settles_expecting rfl

theorem string_settled : Scalar.string.Settled := by
  rintro _ ⟨⟩
  exact settles_expecting rfl

end Scalar

namespace Plan

/-- All scalars in the plan are settled, and in every object something is selected, and nothing
twice. -/
inductive Stable : Plan → Prop
  | leaf {definition scalar args} : scalar.Settled → Stable (.leaf definition scalar args)
  | branch {definition type selection args children} : children ≠ [] →
      (Entries.keys children).Nodup → (∀ child ∈ children, Stable child.2) →
      Stable (.branch definition type selection args children)

theorem serializes_self {scalar : Scalar} (settled : scalar.Settled) {value data : Json}
    (null : value ≠ .null) (h : Serializes scalar value data) :
    data ≠ .null ∧ Serializes scalar data data := by
  unfold Serializes at h ⊢
  cases declared : scalar.serialize with
  | none =>
      rw [declared] at h
      obtain rfl : data = value := h
      exact ⟨null, rfl⟩
  | some serialize =>
      rw [declared] at h
      exact settled serialize declared value data h

theorem conformsLeaf_self {signature : Signature} {scalar : Scalar} (settled : scalar.Settled)
    {value data : Json} (h : ConformsLeaf signature scalar value data) :
    ConformsLeaf signature scalar data data := by
  cases h with
  | null nullable => exact .null nullable
  | value single null serialized =>
      obtain ⟨nullData, same⟩ := serializes_self settled null serialized
      exact .value single nullData same
  | @array rule elements results array allowed serialized =>
      have settles (value data : Json) (null : value ≠ .null) (h : Serializes scalar value data) :=
        serializes_self settled null h
      have allowedSame := Json.NullOr.allows serialized
        (fun value data null h => (settles value data null h).1) allowed
      exact .array array allowedSame (Json.NullOr.elements_self serialized settles)

theorem ConformsFields.keys {children : List (String × Plan)}
    {members results : List (String × Json)} (h : ConformsFields children members results) :
    Entries.keys results = Entries.keys children := by
  induction children generalizing results with
  | nil =>
      cases h
      rfl
  | cons child children ih =>
      cases h with
      | cons _ rest => rw [Entries.keys_cons, Entries.keys_cons, ih rest]

/-- The data of the selected fields are told by their names and their order. -/
theorem conformsFields_of_get? {children : List (String × Plan)}
    {members results : List (String × Json)} (unique : (Entries.keys children).Nodup)
    (keys : Entries.keys results = Entries.keys children)
    (h : ∀ child ∈ children, ∃ data, Entries.get? results child.1 = some data ∧
      Conforms child.2 ((Entries.get? members child.1).getD .null) data) :
    ConformsFields children members results := by
  induction children generalizing results with
  | nil =>
      obtain rfl : results = [] := List.map_eq_nil_iff.mp keys
      exact .nil
  | cons child children ih =>
      obtain ⟨key, plan⟩ := child
      obtain ⟨fresh, uniqueRest⟩ := List.nodup_cons.mp unique
      obtain ⟨⟨data, found, conforms⟩, rest⟩ := List.forall_mem_cons.1 h
      cases results with
      | nil => cases keys
      | cons entry results =>
          obtain ⟨name, first⟩ := entry
          obtain ⟨same, keysRest⟩ : name = key ∧ Entries.keys results = Entries.keys children :=
            List.cons.inj keys
          subst same
          obtain rfl : first = data := Option.some.inj ((if_pos rfl).symm.trans found)
          refine .cons conforms (ih uniqueRest keysRest fun other inside => ?_)
          have named : other.1 ∈ Entries.keys children := List.mem_map_of_mem inside
          have apart : name ≠ other.1 := fun same => fresh (same ▸ named)
          obtain ⟨data, found, conforms⟩ := rest other inside
          rw [Entries.get?_cons, if_neg apart] at found
          exact ⟨data, found, conforms⟩

section Branch

variable {children : List (String × Plan)} (selected : children ≠ [])
  (unique : (Entries.keys children).Nodup)
  (within : ∀ child ∈ children, ∀ value data, Conforms child.2 value data →
    Conforms child.2 data data)
include selected unique within

theorem conformsObject_self {value data : Json} (h : ConformsObject children value data) :
    data ≠ .null ∧ ConformsObject children data data := by
  cases h with
  | empty => exact absurd rfl selected
  | collapsed => exact absurd rfl selected
  | @fields _ members results _ conforms =>
      refine ⟨by simp, .fields selected ?_⟩
      refine conformsFields_of_get? unique conforms.keys fun child inside => ?_
      obtain ⟨data, found, conforms⟩ := conforms.get? unique inside
      refine ⟨data, found, ?_⟩
      rw [found]
      exact within child inside _ data conforms

theorem conformsElements_self {rule : ArrayRule} {elements results : List Json}
    (h : ConformsElements children rule elements results) :
    ConformsElements children rule results results := by
  induction elements generalizing results with
  | nil =>
      cases h
      exact .nil
  | cons element elements ih =>
      cases h with
      | null allowed rest => exact .null allowed (ih rest)
      | object _ conforms rest =>
          obtain ⟨null, same⟩ := conformsObject_self selected unique within conforms
          exact .object null same (ih rest)

end Branch

/-- Response data answer the plan themselves, and the response to them is the same: `Conforms`
relates them to themselves. -/
theorem conforms_self {plan : Plan} (stable : plan.Stable) {value data : Json}
    (h : Conforms plan value data) : Conforms plan data data := by
  induction plan generalizing value data with
  | leaf definition scalar args =>
      obtain ⟨settled⟩ := stable
      obtain ⟨conforms⟩ := h
      exact .leaf (conformsLeaf_self settled conforms)
  | branch definition type selection args children ih =>
      obtain _ | ⟨selected, unique, stableWithin⟩ := stable
      have within (child : String × Plan) (inside : child ∈ children) (value data : Json)
          (conforms : Conforms child.2 value data) : Conforms child.2 data data :=
        ih child inside (stableWithin child inside) conforms
      cases h with
      | null nullable => exact .null nullable
      | object single _ conforms =>
          obtain ⟨null, same⟩ := conformsObject_self selected unique within conforms
          exact .object single null same
      | array array conforms =>
          exact .array array (conformsElements_self selected unique within conforms)

end Plan

/-- Every object that the sites write selects something, and all their scalars are settled. -/
structure Schema.Settles (schema : Schema) (sites : List Site) : Prop where
  selects : ∀ site ∈ sites, ∀ type,
    schema.resolveOutput site.definition.signature.type = .ok (.object type) →
      site.query.members? ≠ none → site.selection ≠ []
  settled : ∀ site ∈ sites, ∀ scalar, site.definition.signature.type = .scalar scalar →
    scalar.Settled

theorem Schema.Settles.mono {schema : Schema} {sites more : List Site} (h : schema.Settles more)
    (inside : ∀ site ∈ sites, site ∈ more) : schema.Settles sites :=
  ⟨fun site here => h.selects site (inside site here),
    fun site here => h.settled site (inside site here)⟩

theorem Schema.Settles.leaf {schema : Schema} {query : Json} {definition : Definition}
    {path : FieldPath} (h : schema.Settles (schema.sites query definition path)) {scalar : Scalar}
    (resolved : schema.resolveOutput definition.signature.type = .ok (.scalar scalar))
    (args : Option Json) : (Plan.leaf definition scalar args).Stable :=
  .leaf (h.settled _ (schema.self_mem_sites ..) scalar
    (Schema.resolveOutput_eq_scalar_iff.mp resolved))

namespace Scope

variable {scope : Scope}

/-- Over sites that the schema `Settles` all plans are stable. -/
theorem stable_of_returns (full : scope.options = {}) {query : Json} (unique : query.KeysUnique)
    {definition : Definition} {path : FieldPath}
    (settles : scope.schema.Settles (scope.schema.sites query definition path))
    {plan : Plan} (h : (scope.select query definition path).Returns plan) : plan.Stable := by
  induction query using Json.object_induction generalizing definition path plan with
  | other query noMembers =>
      let site : Site := ⟨definition, query, path⟩
      obtain ⟨_, _, scalar, args, resolved, _, _, rfl⟩ :=
        (returns_select_marked full site noMembers).mp h
      exact settles.leaf resolved args
  | object members ih =>
      let site : Site := ⟨definition, .object members, path⟩
      cases resolved : scope.schema.resolveOutput definition.signature.type with
      | error error => exact absurd h (not_returns_select_of_unresolved resolved)
      | ok type =>
          cases type with
          | scalar scalar =>
              obtain ⟨_, _, args, _, rfl⟩ := (returns_select_leaf full site rfl resolved).mp h
              exact settles.leaf resolved args
          | object type =>
              obtain ⟨_, args, _, children, within, rfl⟩ :=
                (returns_select_branch full site rfl resolved).mp h
              obtain _ | ⟨unique, uniqueWithin⟩ := unique
              · contradiction
              have keys : Entries.keys children = Entries.keys site.selection :=
                keys_of_selected within
              refine .branch ?selected ?unique fun child inside => ?within
              case selected =>
                rintro rfl
                have nothing : site.selection = [] := List.map_eq_nil_iff.mp keys.symm
                exact settles.selects site (scope.schema.self_mem_sites ..) type resolved nofun
                  nothing
              case unique =>
                rw [keys]
                exact (List.filter_sublist.map Prod.fst).nodup unique
              case within =>
                -- What is known of a child comes from the member for which it was planned.
                obtain ⟨⟨key, query⟩, selected, field, visible, _, returned⟩ :=
                  exists_of_mem_right within inside
                have held : (key, query) ∈ members := List.mem_of_mem_filter selected
                have settlesWithin : scope.schema.Settles
                    (scope.schema.sites query (.field field) (path ++ [key])) := by
                  refine settles.mono fun below here => ?_
                  rw [Schema.sites_of_object resolved]
                  exact List.mem_cons_of_mem _ (Schema.mem_sitesWithin held visible here)
                exact ih _ held (uniqueWithin _ held) settlesWithin returned

end Scope

end TypedQuery
