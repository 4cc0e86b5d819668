import TypedQuery.Proofs.Arguments.NormalForm
import TypedQuery.Proofs.Plan.Grammar

/-!
# Fields without guards and arguments

Where no guard is asked and no arguments are taken, the field is `Definition.Bare`, and planning it
reads nothing but the schema, the marker and what the client wrote. So if all fields below two
fields are of this kind, which is `BareWithin`, what can be selected in one of them can be selected
in the other one, in another request and at another path, and has the same plan there.
-/

namespace TypedQuery

/-- Nothing is asked before the field is planned, and it takes no arguments. -/
structure Definition.Bare (definition : Definition) : Prop where
  guard : definition.signature.guard = none
  args : definition.signature.args = none

/-- The client gives no arguments, or null in their place. -/
def Json.WithoutArgs (query : Json) : Prop :=
  query.get? argsKey = none ∨ query.get? argsKey = some .null

/-- What the client selects, which is everything but the arguments. -/
def Json.selected (query : Json) : List (String × Json) :=
  (query.members?.getD []).filter (·.1 ≠ argsKey)

namespace Scope

variable {scope other : Scope}

/-- Nothing is selected in the value, and if it is no object then it is the marker. -/
structure SelectsBareLeaf (scope : Scope) (query : Json) : Prop where
  noArgs : query.WithoutArgs
  nothing : query.selected = []
  marker : query.members? = none → query.same scope.marker = true

section Full

variable {definition : Definition} {query : Json} {path : FieldPath}

theorem guardAccepts_of_unguarded (unguarded : definition.signature.guard = none) :
    scope.GuardAccepts ⟨definition, query, path⟩ := by
  intro guard declared
  cases declared.symm.trans unguarded

/-- No arguments are taken where none are declared. -/
theorem returns_argsCheck_of_noArgs (noArgs : definition.signature.args = none)
    {args : Option Json} :
    (scope.argsCheck ⟨definition, query, path⟩).Returns args ↔
      query.WithoutArgs ∧ args = none := by
  rw [argsCheck, noArgs, Arguments.returns_check_noSlot]
  constructor
  · rintro ⟨given⟩
    exact ⟨given, rfl⟩
  · rintro ⟨given, rfl⟩
    exact .noSlot given

variable (full : scope.options = {})
include full

theorem returns_select_unguarded_branch (unguarded : definition.signature.guard = none)
    {type : ObjectType}
    (resolved : scope.schema.resolveOutput definition.signature.type = .ok (.object type))
    {plan : Plan} :
    (scope.select query definition path).Returns plan ↔
      query.members?.isSome ∧ ∃ args, (scope.argsCheck ⟨definition, query, path⟩).Returns args ∧
      ∃ children, List.Forall₂ (scope.Selected type path) query.selected children ∧
        plan = .branch definition type query.selected args children := by
  let site : Site := ⟨definition, query, path⟩
  have accepts : scope.GuardAccepts site := guardAccepts_of_unguarded unguarded
  cases query with
  | object members =>
      rw [returns_select_branch full site rfl resolved]
      exact ⟨fun ⟨_, planned⟩ => ⟨rfl, planned⟩, fun ⟨_, planned⟩ => ⟨accepts, planned⟩⟩
  | null | bool | number | string | array =>
      rw [returns_select_marked full site rfl]
      constructor
      · rintro ⟨_, _, scalar, _, same, _⟩
        cases resolved.symm.trans same
      · rintro ⟨object, _⟩
        cases object

variable (bare : definition.Bare)
include bare

theorem returns_select_bare_leaf {scalar : Scalar}
    (resolved : scope.schema.resolveOutput definition.signature.type = .ok (.scalar scalar))
    {plan : Plan} :
    (scope.select query definition path).Returns plan ↔
      scope.SelectsBareLeaf query ∧ plan = .leaf definition scalar none := by
  let site : Site := ⟨definition, query, path⟩
  have argsTaken {args : Option Json} : (scope.argsCheck site).Returns args ↔ _ :=
    returns_argsCheck_of_noArgs bare.args
  have accepts : scope.GuardAccepts site := guardAccepts_of_unguarded bare.guard
  cases query with
  | object members =>
      have fits : (∀ key ∈ Entries.keys members, key = argsKey) ↔
          (Json.object members).selected = [] := by
        simp [Json.selected, Json.members?, Entries.keys, List.filter_eq_nil_iff]
      rw [returns_select_leaf full site rfl resolved, fits]
      constructor
      · rintro ⟨_, nothing, args, taken, rfl⟩
        obtain ⟨noArgs, rfl⟩ := argsTaken.mp taken
        refine ⟨⟨noArgs, nothing, ?_⟩, rfl⟩
        rintro ⟨⟩
      · rintro ⟨⟨noArgs, nothing, _⟩, rfl⟩
        exact ⟨accepts, nothing, none, argsTaken.mpr ⟨noArgs, rfl⟩, rfl⟩
  | null | bool | number | string | array =>
      rw [returns_select_marked full site rfl]
      constructor
      · rintro ⟨_, marker, scalar, args, same, _, taken, rfl⟩
        obtain ⟨noArgs, rfl⟩ := argsTaken.mp taken
        cases resolved.symm.trans same
        exact ⟨⟨noArgs, rfl, fun _ => marker⟩, rfl⟩
      · rintro ⟨⟨noArgs, _, marker⟩, rfl⟩
        refine ⟨accepts, marker rfl, scalar, none, resolved, ?_, argsTaken.mpr ⟨noArgs, rfl⟩, rfl⟩
        intro slot declared
        cases declared.symm.trans bare.args

theorem returns_select_bare_branch {type : ObjectType}
    (resolved : scope.schema.resolveOutput definition.signature.type = .ok (.object type))
    {plan : Plan} :
    (scope.select query definition path).Returns plan ↔
      query.members?.isSome ∧ query.WithoutArgs ∧
      ∃ children, List.Forall₂ (scope.Selected type path) query.selected children ∧
        plan = .branch definition type query.selected none children := by
  rw [returns_select_unguarded_branch full bare.guard resolved]
  simp only [returns_argsCheck_of_noArgs bare.args]
  constructor
  · rintro ⟨object, _, ⟨noArgs, rfl⟩, planned⟩
    exact ⟨object, noArgs, planned⟩
  · rintro ⟨object, noArgs, planned⟩
    exact ⟨object, none, ⟨noArgs, rfl⟩, planned⟩

end Full

/-- Fields of these types, and below them, are bare, in the sense of `Definition.Bare`. -/
structure BareWithin (schema : Schema) (types : ObjectType → Prop) : Prop where
  bare : ∀ type key field, types type → type.selectable? key = some field →
    (Definition.field field).Bare
  closed : ∀ type key field inner, types type → type.selectable? key = some field →
    schema.resolveOutput field.signature.type = .ok (.object inner) → types inner

/-- Two requests to the same schema, with the same marker, that are planned in full, as
`Scope.options` says of both. -/
structure Alike (scope other : Scope) : Prop where
  schema : other.schema = scope.schema
  marker : other.marker = scope.marker
  full : scope.options = {}
  otherFull : other.options = {}

variable {types : ObjectType → Prop}

theorem exists_type_of_returns (full : scope.options = {}) {query : Json} {definition : Definition}
    {path : FieldPath} {plan : Plan} (planned : (scope.select query definition path).Returns plan) :
    ∃ type, scope.schema.resolveOutput definition.signature.type = .ok type := by
  obtain ⟨accepted, _⟩ := planned_of_returns full query definition path plan planned
  obtain ⟨type, resolved, _⟩ := (accepted _ (scope.schema.self_mem_sites ..)).shape
  exact ⟨type, resolved⟩

theorem selected_of_each {type : ObjectType} {path elsewhere : FieldPath}
    {selection : List (String × Json)} {children : List (String × Plan)}
    (each : ∀ member ∈ selection, ∀ field, type.selectable? member.1 = some field → ∀ plan,
      (scope.select member.2 (.field field) (path ++ [member.1])).Returns plan →
        (other.select member.2 (.field field) (elsewhere ++ [member.1])).Returns plan)
    (selected : List.Forall₂ (scope.Selected type path) selection children) :
    List.Forall₂ (other.Selected type elsewhere) selection children := by
  induction selected with
  | nil => exact .nil
  | cons first _ ih =>
      obtain ⟨eachFirst, eachRest⟩ := List.forall_mem_cons.1 each
      obtain ⟨field, selectable, named, planned⟩ := first
      exact .cons ⟨field, selectable, named, eachFirst field selectable _ planned⟩ (ih eachRest)

namespace Alike

variable (alike : scope.Alike other)
include alike

theorem returns_select_of_scalar {query : Json} {definition : Definition} (bare : definition.Bare)
    {scalar : Scalar}
    (resolved : scope.schema.resolveOutput definition.signature.type = .ok (.scalar scalar))
    {path : FieldPath} {plan : Plan}
    (planned : (scope.select query definition path).Returns plan) (elsewhere : FieldPath) :
    (other.select query definition elsewhere).Returns plan := by
  obtain ⟨selects, rfl⟩ := (returns_select_bare_leaf alike.full bare resolved).mp planned
  have there : other.SelectsBareLeaf query :=
    ⟨selects.noArgs, selects.nothing, alike.marker ▸ selects.marker⟩
  exact (returns_select_bare_leaf alike.otherFull bare (alike.schema ▸ resolved)).mpr ⟨there, rfl⟩

/-- What one request plans for a bare field with bare fields below, another one plans as well. -/
theorem returns_select (within : BareWithin scope.schema types) {query : Json}
    {definition : Definition} (bare : definition.Bare)
    (leads : ∀ type, scope.schema.resolveOutput definition.signature.type = .ok (.object type) →
      types type) {path : FieldPath} {plan : Plan}
    (planned : (scope.select query definition path).Returns plan) (elsewhere : FieldPath) :
    (other.select query definition elsewhere).Returns plan := by
  induction query using Json.object_induction generalizing definition path plan elsewhere with
  | other query noMembers =>
      obtain ⟨⟨scalar⟩ | ⟨type⟩, resolved⟩ := exists_type_of_returns alike.full planned
      · exact alike.returns_select_of_scalar bare resolved planned elsewhere
      · obtain ⟨object, _⟩ := (returns_select_bare_branch alike.full bare resolved).mp planned
        rw [noMembers] at object
        cases object
  | object members ih =>
      obtain ⟨⟨scalar⟩ | ⟨type⟩, resolved⟩ := exists_type_of_returns alike.full planned
      · exact alike.returns_select_of_scalar bare resolved planned elsewhere
      · obtain ⟨object, noArgs, children, selected, rfl⟩ :=
          (returns_select_bare_branch alike.full bare resolved).mp planned
        have there := alike.schema ▸ resolved
        refine (returns_select_bare_branch alike.otherFull bare there).mpr
          ⟨object, noArgs, children, selected_of_each ?_ selected, rfl⟩
        intro member held field selectable plan planned
        have inside : types type := leads type resolved
        exact ih member (List.mem_of_mem_filter held) (within.bare _ _ _ inside selectable)
          (fun inner => within.closed _ _ _ inner inside selectable) planned _

/-- What one request selects in an object of such a type, another one selects there as well. -/
theorem selected (within : BareWithin scope.schema types) {type : ObjectType} (inside : types type)
    {path : FieldPath} {selection : List (String × Json)} {children : List (String × Plan)}
    (selected : List.Forall₂ (scope.Selected type path) selection children)
    (elsewhere : FieldPath) :
    List.Forall₂ (other.Selected type elsewhere) selection children := by
  refine selected_of_each ?_ selected
  intro member _ field selectable plan planned
  exact alike.returns_select within (within.bare _ _ _ inside selectable)
    (fun inner => within.closed _ _ _ inner inside selectable) planned _

end Alike

end Scope

end TypedQuery
