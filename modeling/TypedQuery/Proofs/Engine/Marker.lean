import TypedQuery.Proofs.Arguments.Stability
import TypedQuery.Proofs.Engine.GuardsFirst
import TypedQuery.Proofs.Plan.Spelling

/-!
# Which values serve as a marker

The options may name any value as the marker. An object that a client writes for a field is taken
for a selection before it is held against the marker, so a marker with members is never recognised:
its members are taken for fields of the leaf, or for its arguments. Any other value is
`Json.Memberless`, an empty object included. It selects every scalar field that asks for nothing,
and bound operations of such a type can do without a selection of their own, as `TakesMarker` says.
-/

namespace TypedQuery

/-- The value has no members: it is an empty object, or none. -/
def Json.Memberless (value : Json) : Prop := ∀ members, value = .object members → members = []

/-- A scalar field that has no guard and requires no arguments. -/
structure Schema.BareLeaf (schema : Schema) (definition : Definition) (scalar : Scalar) : Prop where
  type : schema.resolveOutput definition.signature.type = .ok (.scalar scalar)
  guard : definition.signature.guard = none
  args : ∀ slot, definition.signature.args = some slot → slot.required = false

/-- As the marker, the value selects every `Schema.BareLeaf`, without arguments. -/
def Json.SelectsLeaves (marker : Json) : Prop :=
  ∀ scope : Scope, scope.marker = marker →
    ∀ definition scalar, scope.schema.BareLeaf definition scalar →
      ∀ path, (scope.select marker definition path).outcome = .ok (.leaf definition scalar none)

theorem Json.NamesOnce.of_record? {json : Json} (once : json.NamesOnce)
    {required optional : List String} {members : List (String × Json)}
    (shape : json.record? required optional = some members) :
    ∀ member ∈ members, member.2.NamesOnce := by
  intro member inside
  cases once with
  | object _ within =>
      obtain rfl := Option.some.inj shape
      exact within member inside
  | array within =>
      rw [record?] at shape
      split at shape
      · obtain rfl := Option.some.inj shape
        exact within _ (List.of_mem_zip inside).2
      · cases shape
  | null | bool | number | string => cases shape

/-- The marker is a part of what the options are read from, or the default. -/
theorem EngineOptions.namesOnce_marker {json : Json} {options : EngineOptions}
    (once : json.NamesOnce) (read : EngineOptions.ofJson? json = some options) :
    options.marker.NamesOnce := by
  obtain ⟨members, shape, read⟩ := Option.bind_eq_some_iff.mp read
  obtain ⟨_, _, read⟩ := Option.bind_eq_some_iff.mp read
  obtain ⟨_, _, read⟩ := Option.bind_eq_some_iff.mp read
  obtain rfl := Option.some.inj read
  show ((Entries.get? members "lookup_value").getD (.bool true)).NamesOnce
  cases held : Entries.get? members "lookup_value" with
  | none => exact .bool
  | some marker => exact once.of_record? shape _ (Entries.mem_of_get?_eq_some held)

theorem Site.args?_of_memberless {site : Site} (memberless : site.query.Memberless) :
    site.args? = none := by
  rw [args?]
  cases written : site.query with
  | object members =>
      obtain rfl := memberless members written
      rfl
  | null | bool | number | string | array => rfl

namespace Scope

variable {scope : Scope} {scalar : Scalar}

section Bare

variable {definition : Definition} (bare : scope.schema.BareLeaf definition scalar)
include bare

theorem askGuard_of_bareLeaf (query : Json) (path : FieldPath) :
    scope.askGuard definition.signature query path = pure () := by
  rw [askGuard, bare.guard]

theorem check_of_bareLeaf (path : FieldPath) :
    Arguments.check scope.schema none definition.signature.args path = pure none := by
  cases declared : definition.signature.args with
  | none => rfl
  | some slot => exact if_neg (Bool.eq_false_iff.mp (bare.args slot declared))

theorem takeArgs_of_bareLeaf (path : FieldPath) :
    scope.takeArgs definition.signature none path = pure none := by
  rw [takeArgs, check_of_bareLeaf bare, ite_self]

/-- What has no members selects a bare leaf if it is an object or the marker. -/
theorem select_of_memberless {query : Json} (memberless : query.Memberless)
    (marked : query.members? = none → query.same scope.marker = true) (path : FieldPath) :
    scope.select query definition path = pure (.leaf definition scalar none) := by
  cases query with
  | object members =>
      obtain rfl := memberless members rfl
      rw [select_of_scalar bare.type, askGuard_of_bareLeaf bare, pure_bind, selectLeaf_nil,
        takeArgs_of_bareLeaf bare, pure_bind, Run.attachPath_pure]
  | null | bool | number | string | array =>
      have notRequired : definition.signature.args.any (·.required) = false :=
        any_required_eq_false_iff.mpr bare.args
      rw [select_of_members?_eq_none rfl, askGuard_of_bareLeaf bare, bare.type, Run.ofExcept_ok,
        pure_bind, pure_bind, if_pos (marked rfl), selectMarked, takeArgs_of_bareLeaf bare,
        notRequired]
      rfl

/-- A member of an object that does not hold arguments is no part of a leaf. -/
theorem select_of_fieldsOfLeaf {members : List (String × Json)} {key : String}
    (named : key ∈ Entries.keys members) (noArgs : key ≠ argsKey) (path : FieldPath) :
    scope.select (.object members) definition path
      = .fail ((Error.query .fieldsOfLeaf).withPath path) := by
  have more : (Entries.keys members).any (· ≠ argsKey) = true :=
    List.any_eq_true.mpr ⟨key, named, decide_eq_true noArgs⟩
  rw [select_of_scalar bare.type, askGuard_of_bareLeaf bare, pure_bind, selectLeaf]
  exact congrArg (Run.attachPath path) (if_pos more)

/-- A leaf that is selected by an object selects nothing but arguments, which pass their check. -/
theorem takeArgs_of_returns_select {members : List (String × Json)} {path : FieldPath} {plan : Plan}
    (selected : (scope.select (.object members) definition path).Returns plan) :
    members.filter (·.1 ≠ argsKey) = [] ∧ ∃ args,
      (scope.takeArgs definition.signature (Entries.get? members argsKey) path).Returns args := by
  rw [select_of_scalar bare.type, askGuard_of_bareLeaf bare, pure_bind,
    Run.returns_attachPath] at selected
  obtain ⟨args, _, onlyArgs, taken⟩ := leaf_of_selectLeaf selected
  exact ⟨onlyArgs, args, taken⟩

end Bare

section Site

variable {site : Site} (bare : scope.schema.BareLeaf site.definition scalar)
  (memberless : site.query.Memberless)
include bare memberless

theorem argsCheck_of_memberless : scope.argsCheck site = pure none := by
  rw [argsCheck, site.args?_of_memberless memberless, check_of_bareLeaf bare]

/-- A bare leaf that is selected by the marker stands in the way of no plan: the scope `Accepts`
it. -/
theorem accepts_of_memberless
    (marked : site.query.members? = none → site.query.same scope.marker = true) :
    scope.Accepts site where
  guard := fun guard declared => by cases bare.guard.symm.trans declared
  marker := marked
  shape := by
    refine ⟨.scalar scalar, bare.type, fun members written => ?_⟩
    obtain rfl := memberless members written
    exact nofun
  notRequired := fun _ => bare.args
  args := by
    rw [argsCheck_of_memberless bare memberless]
    exact ⟨none, rfl⟩

/-- In a plan a bare leaf that is selected by the marker has its node, one of `Plan.nodes`, without
arguments. -/
theorem leaf_mem_nodes_of_memberless (full : scope.options = {}) {query : Json}
    {definition : Definition} {path : FieldPath} {plan : Plan}
    (planned : (scope.select query definition path).Returns plan)
    (here : site ∈ scope.schema.sites query definition path) :
    (site.path, .leaf site.definition scalar none) ∈ plan.nodes path := by
  have mirrored := (planned_of_returns full query definition path plan planned).2
  obtain ⟨⟨there, node⟩, inside, mirrors⟩ := exists_of_mem_left mirrored here
  obtain rfl : there = site.path := mirrors.path
  have type : node.type = .scalar scalar :=
    Except.ok.inj (mirrors.type.symm.trans bare.type)
  have args : node.args = none := by
    have checked := mirrors.args
    rw [argsCheck_of_memberless bare memberless] at checked
    exact (Run.returns_pure.mp checked).symm
  cases node with
  | branch => cases type
  | leaf =>
      obtain rfl : _ = scalar := ResolvedOutput.scalar.inj type
      obtain rfl := mirrors.definition
      obtain rfl := args
      exact inside

end Site

end Scope

/-- A scalar that has no values. -/
def Scalar.void : Scalar := { name := "void", parse := some fun _ => .fail (.foreign "void") }

/-- A field that may be given arguments, and accepts none. -/
def Field.voidArgs : Field where
  signature :=
    { type := .scalar Scalar.boolean, args := some { type := .scalar Scalar.void } }

theorem Schema.bareLeaf_voidArgs (schema : Schema) :
    schema.BareLeaf (.field .voidArgs) Scalar.boolean where
  type := rfl
  guard := rfl
  args := fun _ declared => Option.some.inj declared ▸ rfl

/-- There are no arguments of that field but no arguments. -/
theorem Arguments.not_normalizes_voidArgs {schema : Schema} {path : FieldPath} {value : Json}
    {result : Option Json} :
    ¬ Normalizes schema Field.voidArgs.signature.args path (some value) result := by
  intro normal
  cases normal with
  | null nullable => cases nullable
  | scalar _ _ resolved parsed =>
      cases resolved
      exact Run.not_returns_fail parsed
  | scalars array => cases array
  | object _ resolved => cases resolved
  | objects array => cases array

namespace Json

/-- Where a marker has members, they are taken for fields or for arguments. -/
theorem SelectsLeaves.memberless {marker : Json} (selects : marker.SelectsLeaves) :
    marker.Memberless := by
  rintro members rfl
  let scope : Scope := ⟨{}, .object members, ⟨"POST", "/", [], [], [], []⟩, "", {}⟩
  have bare : scope.schema.BareLeaf (.field .voidArgs) Scalar.boolean := Schema.bareLeaf_voidArgs _
  obtain ⟨onlyArgs, args, taken⟩ :=
    Scope.takeArgs_of_returns_select bare (selects scope rfl _ _ bare [])
  have normal := Arguments.returns_check_iff.mp taken
  cases held : Entries.get? members argsKey with
  | some value =>
      rw [held] at normal
      exact absurd normal Arguments.not_normalizes_voidArgs
  | none =>
      have noArgs : ∀ member ∈ members, member.1 ≠ argsKey := fun member inside named =>
        Entries.get?_eq_none_iff.mp held (named ▸ List.mem_map_of_mem inside)
      rw [← onlyArgs]
      exact (List.filter_eq_self.mpr fun member inside =>
        decide_eq_true (noArgs member inside)).symm

theorem selectsLeaves_iff {marker : Json} (once : marker.NamesOnce) :
    marker.SelectsLeaves ↔ marker.Memberless := by
  refine ⟨SelectsLeaves.memberless, fun memberless scope same definition scalar bare path => ?_⟩
  subst same
  rw [Scope.select_of_memberless bare memberless fun _ => same_self once]
  rfl

end Json

namespace Engine

/-- The marker selects leaves in documents, and stands for the selection of a bound operation. -/
structure TakesMarker (engine : Engine) : Prop where
  /-- Where it is written for a bare leaf, at any depth, it stands in the way of no plan, and every
  plan has its node there. -/
  field : ∀ root name query context, ∀ site ∈ engine.sites root name query,
    site.query = engine.options.marker →
    ∀ scalar, engine.schema.BareLeaf site.definition scalar →
      (engine.scope root context).Accepts site ∧
        ∀ plan, (engine.planning root name query context).outcome = .ok plan →
          (site.path, .leaf site.definition scalar none) ∈ plan.nodes [name]
  /-- An operation without a template is selected by it if the request brings no arguments. -/
  bound : ∀ root context scalar, engine.schema.BareLeaf (.operation root) scalar →
    root.binding.bind (·.template) = none → (root.boundArgs context).outcome = .ok none →
      ∃ query, (engine.boundQuery root context).outcome = .ok query ∧
        (engine.planning root root.name query context).outcome
          = .ok (.leaf (.operation root) scalar none)

variable {engine : Engine}

theorem returns_boundQuery_of_noArgs {root : Operation} {context : Context}
    (noTemplate : root.binding.bind (·.template) = none)
    (noArgs : (root.boundArgs context).Returns none) :
    (engine.boundQuery root context).Returns engine.options.marker := by
  refine Run.returns_bind.mpr ⟨none, noArgs, ?_⟩
  rw [noTemplate]
  cases root.signature.type <;> rfl

theorem takesMarker_of_memberless (once : engine.options.marker.NamesOnce)
    (memberless : engine.options.marker.Memberless) : engine.TakesMarker where
  field := by
    intro root name query context site here written scalar bare
    have memberless : site.query.Memberless := written ▸ memberless
    have marked : site.query.same (engine.scope root context).marker = true :=
      written ▸ Json.same_self once
    refine ⟨Scope.accepts_of_memberless bare memberless fun _ => marked, fun plan planned => ?_⟩
    exact Scope.leaf_mem_nodes_of_memberless bare memberless rfl planned here
  bound := by
    intro root context scalar bare noTemplate noArgs
    refine ⟨_, returns_boundQuery_of_noArgs noTemplate noArgs, ?_⟩
    exact ((Json.selectsLeaves_iff once).mpr memberless) (engine.scope root context) rfl _ _ bare _

/-- Whatever value the options name as the marker, it selects every scalar field that has no guard
and requires no arguments just if it has no members. Then it is good for documents and for bound
operations. The members of an object are taken for fields of the leaf, which has none. -/
theorem marker_selects_leaves (json : Json) (once : json.NamesOnce) (options : EngineOptions)
    (read : EngineOptions.ofJson? json = some options) :
    (options.marker.SelectsLeaves ↔ options.marker.Memberless) ∧
      (options.marker.Memberless → ∀ schema, (Engine.mk schema options).TakesMarker) ∧
      ∀ members, options.marker = .object members → ∀ key ∈ Entries.keys members, key ≠ argsKey →
        ∀ schema root context definition scalar path, schema.BareLeaf definition scalar →
          (((Engine.mk schema options).scope root context).select options.marker definition
              path).outcome
            = .error ((Error.query .fieldsOfLeaf).withPath path) := by
  have once : options.marker.NamesOnce := EngineOptions.namesOnce_marker once read
  refine ⟨Json.selectsLeaves_iff once, fun memberless schema => ?_, ?_⟩
  · exact takesMarker_of_memberless once memberless
  · intro members written key named noArgs schema root context definition scalar path bare
    have here : ((Engine.mk schema options).scope root context).schema.BareLeaf definition
        scalar := bare
    rw [written, Scope.select_of_fieldsOfLeaf here named noArgs]
    rfl

/-- A text serves as the marker, and an object with a member does not. -/
theorem marker_selects_leaves_text :
    let text : Json := .object [("lookup_value", .string "all")]
    let members : Json := .object [("lookup_value", .object [("select", .bool true)])]
    text.NamesOnce ∧ members.NamesOnce ∧
      EngineOptions.ofJson? text = some { marker := .string "all" } ∧
      EngineOptions.ofJson? members = some { marker := .object [("select", .bool true)] } ∧
      (Json.string "all").SelectsLeaves ∧
      ¬ (Json.object [("select", .bool true)]).SelectsLeaves := by
  intro text members
  have textOnce : text.NamesOnce := .object (by decide) (by simpa using .string)
  have membersOnce : members.NamesOnce := by
    have inner : (Json.object [("select", .bool true)]).NamesOnce :=
      .object (by decide) (by simpa using .bool)
    exact .object (by decide) (by simpa using inner)
  obtain ⟨texts, _⟩ := marker_selects_leaves text textOnce _ rfl
  obtain ⟨objects, _⟩ := marker_selects_leaves members membersOnce _ rfl
  refine ⟨textOnce, membersOnce, rfl, rfl, texts.mpr nofun, fun selects => ?_⟩
  cases objects.mp selects _ rfl

/-- Users have numbers. -/
def numberedType : ObjectType where
  name := "user"
  fields := [("id", { signature := { type := .scalar Scalar.number } })]

def getUser : Operation where
  name := "getUser"
  signature := { type := .object numberedType }
  resolver := fun _ => pure (.object [("id", .nat 5)])

def getVersion : Operation where
  name := "version"
  signature := { type := .scalar Scalar.string }
  resolver := fun _ => pure (.string "1.0")
  binding := some { method := .get, route := "/version" }

def versionSchema : Schema where
  objects := [("user", numberedType)]
  operations := [("getUser", getUser), ("version", getVersion)]

/-- An object with a member may be named as the marker. It selects no field in a document, and the
request to a bound operation fails that asks for nothing at all. -/
theorem marker_with_members_selects_nothing :
    let marker : Json := .object [("select", .bool true)]
    let context : Context := ⟨"GET", "/version", [], [], [], []⟩
    ∃ options, EngineOptions.ofJson? (.object [("lookup_value", marker)]) = some options ∧
      options.marker = marker ∧
      let engine : Engine := ⟨versionSchema, options⟩
      engine.schema.BareLeaf (.field { signature := { type := .scalar Scalar.number } })
          Scalar.number ∧
        (engine.runDocument (.object [("getUser", .object [("id", marker)])]) context).outcome
          = .error ((Error.query .fieldsOfLeaf).withPath ["getUser", "id"]) ∧
        engine.schema.BareLeaf (.operation getVersion) Scalar.string ∧
        (engine.runBound getVersion context).outcome
          = .error ((Error.query .fieldsOfLeaf).withPath ["version"]) := by
  intro marker context
  exact ⟨_, rfl, rfl, ⟨rfl, rfl, nofun⟩, rfl, ⟨rfl, rfl, nofun⟩, rfl⟩

end Engine

end TypedQuery
