import TypedQuery.Proofs.Engine.GuardsFirst
import TypedQuery.Proofs.Plan.Response
import TypedQuery.Proofs.Schema.Typing

/-!
# Responses are well typed

In a schema whose leaves are base scalars, all data that a request comes to are `Typed`, that is
they are what the declarations promise, whatever the resolvers bring forth. Conforming establishes
it alone: what a resolver returned, what was filled in, and in which mode, does not matter, since
data that conform to the plan of a document are typed along that document. So `responses_are_typed`
asks nothing of the callbacks.
-/

namespace TypedQuery

namespace Schema

variable {schema : Schema}

/-- What a base scalar serializes to is of its kind, as `Schema.TypedValue` says. -/
theorem typedValue_of_serializes {scalar : Scalar} (base : scalar ∈ Scalar.base)
    {value result : Json} (serialized : Plan.Serializes scalar value result) (query : Json) :
    schema.TypedValue (.scalar scalar) query result := by
  simp only [Scalar.base, List.mem_cons, List.not_mem_nil, or_false] at base
  obtain rfl | rfl | rfl := base
  · obtain rfl := Run.returns_pure.mp serialized
    exact .boolean
  · obtain ⟨ofKind, rfl⟩ := Scalar.returns_expecting.mp serialized
    cases value with
    | number => exact .number
    | null | bool | string | array | object => cases ofKind
  · obtain ⟨ofKind, rfl⟩ := Scalar.returns_expecting.mp serialized
    cases value with
    | string => exact .string
    | null | bool | number | array | object => cases ofKind

/-- The elements of an array of base scalars are of its kind, except for nulls that are allowed. -/
theorem typedElements_of_serializes {scalar : Scalar} (base : scalar ∈ Scalar.base)
    {rule : ArrayRule} {elements results : List Json} (allowed : rule.Allows elements)
    (serialized : List.Forall₂ (Json.NullOr (Plan.Serializes scalar)) elements results)
    (query : Json) : schema.TypedElements (.scalar scalar) rule query results := by
  induction serialized with
  | nil => exact .nil
  | cons first _ ih =>
      have allowedRest : rule.Allows _ :=
        allowed.imp_right fun absent inside => absent (List.mem_cons_of_mem _ inside)
      have rest := ih allowedRest
      cases first with
      | null =>
          obtain nullable | absent := allowed
          · exact .null nullable rest
          · exact absurd List.mem_cons_self absent
      | value _ serialized => exact .value (typedValue_of_serializes base serialized query) rest

theorem typed_of_conformsLeaf {signature : Signature} {scalar : Scalar}
    (base : scalar ∈ Scalar.base)
    (resolved : schema.resolveOutput signature.type = .ok (.scalar scalar)) {value result : Json}
    (conforms : Plan.ConformsLeaf signature scalar value result) (query : Json) :
    schema.Typed signature query result := by
  cases conforms with
  | null nullable => exact .null nullable
  | value single _ serialized =>
      exact .single single resolved (typedValue_of_serializes base serialized query)
  | array array allowed serialized =>
      exact .array array resolved (typedElements_of_serializes base allowed serialized query)

section Branch

variable {scope : Scope} {type : ObjectType} {path : FieldPath} {members : List (String × Json)}
variable {children : List (String × Plan)}
variable (within : List.Forall₂ (scope.Selected type path) (members.filter (·.1 ≠ argsKey))
  children)

/-- Data that conform to the plan of a member are typed along the member. -/
def MemberTyped (schema : Schema) (scope : Scope) (type : ObjectType) (member : String × Json) :
    Prop :=
  ∀ field, type.selectable? member.1 = some field → ∀ path plan,
    (scope.select member.2 (.field field) path).Returns plan → ∀ value result,
      Plan.Conforms plan value result → schema.Typed field.signature member.2 result

theorem typedMembers_of_conformsFields {selection : List (String × Json)}
    (within : List.Forall₂ (scope.Selected type path) selection children)
    (typed : ∀ member ∈ selection, MemberTyped schema scope type member)
    {held results : List (String × Json)} (conforms : Plan.ConformsFields children held results) :
    schema.TypedMembers type selection results := by
  induction within generalizing results with
  | nil =>
      cases conforms
      exact .nil
  | cons first _ ih =>
      obtain ⟨typedFirst, typedRest⟩ := List.forall_mem_cons.1 typed
      obtain ⟨field, selected, key, returned⟩ := first
      cases conforms with
      | cons conforms rest =>
          obtain rfl := key
          exact .cons selected (typedFirst field selected _ _ returned _ _ conforms)
            (ih typedRest rest)

include within in
theorem typedValue_of_conformsObject
    (typed : ∀ member ∈ members.filter (·.1 ≠ argsKey), MemberTyped schema scope type member)
    {value result : Json} (conforms : Plan.ConformsObject children value result) :
    schema.TypedValue (.object type) (.object members) result := by
  cases conforms with
  | empty =>
      refine .object ?_
      rw [List.forall₂_nil_right_iff.mp within]
      exact .nil
  | collapsed => exact .unselected (List.forall₂_nil_right_iff.mp within)
  | fields _ conforms => exact .object (typedMembers_of_conformsFields within typed conforms)

include within in
theorem typedElements_of_conformsElements
    (typed : ∀ member ∈ members.filter (·.1 ≠ argsKey), MemberTyped schema scope type member)
    {rule : ArrayRule} {elements results : List Json}
    (conforms : Plan.ConformsElements children rule elements results) :
    schema.TypedElements (.object type) rule (.object members) results := by
  induction elements generalizing results with
  | nil =>
      cases conforms
      exact .nil
  | cons element elements ih =>
      cases conforms with
      | null allowed rest => exact .null allowed (ih rest)
      | object _ conforms rest =>
          exact .value (typedValue_of_conformsObject within typed conforms) (ih rest)

end Branch

/-- Data that conform to the plan of a document are `Schema.Typed` along the document. -/
theorem typed_of_conforms {scope : Scope} (full : scope.options = {})
    (base : scope.schema.BaseScalarsOnly) {query : Json} {definition : Definition}
    (declared : scope.schema.Declares definition.signature) {path : FieldPath} {plan : Plan}
    (planned : (scope.select query definition path).Returns plan) {value result : Json}
    (conforms : Plan.Conforms plan value result) :
    scope.schema.Typed definition.signature query result := by
  induction query using Json.object_induction generalizing definition path plan value result with
  | other query noMembers =>
      let site : Site := ⟨definition, query, path⟩
      obtain ⟨_, _, scalar, args, resolved, _, _, rfl⟩ :=
        (Scope.returns_select_marked full site noMembers).mp planned
      cases conforms with
      | leaf conforms =>
          exact typed_of_conformsLeaf (base.resolved declared resolved) resolved conforms query
  | object members ih =>
      let site : Site := ⟨definition, .object members, path⟩
      cases resolved : scope.schema.resolveOutput definition.signature.type with
      | error error => exact absurd planned (Scope.not_returns_select_of_unresolved resolved)
      | ok type =>
          cases type with
          | scalar scalar =>
              obtain ⟨_, _, args, _, rfl⟩ :=
                (Scope.returns_select_leaf full site rfl resolved).mp planned
              cases conforms with
              | leaf conforms =>
                  exact typed_of_conformsLeaf (base.resolved declared resolved) resolved conforms _
          | object type =>
              obtain ⟨_, args, _, children, within, rfl⟩ :=
                (Scope.returns_select_branch full site rfl resolved).mp planned
              have typed (member : String × Json)
                  (inside : member ∈ members.filter (·.1 ≠ argsKey)) :
                  MemberTyped scope.schema scope type member := by
                intro field selected path plan planned value result conforms
                have declaredField : scope.schema.Declares (Definition.field field).signature :=
                  declared.selectable resolved selected
                exact ih member (List.mem_of_mem_filter inside) declaredField planned conforms
              cases conforms with
              | null nullable => exact .null nullable
              | object single _ conforms =>
                  exact .single single resolved
                    (typedValue_of_conformsObject within typed conforms)
              | array array conforms =>
                  exact .array array resolved
                    (typedElements_of_conformsElements within typed conforms)

end Schema

namespace Engine

variable {engine : Engine} {root : Operation} {name : String} {query : Json} {context : Context}

theorem typed_of_returns_serve (base : engine.schema.BaseScalarsOnly)
    (declared : engine.schema.Declares root.signature) {data : Json}
    (returned : (engine.serve root name query context).Returns data) :
    engine.schema.Typed root.signature query data := by
  obtain ⟨plan, planned, served⟩ := Run.returns_bind.mp returned
  obtain ⟨value, _, conformed⟩ := Run.returns_bind.mp served
  have conforms : Plan.Conforms plan value data := Plan.returns_conform.mp conformed
  let scope : Scope := engine.scope root context
  have declaredRoot : scope.schema.Declares (Definition.operation root).signature := declared
  exact Schema.typed_of_conforms rfl base declaredRoot planned conforms

/-- Whatever the resolvers return, and whatever the options are, the data of a response are what
the declarations promise for the document. -/
theorem responses_are_typed (engine : Engine) (base : engine.schema.BaseScalarsOnly)
    (name : String) (query : Json) (context : Context) (data : Json)
    (returned : (engine.run name query context).outcome = .ok data) :
    ∃ root, engine.schema.operation? name = some root ∧
      engine.schema.Typed root.signature query data := by
  rw [run] at returned
  cases found : engine.schema.operation? name with
  | none =>
      rw [found] at returned
      cases returned
  | some root =>
      rw [found] at returned
      have declared : engine.schema.Declares root.signature :=
        .operation (Entries.mem_of_get?_eq_some found)
      exact ⟨root, rfl, typed_of_returns_serve base declared returned⟩

/-- An operation whose resolver returns that value for a member of a team. -/
def memberOperation (value : Json) : Operation where
  name := "member"
  signature := { type := .lookup "member" }
  resolver := fun _ => pure value

/-- Members of teams, over the base scalars. -/
def memberEngine (value : Json) : Engine where
  schema :=
    { objects := [("member",
        { name := "member"
          fields := [
            ("name", { signature := { type := .scalar Scalar.string, nullable := true } }),
            ("active", { signature := { type := .scalar Scalar.boolean } }),
            ("marks", { signature := { type := .scalar Scalar.number, array := some ⟨true⟩ } }),
            ("team", { signature := { type := .lookup "member", array := some ⟨false⟩ } })] })]
      operations := [("member", memberOperation value)] }
  options := {}

theorem memberEngine_baseScalarsOnly (value : Json) :
    (memberEngine value).schema.BaseScalarsOnly := by
  have shape (signature : Signature) (declared : (memberEngine value).schema.Declares signature) :
      signature.type = .lookup "member" ∨
        ∃ scalar ∈ Scalar.base, signature.type = .scalar scalar := by
    induction declared with
    | operation inside =>
        cases List.mem_singleton.mp inside
        exact .inl rfl
    | registered inside held =>
        cases List.mem_singleton.mp inside
        simp only [List.mem_cons, List.not_mem_nil, or_false] at held
        obtain same | same | same | same := held
        · cases same
          exact .inr ⟨Scalar.string, by simp [Scalar.base], rfl⟩
        · cases same
          exact .inr ⟨Scalar.boolean, by simp [Scalar.base], rfl⟩
        · cases same
          exact .inr ⟨Scalar.number, by simp [Scalar.base], rfl⟩
        · cases same
          exact .inl rfl
    | inline _ object _ ih =>
        obtain lookup | ⟨scalar, _, leaf⟩ := ih
        · rw [lookup] at object
          cases object
        · rw [leaf] at object
          cases object
  intro signature declared scalar leaf
  obtain lookup | ⟨own, base, same⟩ := shape signature declared
  · rw [lookup] at leaf
    cases leaf
  · rw [same] at leaf
    cases leaf
    exact base

/-- The own data of a member, and of the members of the team whether they are active. -/
def teamQuery : Json :=
  .object [("name", .bool true), ("active", .bool true), ("marks", .bool true),
    ("team", .object [("active", .bool true)])]

/-- A name that is missing may be null, a mark may be, and what was not selected is gone. -/
theorem responses_are_typed_member :
    let member : Json := .object [("active", .bool true), ("marks", .array [.nat 1, .null]),
      ("team", .array [.object [("active", .bool false), ("secret", .string "x")]])]
    let context : Context := ⟨"POST", "/", [], [], [], []⟩
    let data : Json := .object [("name", .null), ("active", .bool true),
      ("marks", .array [.nat 1, .null]), ("team", .array [.object [("active", .bool false)]])]
    (memberEngine member).schema.BaseScalarsOnly ∧
      ((memberEngine member).run "member" teamQuery context).outcome = .ok data ∧
      ∃ root, (memberEngine member).schema.operation? "member" = some root ∧
        (memberEngine member).schema.Typed root.signature teamQuery data := by
  intro member context data
  have base : (memberEngine member).schema.BaseScalarsOnly := memberEngine_baseScalarsOnly member
  have returned : ((memberEngine member).run "member" teamQuery context).outcome = .ok data := rfl
  exact ⟨base, returned,
    responses_are_typed (memberEngine member) base "member" teamQuery context data returned⟩

/-- Where nothing is selected, null stands for a number that was returned in place of an object,
although the operation declares that it is never null. -/
theorem null_stands_where_nothing_is_selected :
    (memberEngine (.nat 5)).schema.BaseScalarsOnly ∧
      (memberEngine (.nat 5)).schema.operation? "member" = some (memberOperation (.nat 5)) ∧
      (memberOperation (.nat 5)).signature.nullable = false ∧
      ((memberEngine (.nat 5)).run "member" (.object []) ⟨"POST", "/", [], [], [], []⟩).outcome
        = .ok .null :=
  ⟨memberEngine_baseScalarsOnly (.nat 5), rfl, rfl, rfl⟩

end Engine

end TypedQuery
