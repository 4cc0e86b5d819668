import TypedQuery.Proofs.Plan.Filling

/-!
# Planning and the look-ups of a schema

A plan depends on the schema through its look-ups only: two schemas in which every reference leads
to the same type plan every document alike, with the same calls and the same errors. So the
operations of a schema have no say in how a plan is made once one of them is chosen; and the
resolver of that one is carried along in the plan, but not looked at, so that it may be exchanged by
`Plan.answeredBy`.
-/

namespace TypedQuery

namespace Arguments

variable {schema other : Schema} (same : other.resolveInput = schema.resolveInput)
include same

theorem check_offer_congr (offer : Offer) (slot : Slot) (path : FieldPath) :
    offer.check other slot path = offer.check schema slot path := by
  unfold Offer.check
  rw [same]

theorem checkFields_congr (members : List (String × Offer)) (path : FieldPath)
    (fields : List (String × Slot)) :
    checkFields other members path fields = checkFields schema members path fields := by
  induction fields with
  | nil => rfl
  | cons field fields ih =>
      obtain ⟨key, slot⟩ := field
      simp only [checkFields, check_offer_congr same, ih]

theorem readObject_congr (members : List (String × Offer)) :
    readObject other members = readObject schema members := by
  funext type nullable path
  unfold readObject
  rw [checkFields_congr same]

/-- A value is laid out alike, so both schemas have the same `Offer`. -/
theorem offer_congr (value : Json) : offer other value = offer schema value := by
  induction value with
  | null | bool | number | string => rfl
  | array elements ih =>
      have laidOut : offerElements other elements = offerElements schema elements := by
        rw [offerElements_eq_map, offerElements_eq_map]
        exact List.map_congr_left fun element inside => by rw [ih element inside]
      rw [offer, offer, laidOut]
  | object members ih =>
      have laidOut : offerMembers other members = offerMembers schema members := by
        rw [offerMembers_eq_map, offerMembers_eq_map]
        exact List.map_congr_left fun member inside => by rw [ih member inside]
      rw [offer, offer, laidOut, readObject_congr same]

theorem check_congr (args : Option Json) (slot : Option Slot) (path : FieldPath) :
    check other args slot path = check schema args slot path := by
  cases slot with
  | none => cases args <;> rfl
  | some slot =>
      cases args with
      | none => rfl
      | some value =>
          have checked : checkValue other value slot path = checkValue schema value slot path := by
            rw [checkValue, offer_congr same, check_offer_congr same, checkValue]
          exact congrArg (some <$> ·) checked

end Arguments

namespace Scope

variable {scope : Scope}

section Schemas

variable {other : Schema} (outputs : other.resolveOutput = scope.schema.resolveOutput)
variable (inputs : other.resolveInput = scope.schema.resolveInput)

/-- The same request, planned with another schema. -/
def withSchema (scope : Scope) (schema : Schema) : Scope := { scope with schema }

include inputs in
theorem takeArgs_withSchema (signature : Signature) (args : Option Json) (path : FieldPath) :
    (scope.withSchema other).takeArgs signature args path
      = scope.takeArgs signature args path := by
  unfold takeArgs
  rw [withSchema, Arguments.check_congr inputs]

include inputs in
theorem selectMarked_withSchema (definition : Definition) (type : ResolvedOutput)
    (path : FieldPath) :
    (scope.withSchema other).selectMarked definition type path
      = scope.selectMarked definition type path := by
  unfold selectMarked
  simp only [takeArgs_withSchema inputs]

include inputs in
theorem selectLeaf_withSchema (definition : Definition) (scalar : Scalar)
    (members : List (String × Json)) (path : FieldPath) :
    (scope.withSchema other).selectLeaf definition scalar members path
      = scope.selectLeaf definition scalar members path := by
  unfold selectLeaf
  simp only [takeArgs_withSchema inputs]

theorem selectFields_withSchema {members : List (String × Json)}
    (h : ∀ member ∈ members, ∀ definition path,
      (scope.withSchema other).select member.2 definition path
        = scope.select member.2 definition path)
    (type : ObjectType) (plan : Bool) (path : FieldPath) :
    (scope.withSchema other).selectFields members type plan path
      = scope.selectFields members type plan path := by
  induction members with
  | nil => rfl
  | cons member members ih =>
      obtain ⟨key, query⟩ := member
      obtain ⟨first, rest⟩ := List.forall_mem_cons.1 h
      rw [selectFields, selectFields, ih rest]
      simp only [first]

include outputs inputs in
/-- A schema with the same look-ups makes the same plans. -/
theorem select_withSchema (query : Json) (definition : Definition) (path : FieldPath) :
    (scope.withSchema other).select query definition path
      = scope.select query definition path := by
  have looked : (scope.withSchema other).schema.resolveOutput = scope.schema.resolveOutput :=
    outputs
  induction query using Json.object_induction generalizing definition path with
  | other query noMembers =>
      rw [select_of_members?_eq_none noMembers, select_of_members?_eq_none noMembers, looked]
      simp only [selectMarked_withSchema inputs]
      rfl
  | object members ih =>
      rw [select, select]
      beta_reduce
      rw [looked]
      simp only [selectLeaf_withSchema inputs, takeArgs_withSchema inputs,
        selectFields_withSchema ih]
      rfl

end Schemas

end Scope

/-- The plan with another answer to its field. -/
def Plan.answeredBy (definition : Definition) : Plan → Plan
  | .leaf _ scalar args => .leaf definition scalar args
  | .branch _ type selection args children => .branch definition type selection args children

namespace Plan

@[simp] theorem args_answeredBy (definition : Definition) (plan : Plan) :
    (plan.answeredBy definition).args = plan.args := by
  cases plan <;> rfl

@[simp] theorem selection_answeredBy (definition : Definition) (plan : Plan) :
    (plan.answeredBy definition).selection = plan.selection := by
  cases plan <;> rfl

theorem passive_answeredBy {definition : Definition} {plan : Plan} (passive : plan.Passive) :
    (plan.answeredBy definition).Passive := by
  cases passive with
  | leaf => exact .leaf
  | branch unique plain within => exact .branch unique plain within

/-- Data depend on the signature of a field, not on what answers it. -/
theorem conform_answeredBy {definition : Definition} {plan : Plan}
    (signature : definition.signature = plan.definition.signature) (value : Json)
    (path : FieldPath) :
    (plan.answeredBy definition).conform value path = plan.conform value path := by
  cases plan with
  | leaf own scalar args =>
      have same : definition.signature = own.signature := signature
      rw [answeredBy, conform, conform, same]
  | branch own type selection args children =>
      have same : definition.signature = own.signature := signature
      rw [answeredBy, conform, conform, same]

end Plan

namespace Scope

variable {scope : Scope} {definition other : Definition}
variable (signature : other.signature = definition.signature)
variable (resolver : other.hasResolver = definition.hasResolver)
include signature

theorem selectMarked_answeredBy (type : ResolvedOutput) (path : FieldPath) :
    scope.selectMarked other type path
      = Plan.answeredBy other <$> scope.selectMarked definition type path := by
  unfold selectMarked
  rw [signature]
  cases type with
  | object type => rfl
  | scalar scalar =>
      dsimp only
      split
      · rfl
      · rw [map_bind]
        rfl

theorem selectLeaf_answeredBy (scalar : Scalar) (members : List (String × Json))
    (path : FieldPath) :
    scope.selectLeaf other scalar members path
      = Plan.answeredBy other <$> scope.selectLeaf definition scalar members path := by
  unfold selectLeaf
  rw [signature]
  dsimp only
  split
  · rfl
  · rw [map_bind]
    rfl

include resolver in
/-- A plan is made for a signature; what answers it is only noted down, so `Plan.answeredBy` may
change it. -/
theorem select_answeredBy (query : Json) (path : FieldPath) :
    scope.select query other path
      = Plan.answeredBy other <$> scope.select query definition path := by
  cases query with
  | null | bool | number | string | array =>
      rw [select_of_members?_eq_none rfl, select_of_members?_eq_none rfl, signature,
        ← Run.attachPath_map]
      simp only [map_bind, selectMarked_answeredBy signature,
        apply_ite (Plan.answeredBy other <$> ·)]
      rfl
  | object members =>
      rw [select]
      beta_reduce
      rw [signature, ← Run.attachPath_map]
      simp only [plansChildren, resolver, map_bind, selectLeaf_answeredBy signature]
      refine congrArg (Run.attachPath path) (bind_congr fun _ => bind_congr fun type => ?_)
      cases type with
      | scalar scalar => rfl
      | object type =>
          dsimp only
          simp only [map_bind, map_pure, Plan.answeredBy]

end Scope

end TypedQuery
