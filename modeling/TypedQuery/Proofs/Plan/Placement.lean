import TypedQuery.Plan.Conform
import TypedQuery.Plan.Resolve
import TypedQuery.Proofs.Plan.Grammar
import TypedQuery.Proofs.Protocol

/-!
# Resolving and conforming by a protocol

Resolving a plan asks the resolvers of its nodes, each for the path where the node stands, and
conforming a value calls the functions of scalars and objects to the value of a node. So
`Resolution.resolve` and `Plan.conform` keep to every protocol that has this for all nodes of the
plan. The values themselves do not matter: a value of any shape is refused at a node of the plan,
and elements of an array have no path of their own. The nodes of a plan stand where the sites of the
document stand for which it was made, as `Plan.PlacedIn` says, so it is enough to know the sites.
-/

namespace TypedQuery

namespace Protocol

variable (protocol : Protocol)

/-- The resolver of the operation or field may be asked for the path. -/
def AsksResolver : Definition → (path : FieldPath) → Prop
  | .operation root, path => ∀ request : OperationRequest, request.path = path →
    protocol.reports (.call (.resolveOperation request) (root.resolver request).trace)
      ((root.resolver request).failure?.map (·.reported path))
  | .field inner, path => ∀ resolver, inner.resolver = some resolver →
    ∀ request : FieldRequest, request.path = path →
      protocol.reports (.call (.resolveField request) (resolver request).trace)
        ((resolver request).failure?.map (·.reported path))

/-- A value may be refused at the path. -/
def RefusesResult (path : FieldPath) : Prop :=
  ∀ fault, protocol.raises ((Error.result fault).withPath path)

/-- All errors name a path, and scalars may be serialized, which reports nothing. -/
structure Serial : Prop extends protocol.Attributed where
  serializes : ∀ scalar value inner, protocol.reports (.call (.serialize scalar value) inner) none

end Protocol

namespace Plan

/-- It holds of every node of the plan, one of `nodes`, with the path of the node. -/
def Throughout (plan : Plan) (path : FieldPath) (holds : Definition → FieldPath → Prop) : Prop :=
  ∀ node ∈ plan.nodes path, holds node.2.definition node.1

theorem mem_nodesWithin {children : List (String × Plan)} {child : String × Plan}
    (inside : child ∈ children) {path : FieldPath} {node : FieldPath × Plan}
    (h : node ∈ child.2.nodes (path ++ [child.1])) : node ∈ nodesWithin children path := by
  induction children with
  | nil => cases inside
  | cons first rest ih =>
      obtain ⟨key, plan⟩ := first
      rw [nodesWithin, List.mem_append]
      obtain rfl | inside := List.mem_cons.mp inside
      · exact .inl h
      · exact .inr (ih inside)

namespace Throughout

variable {path : FieldPath} {holds : Definition → FieldPath → Prop}

theorem here {plan : Plan} (h : plan.Throughout path holds) : holds plan.definition path := by
  cases plan <;> exact h _ List.mem_cons_self

theorem child {definition : Definition} {type : ObjectType} {selection : List (String × Json)}
    {args : Option Json} {children : List (String × Plan)}
    (h : (Plan.branch definition type selection args children).Throughout path holds)
    {child : String × Plan} (inside : child ∈ children) :
    child.2.Throughout (path ++ [child.1]) holds :=
  fun node within => h node (List.mem_cons_of_mem _ (mem_nodesWithin inside within))

end Throughout

/-- Every node of the plan has its site. -/
def PlacedIn (sites : List Site) (plan : Plan) (path : FieldPath) : Prop :=
  plan.Throughout path fun definition path =>
    ∃ site ∈ sites, site.path = path ∧ site.definition = definition

theorem placedIn_of_mirrors {scope : Scope} {sites : List Site} {plan : Plan} {path : FieldPath}
    (h : List.Forall₂ scope.Mirrors sites (plan.nodes path)) : plan.PlacedIn sites path := by
  intro node inside
  obtain ⟨site, held, mirrors⟩ := exists_of_mem_right h inside
  exact ⟨site, held, mirrors.path.symm, mirrors.definition.symm⟩

/-- What holds of the sites of a document holds throughout its plan. -/
theorem PlacedIn.throughout {sites : List Site} {plan : Plan} {path : FieldPath}
    (placed : plan.PlacedIn sites path) {holds : Definition → FieldPath → Prop}
    (h : ∀ site ∈ sites, holds site.definition site.path) : plan.Throughout path holds := by
  intro node inside
  obtain ⟨site, here, path, definition⟩ := placed node inside
  exact path ▸ definition ▸ h site here

end Plan

variable {protocol : Protocol}

namespace Resolution

variable {resolution : Resolution}

theorem follows_ask {definition : Definition} {path : FieldPath}
    (asks : protocol.AsksResolver definition path) (args : Option Json)
    (selection : List (String × Json)) (value : Json) (parent : List (String × Json)) :
    ((resolution.ask definition args selection value parent path).attachPath path).Follows
      protocol := by
  unfold ask
  cases definition with
  | operation root =>
      dsimp only
      rw [Run.attachPath_bind]
      exact (Run.follows_ask (asks _ rfl)).bind fun _ _ => Run.follows_pure _
  | field inner =>
      dsimp only
      cases declared : inner.resolver with
      | none => exact Run.follows_pure _
      | some resolver =>
          dsimp only
          split
          · exact Run.follows_pure _
          · rw [Run.attachPath_bind]
            refine (Run.follows_ask ?_).bind fun _ _ => Run.follows_pure _
            exact asks resolver declared _ rfl

theorem follows_resolveFields {children : List (String × Plan)} {path : FieldPath}
    (h : ∀ child ∈ children, ∀ value parent,
      (resolution.resolve child.2 value parent (path ++ [child.1])).Follows protocol)
    (members : List (String × Json)) :
    (resolution.resolveFields children members path).Follows protocol := by
  induction children generalizing members with
  | nil => exact Run.follows_pure members
  | cons child children ih =>
      obtain ⟨key, plan⟩ := child
      obtain ⟨first, rest⟩ := List.forall_mem_cons.1 h
      rw [resolveFields]
      exact (first _ members).bind fun _ _ => ih rest _

/-- Resolving a plan keeps to every protocol by which the resolvers of its nodes may be asked, in
the sense of `Protocol.AsksResolver`. -/
theorem follows_resolve (attributed : protocol.Attributed) {plan : Plan} {path : FieldPath}
    (asks : plan.Throughout path protocol.AsksResolver) (value : Json)
    (parent : List (String × Json)) :
    (resolution.resolve plan value parent path).Follows protocol := by
  induction plan generalizing value parent path with
  | leaf definition scalar args =>
      rw [resolve, Run.attachPath_bind]
      refine (follows_ask asks.here args [] value parent).bind fun stage _ => ?_
      cases stage <;> exact Run.follows_pure _
  | branch definition type selection args children ih =>
      rw [resolve, Run.attachPath_bind]
      refine (follows_ask asks.here args selection value parent).bind fun stage _ => ?_
      cases stage with
      | final value => exact Run.follows_pure _
      | «open» value =>
          cases value with
          | object members =>
              have fields (child : String × Plan) (inside : child ∈ children) (value : Json)
                  (parent : List (String × Json)) :
                  (resolution.resolve child.2 value parent (path ++ [child.1])).Follows
                    protocol :=
                ih child inside (asks.child inside) value parent
              dsimp only
              rw [Run.attachPath_bind]
              refine ((follows_resolveFields fields members).attachPath attributed _).bind ?_
              exact fun _ _ => Run.follows_pure _
          | null | bool | number | string | array => exact Run.follows_pure _

end Resolution

namespace Plan

variable (serial : protocol.Serial)
include serial

section Values

variable {path : FieldPath} (refuses : protocol.RefusesResult path)
include refuses

theorem follows_serialize (scalar : Scalar) (value : Json) :
    ((serialize scalar value).attachPath path).Follows protocol := by
  unfold serialize
  cases scalar.serialize with
  | none => exact Run.follows_pure value
  | some serialize =>
      rw [Run.attachPath_mapError]
      exact Run.follows_refuse (serial.serializes _ _ _) (refuses _)

theorem follows_serializeNullable (scalar : Scalar) (value : Json) :
    ((serializeNullable scalar value).attachPath path).Follows protocol := by
  unfold serializeNullable
  split
  · exact Run.follows_pure Json.null
  · exact follows_serialize serial refuses scalar value

theorem follows_conformLeaf (signature : Signature) (scalar : Scalar) (value : Json) :
    ((conformLeaf signature scalar value).attachPath path).Follows protocol := by
  have objects (fault : ResultFault) :
      ((Run.fail (.result fault) : Run Error Json).attachPath path).Follows protocol :=
    Run.follows_fail (refuses fault)
  unfold conformLeaf
  split
  · dsimp only
    split
    · exact objects _
    · rw [Run.attachPath_bind, Run.attachPath_traverse]
      refine (Run.follows_traverse fun element _ => ?_).bind fun _ _ => Run.follows_pure _
      exact follows_serializeNullable serial refuses scalar element
  · split
    · exact objects _
    · split
      · exact Run.follows_pure _
      · exact objects _
  · split
    · exact objects _
    · exact follows_serializeNullable serial refuses scalar _

variable {fields : MembersReader} (h : ∀ members, (fields members path).Follows protocol)
include h

theorem follows_conformObject (nothingSelected : Bool) (value : Json) :
    ((conformObject fields nothingSelected value path).attachPath path).Follows protocol := by
  unfold conformObject
  split
  · exact Run.follows_pure _
  · split
    next members =>
      rw [Run.attachPath_bind]
      refine ((h members).attachPath serial.toAttributed path).bind fun _ _ => ?_
      exact Run.follows_pure _
    next => exact Run.follows_fail (refuses _)

theorem follows_conformElement (nothingSelected : Bool) (rule : ArrayRule) (element : Json) :
    ((conformElement fields nothingSelected rule path element).attachPath path).Follows
      protocol := by
  unfold conformElement
  split
  · split
    · exact Run.follows_pure _
    · exact Run.follows_fail (refuses _)
  · exact follows_conformObject serial refuses h nothingSelected element

theorem follows_conformBranch (signature : Signature) (nothingSelected : Bool) (value : Json) :
    ((conformBranch signature fields nothingSelected value path).attachPath path).Follows
      protocol := by
  unfold conformBranch
  split
  · split
    · exact Run.follows_pure _
    · exact Run.follows_fail (refuses _)
  · split
    next => exact follows_conformObject serial refuses h nothingSelected value
    next rule _ =>
      split
      · rw [Run.attachPath_bind, Run.attachPath_traverse]
        refine (Run.follows_traverse fun element _ => ?_).bind fun _ _ => Run.follows_pure _
        exact follows_conformElement serial refuses h nothingSelected rule element
      · exact Run.follows_fail (refuses _)

end Values

omit serial in
theorem follows_conformFields {children : List (String × Plan)} {path : FieldPath}
    (h : ∀ child ∈ children, ∀ value,
      (child.2.conform value (path ++ [child.1])).Follows protocol)
    (members : List (String × Json)) : (conformFields children members path).Follows protocol := by
  induction children with
  | nil => exact Run.follows_pure []
  | cons child children ih =>
      obtain ⟨key, plan⟩ := child
      obtain ⟨first, rest⟩ := List.forall_mem_cons.1 h
      rw [conformFields]
      exact (first _).bind fun _ _ => (ih rest).bind fun _ _ => Run.follows_pure _

/-- Conforming a value keeps to every protocol that may refuse it at the nodes of the plan, in the
sense of `Protocol.RefusesResult`. -/
theorem follows_conform {plan : Plan} {path : FieldPath}
    (refuses : plan.Throughout path fun _ => protocol.RefusesResult) (value : Json) :
    (plan.conform value path).Follows protocol := by
  induction plan generalizing value path with
  | leaf definition scalar args =>
      exact follows_conformLeaf serial refuses.here definition.signature scalar value
  | branch definition type selection args children ih =>
      have fields (members : List (String × Json)) :
          (conformFields children members path).Follows protocol :=
        follows_conformFields
          (fun child inside value => ih child inside (refuses.child inside) value) members
      exact follows_conformBranch serial refuses.here fields definition.signature
        children.isEmpty value

end Plan

end TypedQuery
