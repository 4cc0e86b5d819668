import TypedQuery.Proofs.Engine.GuardsFirst
import TypedQuery.Proofs.Plan.Bare
import TypedQuery.Proofs.Plan.Response
import TypedQuery.Proofs.Plan.Walk

/-!
# Serving, stage by stage

`Engine.serve` plans a document, resolves the plan and conforms the value. A protocol that admits
the sites of the document, as `Scope.Admits` says, has all that these stages may call and object to
at each of them, so serving keeps to it: `Engine.follows_serve`. That is all that has to be known of
the stages for what is the same of every call or of every error. `Engine.returns_serve_branch` is
about what is returned. If the operation has no guard and is of an object type, and the engine fills
in the fields below it, the steps are told one by one: the check of the arguments, the plans of the
selected fields, the answer of the resolver, `Resolution.walk` over that answer, and
`Plan.Conforms`.
-/

namespace TypedQuery

/-- The protocol has all that any stage may call and object to at the site. What planning needs is
`Scope.Governs`. -/
structure Scope.Admits (scope : Scope) (protocol : Protocol) (site : Site) : Prop
    extends scope.Governs protocol site where
  asks : protocol.AsksResolver site.definition site.path
  refuses : protocol.RefusesResult site.path

namespace Engine

variable {engine : Engine} {name : String} {query : Json} {context : Context}

/-- Serving a document keeps to a protocol that admits its sites. -/
theorem follows_serve {root : Operation} {protocol : Protocol} (serial : protocol.Serial)
    (admits : ∀ site ∈ engine.sites root name query,
      (engine.scope root context).Admits protocol site) :
    (engine.serve root name query context).Follows protocol := by
  have planning : (engine.planning root name query context).Follows protocol :=
    Scope.follows_select_of_governs fun site here => (admits site here).toGoverns
  refine planning.bind fun plan planned => ?_
  have placed : plan.PlacedIn (engine.sites root name query) [name] :=
    Plan.placedIn_of_mirrors (Scope.planned_of_returns rfl _ _ _ plan planned).2
  have asks : plan.Throughout [name] protocol.AsksResolver :=
    placed.throughout fun site here => (admits site here).asks
  have refuses : plan.Throughout [name] fun _ => protocol.RefusesResult :=
    placed.throughout fun site here => (admits site here).refuses
  refine (Resolution.follows_resolve serial.toAttributed asks .null []).bind fun value _ => ?_
  exact Plan.follows_conform serial refuses value

/-- An operation of an object type is asked when the selection has been planned. What is selected is
filled into its answer by `Resolution.walk`, and the value is conformed. -/
theorem returns_serve_branch (root : Operation) (whole : engine.options.processEntireTree = true)
    (unguarded : root.signature.guard = none) {type : ObjectType}
    (resolved : engine.schema.resolveOutput root.signature.type = .ok (.object type))
    {data : Json} :
    let scope : Scope := engine.scope root context
    let resolution : Resolution := ⟨context, root.name, true⟩
    (engine.serve root name query context).Returns data ↔
      query.members?.isSome ∧
      ∃ args, (scope.argsCheck ⟨.operation root, query, [name]⟩).Returns args ∧
      ∃ children, List.Forall₂ (scope.Selected type [name]) query.selected children ∧
      ∃ answer, (root.resolver ⟨context, [name], args, query.selected, root.name⟩).Returns answer ∧
      ∃ value, (resolution.walk children answer [name]).Returns value ∧
        (Plan.branch (.operation root) type query.selected args children).Conforms value data := by
  intro scope resolution
  have bare : (Definition.operation root).signature.guard = none := unguarded
  have planning (plan : Plan) : (scope.select query (.operation root) [name]).Returns plan ↔
      query.members?.isSome ∧
      ∃ args, (scope.argsCheck ⟨.operation root, query, [name]⟩).Returns args ∧
      ∃ children, List.Forall₂ (scope.Selected type [name]) query.selected children ∧
        plan = .branch (.operation root) type query.selected args children :=
    Scope.returns_select_unguarded_branch rfl bare resolved
  have resolving (args : Option Json) (children : List (String × Plan)) (value : Json) :
      (resolution.resolveRoot (.branch (.operation root) type query.selected args children)
          [name]).Returns value ↔
        ∃ answer,
          (root.resolver ⟨context, [name], args, query.selected, root.name⟩).Returns answer ∧
          (resolution.walk children answer [name]).Returns value := by
    simp [Resolution.resolveRoot, Resolution.resolve_branch, Resolution.ask, resolution]
  simp only [serve, whole, Run.returns_bind]
  constructor
  · rintro ⟨plan, planned, value, resolved, conformed⟩
    obtain ⟨object, args, taken, children, selected, rfl⟩ := (planning plan).mp planned
    obtain ⟨answer, answered, walked⟩ := (resolving ..).mp resolved
    exact ⟨object, args, taken, children, selected, answer, answered, value, walked,
      Plan.returns_conform.mp conformed⟩
  · rintro ⟨object, args, taken, children, selected, answer, answered, value, walked, conforms⟩
    exact ⟨_, (planning _).mpr ⟨object, args, taken, children, selected, rfl⟩, value,
      (resolving ..).mpr ⟨answer, answered, walked⟩, Plan.returns_conform.mpr conforms⟩

end Engine

end TypedQuery
