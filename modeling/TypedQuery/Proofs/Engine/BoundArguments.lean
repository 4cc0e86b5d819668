import TypedQuery.Proofs.Engine.BoundRequests
import TypedQuery.Proofs.Engine.FullAnswer
import TypedQuery.Proofs.Plan.Visibility
import TypedQuery.Proofs.Plan.Walk

/-!
# The arguments of bound requests

A request brings arguments to a bound operation, as `Operation.Brings` says: those that its source
derives, or else the query string with the values of the route written over it. No arguments and an
empty object come to the same, which is the template as it is. Any other arguments are either what
the resolver of the operation is shown, once they are checked, or the request fails before a
resolver is asked. The selection of a template that is no object leaves no room for them; it is the
planner that refuses it then, because only an object or the marker of a leaf is ever planned.
-/

namespace TypedQuery

/-- What the resolver of an operation is shown, if the event asks one. -/
def Event.operationRequest? : Event → Option OperationRequest
  | .call (.resolveOperation request) _ => some request
  | _ => none

/-- Calls that ask no resolver of an operation, and any errors that name a path. -/
def Protocol.quiet : Protocol := Protocol.attributed.restrict (·.operationRequest? = none)

namespace Run

variable {ε ε' α β : Type}

/-- What the resolvers of operations are shown in a run, in the order of its trace, by
`Event.operationRequest?`. -/
def asked (run : Run ε α) : List OperationRequest := run.trace.filterMap Event.operationRequest?

/-- No resolver of an operation is asked in a run that makes `Only` calls of another kind. -/
theorem asked_of_only {run : Run ε α} {kind : Event → Prop} (h : run.Only kind)
    (other : ∀ event, kind event → event.operationRequest? = none) : run.asked = [] :=
  List.filterMap_eq_nil_iff.mpr fun event shown => other event (h event shown)

theorem asked_bind {run : Run ε α} {value : α} (h : run.Returns value) (next : α → Run ε β) :
    (run >>= next).asked = run.asked ++ (next value).asked := by
  rw [asked, trace_bind h, List.filterMap_append]
  rfl

/-- What comes after a run may ask nobody. -/
theorem asked_bind_of_quiet {run : Run ε α} {next : α → Run ε β}
    (quiet : ∀ value, run.Returns value → (next value).asked = []) :
    (run >>= next).asked = run.asked := by
  cases ended : run.outcome with
  | error error => rw [bind_of_error ended, asked, asked]
  | ok value => rw [asked_bind ended, quiet value ended, List.append_nil]

theorem asked_mapError (f : ε → ε') (run : Run ε α) : (run.mapError f).asked = run.asked := by
  rw [asked, trace_mapError, asked]

theorem asked_attachPath (path : FieldPath) (run : Run Error α) :
    (run.attachPath path).asked = run.asked := asked_mapError _ run

end Run

/-- Below the field for which a document is written there are fields only. -/
theorem Schema.field_of_mem_tail_sites {schema : Schema} {query : Json} {definition : Definition}
    {path : FieldPath} {site : Site} (below : site ∈ (schema.sites query definition path).tail) :
    site.definition.isOperation = false := by
  cases query with
  | null | bool | number | string | array => cases below
  | object members =>
      rw [sites, List.tail_cons] at below
      split at below
      next =>
        obtain ⟨member, _, field, _, within⟩ := exists_member_of_mem_sitesWithin below
        exact of_mem_sites (motive := fun definition => definition.isOperation = false)
          (fun _ _ _ _ _ _ _ => rfl) rfl within
      next => cases below

/-- What is planned below the field for which a document is written is a field. -/
theorem Scope.fields_within_of_returns {scope : Scope} (full : scope.options = {}) {query : Json}
    {definition : Definition} {path : FieldPath} {plan : Plan}
    (planned : (scope.select query definition path).Returns plan) :
    ∀ node ∈ Plan.nodesWithin plan.children path, node.2.definition.isOperation = false := by
  intro node inside
  have mirrored := (planned_of_returns full query definition path plan planned).2
  rw [Plan.nodes_eq] at mirrored
  obtain ⟨first, below, _, within, sites⟩ := List.forall₂_cons_right_iff.mp mirrored
  obtain ⟨site, here, mirrors⟩ := exists_of_mem_right within inside
  have tail : (scope.schema.sites query definition path).tail = below := by
    rw [sites, List.tail_cons]
  rw [mirrors.definition]
  exact Schema.field_of_mem_tail_sites (tail ▸ here)

namespace Resolution

variable {resolution : Resolution}

/-- Filling in fields with `walk` asks the resolvers of fields. -/
theorem asked_walk {children : List (String × Plan)} {path : FieldPath}
    (fields : ∀ node ∈ Plan.nodesWithin children path, node.2.definition.isOperation = false)
    (value : Json) : (resolution.walk children value path).asked = [] := by
  have attributed : Protocol.quiet.Attributed := Protocol.attributed_attributed.restrict _
  have asks (child : String × Plan) (inside : child ∈ children) :
      child.2.Throughout (path ++ [child.1]) Protocol.quiet.AsksResolver := by
    intro node within
    have field : node.2.definition.isOperation = false :=
      fields node (Plan.mem_nodesWithin inside within)
    cases answers : node.2.definition with
    | operation root =>
        rw [answers] at field
        cases field
    | field inner => exact fun _ _ _ _ => ⟨rfl, fun _ => Fault.path_reported_ne_none⟩
  have walked (members : List (String × Json)) :
      (resolution.resolveFields children members path).Follows Protocol.quiet :=
    follows_resolveFields (fun child inside => follows_resolve attributed (asks child inside))
      members
  have follows : (resolution.walk children value path).Follows Protocol.quiet := by
    cases value with
    | object members => exact (walked members).map Json.object
    | null | bool | number | string | array => exact Run.follows_pure _
  exact Run.asked_of_only follows.only fun _ none => none

theorem asked_ask_operation (root : Operation) (args : Option Json)
    (selection : List (String × Json)) (value : Json) (parent : List (String × Json))
    (path : FieldPath) :
    (resolution.ask (.operation root) args selection value parent path).asked
      = [⟨resolution.context, path, args, selection, resolution.operation⟩] := by
  unfold ask
  dsimp only
  rw [Run.asked_bind_of_quiet fun _ _ => rfl, Run.recover, Run.asked_mapError]
  rfl

/-- Resolving the plan of an operation asks its resolver once, and no other operation. -/
theorem asked_resolveRoot {plan : Plan} {root : Operation}
    (answers : plan.definition = .operation root) {path : FieldPath}
    (fields : ∀ node ∈ Plan.nodesWithin plan.children path,
      node.2.definition.isOperation = false) :
    (resolution.resolveRoot plan path).asked
      = [⟨resolution.context, path, plan.args, plan.selection, resolution.operation⟩] := by
  rw [resolveRoot]
  cases plan with
  | leaf definition scalar args =>
      cases answers
      rw [resolve, Run.asked_attachPath, Run.asked_bind_of_quiet, asked_ask_operation]
      · rfl
      · intro stage _
        cases stage <;> rfl
  | branch definition type selection args children =>
      cases answers
      rw [resolve_branch, Run.asked_attachPath, Run.asked_bind_of_quiet, asked_ask_operation]
      · rfl
      · intro stage _
        cases stage with
        | final value => rfl
        | «open» value => exact asked_walk fields value

end Resolution

/-- No name comes twice among the values of the route, nor in the query string. -/
structure Context.NamesOnce (context : Context) : Prop where
  params : (Entries.keys context.params).Nodup
  query : (Entries.keys context.query).Nodup

/-- The members hold whatever stands in the query string or in the route. What stands in both has
the value of the route, and the place that it has in the query string. -/
structure Context.Merges (context : Context) (members : List (String × Json)) : Prop where
  keys : Entries.keys members
    = (Entries.keys context.query ++ Entries.keys context.params).eraseDups
  values : ∀ key, Entries.get? members key
    = (Entries.get? context.params key).or (Entries.get? context.query key)

theorem Context.merges_iff {context : Context} (once : context.NamesOnce)
    {members : List (String × Json)} :
    context.Merges members ↔ members = Entries.putAll context.query context.params := by
  have keys := Entries.keys_putAll once.query context.params
  have values := Entries.get?_putAll once.params context.query
  constructor
  · intro merges
    have unique : (Entries.keys (Entries.putAll context.query context.params)).Nodup :=
      Entries.nodup_keys_putAll once.query _
    refine Entries.eq_of_get?_eq unique (merges.keys.trans keys.symm) fun key => ?_
    rw [merges.values, values]
  · rintro rfl
    exact ⟨keys, values⟩

namespace Operation

variable {root : Operation} {context : Context}

/-- The arguments that a request brings: the source of the binding has the say if there is one, and
what the context `Merges` otherwise. -/
inductive Brings (root : Operation) (context : Context) : Option Json → Prop
  | derived {source args} : root.binding.bind (·.args) = some source →
      (source context).Returns args → Brings root context args
  | merged {members} : root.binding.bind (·.args) = none → context.Merges members →
      Brings root context (some (.object members))

/-- An empty object counts as no arguments. -/
theorem returns_boundArgs_iff (once : context.NamesOnce) {args : Option Json} :
    (root.boundArgs context).Returns args ↔
      ∃ brought, root.Brings context brought ∧
        args = if brought = some (.object []) then none else brought := by
  unfold boundArgs
  dsimp only
  cases source : root.binding.bind (·.args) with
  | some derive =>
      simp only [Run.returns_bind, Run.returns_recover, Run.returns_invoke, Run.returns_pure]
      constructor
      · rintro ⟨brought, returned, rfl⟩
        exact ⟨brought, .derived source returned, rfl⟩
      · rintro ⟨brought, brings, rfl⟩
        cases brings with
        | derived other returned =>
            obtain rfl := Option.some.inj (source.symm.trans other)
            exact ⟨brought, returned, rfl⟩
        | merged other => cases source.symm.trans other
  | none =>
      simp only [Run.returns_bind, Run.returns_pure]
      constructor
      · rintro ⟨_, rfl, rfl⟩
        exact ⟨_, .merged source ((Context.merges_iff once).mpr rfl), rfl⟩
      · rintro ⟨brought, brings, rfl⟩
        cases brings with
        | derived other => cases source.symm.trans other
        | merged _ merges =>
            obtain rfl := (Context.merges_iff once).mp merges
            exact ⟨_, rfl, rfl⟩

end Operation

namespace Engine

variable {engine : Engine} {root : Operation} {binding : Binding} {context : Context}

/-- Where there is a plan, the resolver of the operation is asked once, with the arguments of the
plan. Otherwise nobody is asked. -/
theorem asked_serve (engine : Engine) (root : Operation) (name : String) (query : Json)
    (context : Context) :
    (∃ plan, (engine.planning root name query context).Returns plan ∧
        (engine.serve root name query context).asked = [request root name context plan]) ∨
      (∃ error, (engine.serve root name query context).outcome = .error error) ∧
        (engine.serve root name query context).asked = [] := by
  have quiet : (engine.planning root name query context).asked = [] := by
    refine Run.asked_of_only (engine.planning_asks_no_resolver root name query context) ?_
    intro event silent
    cases event with
    | note => rfl
    | call call =>
        cases call with
        | resolveOperation | resolveField => cases silent
        | guard | checkInput | parse | serialize | deriveArgs => rfl
  cases planned : (engine.planning root name query context).outcome with
  | error error =>
      have stops : engine.serve root name query context
          = ⟨(engine.planning root name query context).trace, .error error⟩ :=
        Run.bind_of_error planned _
      rw [stops]
      exact .inr ⟨⟨error, rfl⟩, quiet⟩
  | ok plan =>
      have answers : plan.definition = .operation root := Scope.definition_of_returns rfl planned
      have fields := Scope.fields_within_of_returns rfl planned
      let resolution : Resolution := ⟨context, root.name, engine.options.processEntireTree⟩
      have resolved :
          (resolution.resolveRoot plan [name]).asked = [request root name context plan] :=
        Resolution.asked_resolveRoot answers fields
      have served : (engine.serve root name query context).asked
          = (engine.planning root name query context).asked
            ++ (resolution.resolveRoot plan [name] >>= fun value =>
              plan.conform value [name]).asked :=
        Run.asked_bind planned _
      refine .inl ⟨plan, planned, ?_⟩
      rw [served, quiet, List.nil_append, Run.asked_bind_of_quiet, resolved]
      intro value _
      refine Run.asked_of_only (Plan.only_conform plan value [name]) fun event serializes => ?_
      cases event with
      | note => rfl
      | call call =>
          cases call with
          | serialize => rfl
          | guard | checkInput | parse | resolveOperation | resolveField | deriveArgs =>
              cases serializes

/-- The plan of an operation has the arguments of its selection, checked. -/
theorem returns_check_of_planning {name : String} {query : Json} {plan : Plan}
    (planned : (engine.planning root name query context).Returns plan) :
    (Arguments.check engine.schema (query.get? argsKey) root.signature.args
      [name, argsKey]).Returns plan.args := by
  have full : (engine.scope root context).options = {} := rfl
  have mirrored := (Scope.planned_of_returns full _ _ _ _ planned).2
  rw [Plan.nodes_eq] at mirrored
  obtain ⟨site, below, mirrors, _, split⟩ := List.forall₂_cons_right_iff.mp mirrored
  have first : site = ⟨.operation root, query, [name]⟩ := by
    cases query with
    | null | bool | number | string | array | object => exact (List.cons.inj split).1.symm
  subst first
  exact mirrors.args

/-- What is selected by something other than an object is a leaf. -/
theorem scalar_of_planning {name : String} {query : Json} {plan : Plan}
    (noObject : query.members? = none)
    (planned : (engine.planning root name query context).Returns plan) :
    ∃ scalar, root.signature.type = .scalar scalar := by
  have full : (engine.scope root context).options = {} := rfl
  let site : Site := ⟨.operation root, query, [name]⟩
  obtain ⟨_, _, scalar, _, resolved, _⟩ :=
    (Scope.returns_select_marked full site noObject).mp planned
  exact ⟨scalar, Schema.resolveOutput_eq_scalar_iff.mp resolved⟩

section Bound

variable (bound : root.binding = some binding)
include bound

theorem boundQuery_of_no_args (returned : (root.boundArgs context).Returns none) :
    (engine.boundQuery root context).Returns (binding.template.getD engine.options.marker) := by
  refine Run.returns_bind.mpr ⟨none, returned, ?_⟩
  rw [bound, Option.bind_some]
  cases root.signature.type <;> cases binding.template <;> rfl

/-- Arguments have a place in the selection, unless it is no object and not that of a leaf. -/
theorem boundQuery_of_args {args : Json} (returned : (root.boundArgs context).Returns (some args))
    (noObject : engine.options.marker.members? = none) :
    ∃ query, (engine.boundQuery root context).Returns query ∧
      (query.get? argsKey = some args ∨
        query.members? = none ∧ ∀ scalar, root.signature.type ≠ .scalar scalar) := by
  refine ⟨_, Run.returns_bind.mpr ⟨some args, returned, rfl⟩, ?_⟩
  rw [bound, Option.bind_some]
  cases root.signature.type with
  | scalar scalar => exact .inl rfl
  | object | lookup =>
      cases binding.template with
      | none => exact .inr ⟨noObject, nofun⟩
      | some template =>
          cases template with
          | object members => exact .inl (Entries.get?_put_self ..)
          | null | bool | number | string | array => exact .inr ⟨rfl, nofun⟩

/-- The arguments aside, the template of an operation with an object type is selected. -/
theorem filter_of_boundQuery {members : List (String × Json)}
    (template : binding.template = some (.object members))
    (object : ∀ scalar, root.signature.type ≠ .scalar scalar) {query : Json}
    (derived : (engine.boundQuery root context).Returns query) :
    ∃ written, query = .object written ∧
      written.filter (·.1 ≠ argsKey) = members.filter (·.1 ≠ argsKey) := by
  obtain ⟨args, _, derived⟩ := Run.returns_bind.mp derived
  obtain rfl := Run.returns_pure.mp derived
  rw [bound, Option.bind_some, template]
  cases type : root.signature.type with
  | scalar scalar => exact absurd type (object scalar)
  | object | lookup =>
      cases args with
      | none => exact ⟨members, rfl, rfl⟩
      | some args => exact ⟨_, rfl, Entries.filter_put_self ..⟩

end Bound

/-- Either the request fails before a resolver is asked, or the resolver of the operation is asked,
once, with the arguments in the form that they have when they are checked. -/
def Delivers (engine : Engine) (root : Operation) (context : Context) (args : Json) : Prop :=
  (∃ error, (engine.runBound root context).outcome = .error error) ∧
      (engine.runBound root context).asked = [] ∨
    ∃ request, (engine.runBound root context).asked = [request] ∧ request.operation = root.name ∧
      (Arguments.check engine.schema (some args) root.signature.args
        [root.name, argsKey]).Returns request.args

/-- Deriving the selection asks no resolver. -/
theorem asked_boundQuery (engine : Engine) (root : Operation) (context : Context) :
    (engine.boundQuery root context).asked = [] := by
  rw [Run.asked, trace_boundQuery, Operation.derivation]
  cases root.binding.bind (·.args) <;> rfl

theorem runBound_of_fails {error : Error}
    (failed : (root.boundArgs context).outcome = .error error) :
    (engine.runBound root context).outcome = .error error ∧
      (engine.runBound root context).asked = [] := by
  have underived : (engine.boundQuery root context).outcome = .error error := by
    rw [boundQuery, Run.bind_of_error failed]
  have stops : engine.runBound root context
      = ⟨(engine.boundQuery root context).trace, .error error⟩ := Run.bind_of_error underived _
  rw [stops]
  exact ⟨rfl, asked_boundQuery engine root context⟩

/-- Arguments that are not empty are never passed over: the engine `Delivers` them. -/
theorem delivers_of_returns_boundArgs (bound : root.binding = some binding)
    (noObject : engine.options.marker.members? = none) {args : Json}
    (returned : (root.boundArgs context).Returns (some args)) :
    engine.Delivers root context args := by
  obtain ⟨query, derived, placed⟩ := boundQuery_of_args bound returned noObject
  have outcome : (engine.runBound root context).outcome
      = (engine.serve root root.name query context).outcome := Run.outcome_bind derived _
  have asked : (engine.runBound root context).asked
      = (engine.serve root root.name query context).asked := by
    rw [runBound, Run.asked_bind derived, asked_boundQuery, List.nil_append]
  rw [Delivers, outcome, asked]
  obtain ⟨plan, planned, asked⟩ | fails := asked_serve engine root root.name query context
  · refine .inr ⟨_, asked, rfl, ?_⟩
    obtain held | ⟨unplaced, object⟩ := placed
    · exact held ▸ returns_check_of_planning planned
    · obtain ⟨scalar, type⟩ := scalar_of_planning unplaced planned
      exact absurd type (object scalar)
  · exact .inl fails

/-- What a request brings to a bound operation is the answer of the source of its arguments, or else
the query string with the route written over it; if the source fails, so does the request. No
arguments and the empty object leave the template as it is, or the marker in its place. All other
arguments are what the resolver of the operation is shown, once they are checked, or the request
fails. What the template of an object type selects is selected, in its order. -/
theorem bound_arguments_are_kept (engine : Engine) {root : Operation} {binding : Binding}
    (bound : root.binding = some binding) {context : Context} (once : context.NamesOnce) :
    ((∃ brought, root.Brings context brought) ∨
        (∃ error, (engine.runBound root context).outcome = .error error) ∧
          (engine.runBound root context).asked = []) ∧
      (∀ brought, root.Brings context brought →
        (brought = none ∨ brought = some (.object []) →
          (engine.boundQuery root context).outcome
            = .ok (binding.template.getD engine.options.marker)) ∧
        ∀ args, brought = some args → args ≠ .object [] →
          engine.options.marker.members? = none → engine.Delivers root context args) ∧
      ∀ members, binding.template = some (.object members) →
        (∀ scalar, root.signature.type ≠ .scalar scalar) →
        ∀ query, (engine.boundQuery root context).outcome = .ok query →
          ∃ written, query = .object written ∧
            written.filter (·.1 ≠ argsKey) = members.filter (·.1 ≠ argsKey) := by
  refine ⟨?brings, fun brought brings => ⟨fun empty => ?empty, ?args⟩, ?template⟩
  case brings =>
    cases ended : (root.boundArgs context).outcome with
    | ok args =>
        obtain ⟨brought, brings, _⟩ := (Operation.returns_boundArgs_iff once).mp ended
        exact .inl ⟨brought, brings⟩
    | error error =>
        have failed : (engine.runBound root context).outcome = .error error ∧
            (engine.runBound root context).asked = [] := runBound_of_fails ended
        exact .inr ⟨⟨error, failed.1⟩, failed.2⟩
  case empty =>
    refine boundQuery_of_no_args bound ((Operation.returns_boundArgs_iff once).mpr ?_)
    refine ⟨brought, brings, ?_⟩
    obtain rfl | rfl := empty
    · rfl
    · exact (if_pos rfl).symm
  case args =>
    rintro args rfl notEmpty noObject
    refine delivers_of_returns_boundArgs bound noObject ?_
    refine (Operation.returns_boundArgs_iff once).mpr ⟨_, brings, ?_⟩
    exact (if_neg fun same => notEmpty (Option.some.inj same)).symm
  case template =>
    intro members template object query derived
    exact filter_of_boundQuery bound template object derived

/-- A page is found by the number in its route, in the language that the query string asks for. -/
def pageOperation : Operation where
  name := "page"
  signature :=
    { type := .lookup "page"
      args := some
        { type := .input
            { name := "pageArgs"
              fields :=
                [("id", { type := .scalar Scalar.string, required := true }),
                  ("lang", { type := .scalar Scalar.string })] } } }
  resolver := fun _ => pure (.object [("title", .string "Terns"), ("body", .string "...")])
  binding := some
    { method := .get
      route := "/pages/:id"
      template := some (.object
        [("title", .bool true), (argsKey, .object [("lang", .string "de")]),
          ("body", .bool true)]) }

def pageEngine : Engine where
  schema := Schema.base.attemptAll
    [.object
      { name := "page"
        fields :=
          [("title", { signature := { type := .scalar Scalar.string } }),
            ("body", { signature := { type := .scalar Scalar.string } })] }
        false,
      .operation pageOperation]
  options := {}

/-- The query string may not say which page it is, and the template not in which language. -/
theorem bound_arguments_are_kept_page :
    let context : Context := { method := "GET", path := "/pages/4", params := [("id", .string "4")],
                               query := [("lang", .string "en"), ("id", .string "9")] }
    let args : Json := .object [("lang", .string "en"), ("id", .string "4")]
    pageOperation.Brings context (some args) ∧
      pageEngine.Delivers pageOperation context args ∧
      (pageEngine.runBound pageOperation context).asked.map (·.args)
        = [some (.object [("id", .string "4"), ("lang", .string "en")])] ∧
      ∃ written, (pageEngine.boundQuery pageOperation context).outcome = .ok (.object written) ∧
        written.filter (·.1 ≠ argsKey) = [("title", .bool true), ("body", .bool true)] := by
  intro context args
  have once : context.NamesOnce := ⟨by decide, by decide⟩
  have brings : pageOperation.Brings context (some args) :=
    .merged rfl ((Context.merges_iff once).mpr rfl)
  have bound : pageOperation.binding = some _ := rfl
  obtain ⟨_, kept, selected⟩ := bound_arguments_are_kept pageEngine bound once
  obtain ⟨written, form, rest⟩ := selected _ rfl nofun _ rfl
  have delivers : pageEngine.Delivers pageOperation context args :=
    (kept _ brings).2 args rfl (by simp [args]) rfl
  exact ⟨brings, delivers, rfl, written, congrArg _ form, rest⟩

end Engine

end TypedQuery
