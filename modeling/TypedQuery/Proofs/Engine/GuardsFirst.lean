import TypedQuery.Engine.Basic
import TypedQuery.Proofs.Plan.Calls

/-!
# Guards before resolvers

Serving a request asks no resolver before the document is `Cleared` as a whole: the guard of every
site has been asked once and has let it pass, every selection is right, and all arguments are
accepted. The plan is made before anything is resolved, making it asks no resolver, and the first
that is asked afterwards is that of the operation. So a document with anything wrong in it, at
whatever depth, has no effect, which is the other half of `GuardsFirst`.
-/

namespace TypedQuery

namespace Resolution

variable (resolution : Resolution)

/-- Asking the resolver of an operation is the only thing that asking it shows. -/
theorem trace_ask_operation (root : Operation) (args : Option Json)
    (selection : List (String × Json)) (value : Json) (parent : List (String × Json))
    (path : FieldPath) :
    ∃ request inner, (resolution.ask (.operation root) args selection value parent path).trace
      = [.call (.resolveOperation request) inner] := by
  let request : OperationRequest :=
    ⟨resolution.context, path, args, selection, resolution.operation⟩
  refine ⟨request, (root.resolver request).trace, ?_⟩
  unfold ask
  dsimp only
  rw [bind_pure_comp, Run.trace_map, Run.trace_recover, Run.trace_invoke]

/-- Resolving the plan of an operation asks the resolver of the operation first. -/
theorem trace_resolveRoot {plan : Plan} {root : Operation}
    (h : plan.definition = .operation root) (path : FieldPath) :
    ∃ request inner rest, (resolution.resolveRoot plan path).trace
      = .call (.resolveOperation request) inner :: rest := by
  obtain ⟨request, inner, asked⟩ :=
    resolution.trace_ask_operation root plan.args plan.selection .null [] path
  have first : (resolution.ask (.operation root) plan.args plan.selection .null [] path).trace
      <+: (resolution.resolveRoot plan path).trace := by
    cases plan with
    | leaf | branch =>
        cases h
        rw [resolveRoot, resolve, Run.trace_attachPath]
        exact Run.trace_prefix_bind _ _
  obtain ⟨rest, shown⟩ := first
  refine ⟨request, inner, rest, ?_⟩
  rw [← shown, asked, List.singleton_append]

end Resolution

/-- What a trace shows before the first event that `Event.asksResolver`. -/
def Event.beforeResolvers (trace : List Event) : List Event :=
  trace.takeWhile fun event => !event.asksResolver

namespace Engine

variable (engine : Engine) (root : Operation) (name : String) (query : Json)
  (context : Context)

/-- The request for which the plan of an operation is made. -/
def scope : Scope :=
  { schema := engine.schema, marker := engine.options.marker, context, operation := root.name }

/-- The sites of a document for an operation that goes by that name, as `Schema.sites` lists
them. -/
def sites : List Site := engine.schema.sites query (.operation root) [name]

/-- The first stage of serving a request, which is `Scope.select`. -/
def planning : Run Error Plan :=
  (engine.scope root context).select query (.operation root) [name]

/-- The document is cleared as a whole by what has been shown. -/
structure Cleared (shown : List Event) : Prop where
  /-- Every guard lets its site pass, and no selection and no arguments are refused. -/
  accepted : ∀ site ∈ engine.sites root name query, (engine.scope root context).Accepts site
  /-- Nothing is shown but the guards and the checks of arguments, site by site. -/
  trace : shown = (engine.sites root name query).flatMap (engine.scope root context).preflight
  /-- The guards that are asked are those of the sites, each of them once and in order. -/
  guards : shown.filterMap Event.guardRequest?
    = (engine.sites root name query).filterMap (engine.scope root context).guardRequest?
  /-- No two guards are asked for the same path, unless a key is written twice. -/
  once : query.KeysUnique → ((shown.filterMap Event.guardRequest?).map (·.path)).Nodup

/-- No resolver is asked before the document is cleared, and none at all if it is not. -/
structure GuardsFirst (trace : List Event) : Prop where
  cleared : (∃ event ∈ trace, event.asksResolver = true) →
    engine.Cleared root name query context (Event.beforeResolvers trace)
  refused : (∃ site ∈ engine.sites root name query, ¬ (engine.scope root context).Accepts site) →
    ∀ event ∈ trace, event.asksResolver = false

variable {engine root name query context}

/-- A document that has a plan is `Cleared` by making it. -/
theorem cleared_of_returns {plan : Plan}
    (h : (engine.planning root name query context).Returns plan) :
    engine.Cleared root name query context (engine.planning root name query context).trace := by
  have full : (engine.scope root context).options = {} := rfl
  have shown : (engine.planning root name query context).trace
      = (engine.sites root name query).flatMap (engine.scope root context).preflight :=
    Scope.trace_select full query (.operation root) [name] plan h
  have guards : (engine.planning root name query context).trace.filterMap Event.guardRequest?
      = (engine.sites root name query).filterMap (engine.scope root context).guardRequest? := by
    rw [shown, Scope.filterMap_flatMap_preflight]
  refine ⟨(Scope.planned_of_returns full _ _ _ _ h).1, shown, guards, ?_⟩
  intro unique
  rw [guards]
  exact ((engine.scope root context).paths_guardRequest?_sublist _).nodup
    (Schema.nodup_paths_sites unique (.operation root) [name])

/-- Where there is a plan, the resolver of the operation is asked right after it is made. -/
theorem trace_serve_of_returns {plan : Plan}
    (h : (engine.planning root name query context).Returns plan) :
    ∃ request inner rest, (engine.serve root name query context).trace
      = (engine.planning root name query context).trace
        ++ .call (.resolveOperation request) inner :: rest := by
  let resolution : Resolution := ⟨context, root.name, engine.options.processEntireTree⟩
  have answers : plan.definition = .operation root := Scope.definition_of_returns rfl h
  obtain ⟨request, inner, rest, resolved⟩ := resolution.trace_resolveRoot answers [name]
  obtain ⟨others, shown⟩ := Run.trace_prefix_bind (resolution.resolveRoot plan [name])
    fun value => plan.conform value [name]
  refine ⟨request, inner, rest ++ others, ?_⟩
  rw [resolved] at shown
  exact (Run.trace_bind h _).trans (congrArg _ shown.symm)

theorem trace_serve_of_fails {error : Error}
    (h : (engine.planning root name query context).outcome = .error error) :
    (engine.serve root name query context).trace
      = (engine.planning root name query context).trace :=
  congrArg Run.trace (Run.bind_of_error h _)

variable (engine root name query context)

theorem planning_asks_no_resolver :
    ∀ event ∈ (engine.planning root name query context).trace, event.asksResolver = false :=
  (engine.scope root context).only_select query (.operation root) [name]

theorem serve_guardsFirst :
    engine.GuardsFirst root name query context (engine.serve root name query context).trace := by
  have planned := engine.planning_asks_no_resolver root name query context
  cases h : (engine.planning root name query context).outcome with
  | error error =>
      rw [trace_serve_of_fails h]
      refine ⟨?_, fun _ => planned⟩
      rintro ⟨event, shown, asks⟩
      rw [planned event shown] at asks
      cases asks
  | ok plan =>
      have cleared := cleared_of_returns h
      obtain ⟨request, inner, rest, shown⟩ := trace_serve_of_returns h
      refine ⟨fun _ => ?_, ?_⟩
      · have before : Event.beforeResolvers (engine.serve root name query context).trace
            = (engine.planning root name query context).trace := by
          rw [shown, Event.beforeResolvers, List.takeWhile_append_of_pos,
            List.takeWhile_cons_of_neg, List.append_nil]
          · simp [Event.asksResolver, Call.asksResolver]
          · intro event inside
            rw [planned event inside, Bool.not_false]
        rwa [before]
      · rintro ⟨site, inside, refused⟩
        exact absurd (cleared.accepted site inside) refused

/-- Whichever way a request comes in, all guards of its document have let it pass, each asked
once, and all its selections and arguments are accepted, before the first resolver is asked. If
anything in it is refused, no resolver is asked. -/
theorem resolvers_wait_for_guards (engine : Engine) (query : Json) (context : Context) :
    (∀ root name, engine.GuardsFirst root name query context
      (engine.serve root name query context).trace) ∧
    ∀ name, (engine.run name query context).trace = [] ∨
      ∃ root, engine.schema.operation? name = some root ∧
        engine.GuardsFirst root name query context (engine.run name query context).trace := by
  refine ⟨fun root name => engine.serve_guardsFirst root name query context, fun name => ?_⟩
  unfold run
  cases engine.schema.operation? name with
  | none => exact .inl rfl
  | some root => exact .inr ⟨root, rfl, engine.serve_guardsFirst root name query context⟩

/-- An operation with a guard, over a type with a field that has a guard and a resolver. -/
def accountOperation : Operation where
  name := "account"
  signature :=
    { type := .object
        { name := "account"
          fields :=
            [("owner",
              { signature :=
                  { type := .scalar { name := "string" }
                    guard := some fun _ => pure () }
                resolver := some fun _ => pure (.string "Ann") })] }
      guard := some fun _ => pure () }
  resolver := fun _ => pure (.object [])

def accountEngine : Engine where
  schema := { operations := [("account", accountOperation)] }
  options := {}

/-- A request for which resolvers are asked, after two guards. -/
theorem resolvers_wait_for_guards_account :
    let query : Json := .object [("owner", .bool true)]
    let context : Context := ⟨"POST", "/", [], [], [], []⟩
    let trace := (accountEngine.serve accountOperation "account" query context).trace
    (∃ event ∈ trace, event.asksResolver = true) ∧
      accountEngine.Cleared accountOperation "account" query context
        (Event.beforeResolvers trace) ∧
      (trace.filterMap Event.guardRequest?).map (·.path) = [["account"], ["account", "owner"]] := by
  intro query context trace
  have asked : ∃ event ∈ trace, event.asksResolver = true := by decide
  have first := (resolvers_wait_for_guards accountEngine query context).1 accountOperation "account"
  exact ⟨asked, first.cleared asked, by decide⟩

end Engine

end TypedQuery
