import TypedQuery.Plan.Resolve
import TypedQuery.Proofs.Plan.Attribution

/-!
# Walking a plan

Resolving walks a plan from its root. It descends into objects, past fields that have no resolver,
and asks every resolver that it comes by once. So the fields whose resolvers are asked,
`Event.fieldPaths`, stand at nodes of the plan, in the order of the nodes, and no two of them at the
same node. What is walked below the root alone is `Resolution.walk`.
-/

namespace TypedQuery

mutual

/-- The fields whose resolvers are asked in the course of an event, by the engine or by the
resolver of an operation. What a resolver of a field does is its own affair. -/
def Event.fieldPaths : Event → List FieldPath
  | .call made inner =>
    match made with
    | .resolveField request => [request.path]
    | .resolveOperation _ => Event.allFieldPaths inner
    | _ => []
  | .note _ => []
termination_by structural event => event

/-- The fields whose resolvers are asked in the course of a trace. -/
def Event.allFieldPaths : List Event → List FieldPath
  | [] => []
  | event :: rest => event.fieldPaths ++ Event.allFieldPaths rest
termination_by structural trace => trace

end

theorem Event.allFieldPaths_append (trace more : List Event) :
    Event.allFieldPaths (trace ++ more)
      = Event.allFieldPaths trace ++ Event.allFieldPaths more := by
  induction trace with
  | nil => rfl
  | cons event rest ih => rw [List.cons_append, allFieldPaths, allFieldPaths, ih, List.append_assoc]

theorem Event.fieldPaths_of_asksResolver {event : Event} (h : event.asksResolver = false) :
    event.fieldPaths = [] := by
  cases event with
  | note => rfl
  | call call inner =>
      cases call with
      | resolveOperation | resolveField => cases h
      | guard | checkInput | parse | serialize | deriveArgs => rfl

namespace Run

variable {ε ε' α β : Type}

/-- The resolvers of fields that the run asks, by `Event.allFieldPaths`, belong to fields at some of
the paths, in their order. -/
def Visits (paths : List FieldPath) (run : Run ε α) : Prop :=
  (Event.allFieldPaths run.trace).Sublist paths

/-- A run that asks no resolver, as `Event.asksResolver` tells, visits nothing. -/
theorem visits_of_only {run : Run ε α} (h : run.Only (·.asksResolver = false)) :
    run.Visits [] := by
  obtain ⟨trace, outcome⟩ := run
  refine List.sublist_nil.mpr ?_
  induction trace with
  | nil => rfl
  | cons event rest ih =>
      obtain ⟨first, others⟩ := List.forall_mem_cons.1 h
      rw [Event.allFieldPaths, Event.fieldPaths_of_asksResolver first, List.nil_append]
      exact ih others

theorem visits_pure (value : α) : (pure value : Run ε α).Visits [] := List.Sublist.slnil

theorem Visits.mono {paths more : List FieldPath} {run : Run ε α} (h : run.Visits paths)
    (inside : paths.Sublist more) : run.Visits more := h.trans inside

theorem Visits.bind {front back : List FieldPath} {run : Run ε α} {next : α → Run ε β}
    (first : run.Visits front) (second : ∀ value, run.Returns value → (next value).Visits back) :
    (run >>= next).Visits (front ++ back) := by
  unfold Visits
  cases ended : run.outcome with
  | error error =>
      rw [bind_of_error ended]
      exact first.trans (List.sublist_append_left front back)
  | ok value =>
      rw [trace_bind ended, Event.allFieldPaths_append]
      exact first.append (second value ended)

theorem Visits.map {paths : List FieldPath} {run : Run ε α} (h : run.Visits paths) (f : α → β) :
    (f <$> run).Visits paths := by
  rwa [Visits, trace_map]

theorem Visits.mapError {paths : List FieldPath} {run : Run ε α} (h : run.Visits paths)
    (f : ε → ε') : (run.mapError f).Visits paths := by
  rwa [Visits, trace_mapError]

theorem Visits.attachPath {paths : List FieldPath} {run : Run Error α} (h : run.Visits paths)
    (path : FieldPath) : (run.attachPath path).Visits paths := h.mapError _

/-- An operation asks the resolvers that its own resolver asks. -/
theorem Visits.ofOperation {paths : List FieldPath} {callback : Run Fault α}
    (h : callback.Visits paths) (request : OperationRequest) :
    (invoke (.resolveOperation request) callback).Visits paths := by
  have shown : Event.allFieldPaths (invoke (.resolveOperation request) callback).trace
      = Event.allFieldPaths callback.trace := List.append_nil _
  rwa [Visits, shown]

end Run

namespace Resolution

variable (resolution : Resolution)

/-- Fills in the fields that are selected in a value, which has some if it is an object. -/
def walk (children : List (String × Plan)) (value : Json) (path : FieldPath) : Run Error Json :=
  match value with
  | .object members => .object <$> resolution.resolveFields children members path
  | value => pure value

/-- A branch is asked, and its fields are filled in unless a resolver has the last word. -/
theorem resolve_branch (definition : Definition) (type : ObjectType)
    (selection : List (String × Json)) (args : Option Json) (children : List (String × Plan))
    (value : Json) (parent : List (String × Json)) (path : FieldPath) :
    resolution.resolve (.branch definition type selection args children) value parent path
      = Run.attachPath path (do
        match ← resolution.ask definition args selection value parent path with
        | .final value => return value
        | .open value => resolution.walk children value path) := by
  rw [resolve]
  refine congrArg (Run.attachPath path) (bind_congr fun stage => ?_)
  cases stage with
  | final => rfl
  | «open» value =>
      cases value with
      | object members => exact bind_pure_comp Json.object _
      | null | bool | number | string | array => rfl

variable {resolution}

theorem visits_ask {definition : Definition} (field : definition.isOperation = false)
    (args : Option Json) (selection : List (String × Json)) (value : Json)
    (parent : List (String × Json)) (path : FieldPath) :
    (resolution.ask definition args selection value parent path).Visits [path] := by
  cases definition with
  | operation root => cases field
  | field inner =>
      rw [ask]
      cases declared : inner.resolver with
      | none => exact (Run.visits_pure _).mono (List.nil_sublist _)
      | some resolver =>
          dsimp only
          split
          · exact (Run.visits_pure _).mono (List.nil_sublist _)
          · let request : FieldRequest :=
              ⟨resolution.context, path, args, selection, value, parent, resolution.operation⟩
            have asked : (Run.invoke (.resolveField request) (resolver request)).Visits [path] :=
              List.Sublist.refl _
            exact (asked.mapError Error.ofFault).bind fun _ _ => Run.visits_pure _

theorem visits_resolveFields {children : List (String × Plan)} {path : FieldPath}
    (h : ∀ child ∈ children, ∀ value parent,
      (resolution.resolve child.2 value parent (path ++ [child.1])).Visits
        ((child.2.nodes (path ++ [child.1])).map Prod.fst))
    (members : List (String × Json)) :
    (resolution.resolveFields children members path).Visits
      ((Plan.nodesWithin children path).map Prod.fst) := by
  induction children generalizing members with
  | nil => exact Run.visits_pure members
  | cons child children ih =>
      obtain ⟨key, plan⟩ := child
      obtain ⟨first, rest⟩ := List.forall_mem_cons.1 h
      rw [resolveFields, Plan.nodesWithin, List.map_append]
      exact (first _ members).bind fun _ _ => ih rest _

theorem visits_walk {children : List (String × Plan)} {path : FieldPath}
    (h : ∀ members, (resolution.resolveFields children members path).Visits
      ((Plan.nodesWithin children path).map Prod.fst)) (value : Json) :
    (resolution.walk children value path).Visits
      ((Plan.nodesWithin children path).map Prod.fst) := by
  cases value with
  | object members => exact (h members).map Json.object
  | null | bool | number | string | array => exact (Run.visits_pure _).mono (List.nil_sublist _)

/-- Resolving asks the resolvers of fields at nodes of the plan, in their order. -/
theorem visits_resolve {plan : Plan} {path : FieldPath}
    (fields : ∀ node ∈ plan.nodes path, node.2.definition.isOperation = false) (value : Json)
    (parent : List (String × Json)) :
    (resolution.resolve plan value parent path).Visits ((plan.nodes path).map Prod.fst) := by
  induction plan generalizing value parent path with
  | leaf definition scalar args =>
      have field : definition.isOperation = false := fields _ List.mem_cons_self
      rw [resolve]
      refine Run.Visits.attachPath ?_ path
      refine (visits_ask field args [] value parent path).bind fun stage _ => ?_
      cases stage <;> exact Run.visits_pure _
  | branch definition type selection args children ih =>
      have field : definition.isOperation = false := fields _ List.mem_cons_self
      rw [resolve_branch]
      refine Run.Visits.attachPath ?_ path
      refine (visits_ask field args selection value parent path).bind fun stage _ => ?_
      cases stage with
      | final value => exact (Run.visits_pure _).mono (List.nil_sublist _)
      | «open» value =>
          refine visits_walk (visits_resolveFields fun child inside value parent => ?_) value
          exact ih child inside (fun node within =>
            fields node (List.mem_cons_of_mem _ (Plan.mem_nodesWithin inside within))) value parent

/-- Filling in the fields of a value asks the resolvers of fields at nodes below. -/
theorem visits_walk_of_fields {children : List (String × Plan)} {path : FieldPath}
    (fields : ∀ node ∈ Plan.nodesWithin children path, node.2.definition.isOperation = false)
    (value : Json) :
    (resolution.walk children value path).Visits
      ((Plan.nodesWithin children path).map Prod.fst) :=
  visits_walk (visits_resolveFields fun _ inside => visits_resolve fun node within =>
    fields node (Plan.mem_nodesWithin inside within)) value

end Resolution

/-- The nodes of the plan of a document stand at its `Schema.sites`. -/
theorem Scope.paths_nodes_of_returns {scope : Scope} (full : scope.options = {}) {query : Json}
    {definition : Definition} {path : FieldPath} {plan : Plan}
    (planned : (scope.select query definition path).Returns plan) :
    (plan.nodes path).map Prod.fst
      = (scope.schema.sites query definition path).map (·.path) := by
  have mirrored := (planned_of_returns full query definition path plan planned).2
  rw [← List.forall₂_eq_eq_eq, List.forall₂_map_left_iff, List.forall₂_map_right_iff]
  exact mirrored.flip.imp fun _ _ mirrors => mirrors.path

/-- A field is planned with fields below. -/
theorem Scope.fields_of_returns {scope : Scope} (full : scope.options = {}) {query : Json}
    {definition : Definition} {path : FieldPath} {plan : Plan}
    (field : definition.isOperation = false)
    (planned : (scope.select query definition path).Returns plan) :
    ∀ node ∈ plan.nodes path, node.2.definition.isOperation = false := by
  intro node inside
  have mirrored := (planned_of_returns full query definition path plan planned).2
  obtain ⟨site, here, mirrors⟩ := exists_of_mem_right mirrored inside
  rw [mirrors.definition]
  exact Schema.of_mem_sites (motive := fun definition => definition.isOperation = false)
    (fun _ _ _ _ _ _ _ => rfl) field here

end TypedQuery
