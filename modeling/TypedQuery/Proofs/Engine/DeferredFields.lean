import TypedQuery.Proofs.Engine.GuardsFirst
import TypedQuery.Proofs.Plan.Reach
import TypedQuery.Proofs.Plan.Repetition
import TypedQuery.Proofs.Plan.Visibility

/-!
# Deferred fields

No resolver is asked for a field that is deferred, whatever the request and however it ends: that is
one half of `Engine.DefersFields`. Where the walk through the plan comes to such a field, its object
holds null in the end, no matter what it held under that name before. That is so if the field has a
resolver, which the mark then holds back. A field without a resolver has nothing to hold back: it
keeps what its object holds, deferred or not.
-/

namespace TypedQuery

/-- The resolver of the field is to be left alone. -/
def Definition.isDeferred : Definition → Bool
  | .operation _ => false
  | .field inner => inner.deferred

/-- The value to which keys lead through the members of objects. -/
def Json.at? : Json → List String → Option Json
  | value, [] => some value
  | .object members, key :: keys => (Entries.get? members key).bind fun value => value.at? keys
  | _, _ :: _ => none

namespace Resolution

variable {resolution : Resolution}

theorem Reaches.keysUnique {start stop : Stop} (reached : resolution.Reaches start stop)
    (unique : start.plan.KeysUnique) : stop.plan.KeysUnique := by
  induction reached with
  | self => exact unique
  | within _ split _ ih =>
      exact ih (unique.children.2 _ (split ▸ List.mem_append_right _ List.mem_cons_self))

/-- Where a walk comes to, as `Reaches` says, the result holds what came of it. -/
theorem at?_of_reaches {start stop : Stop} (reached : resolution.Reaches start stop)
    (unique : start.plan.KeysUnique) {parent : List (String × Json)} {result : Json}
    (resolved : (resolution.resolve start.plan start.value parent start.path).Returns result) :
    ∃ keys parent value, stop.path = start.path ++ keys ∧
      (resolution.resolve stop.plan stop.value parent stop.path).Returns value ∧
      result.at? keys = some value := by
  induction reached generalizing parent result with
  | self => exact ⟨[], parent, result, (List.append_nil _).symm, resolved, rfl⟩
  | @within stop members before key child after other opens split _ ih =>
      have inside : (key, child) ∈ stop.plan.children :=
        split ▸ List.mem_append_right before List.mem_cons_self
      have walked := returns_walk_of_opens resolved opens
      obtain ⟨filled, within, rfl⟩ := Run.returns_map.mp walked
      have frames : resolution.Frames stop.plan.children members stop.path filled :=
        (fillsIn_of_returns .start unique.children.1 within).frames unique.children.1
      obtain ⟨around, value, _, resolvedChild, held⟩ :=
        frames.selected before key child after split
      obtain ⟨keys, parent, value, further, came, leads⟩ :=
        ih (unique.children.2 _ inside) resolvedChild
      refine ⟨key :: keys, parent, value, ?_, came, ?_⟩
      · rw [further, Stop.ofField, ← List.append_cons]
      · rw [Json.at?, held, Option.bind_some, leads]

/-- Every call is made at one of the stops, and is its `callAt`. -/
theorem Calls.callAt_of_mem {stops : List Stop} {trace : List Event} {failure : Option Error}
    (h : resolution.Calls stops trace failure) {event : Event} (shown : event ∈ trace) :
    ∃ stop ∈ stops, ∃ parent call callback,
      resolution.callAt stop parent = some (call, callback) ∧
        event = .call call callback.trace := by
  induction h with
  | done => cases shown
  | passed _ _ ih =>
      obtain ⟨stop, among, made⟩ := ih shown
      exact ⟨stop, List.mem_cons_of_mem _ among, made⟩
  | answered _ asks _ _ ih =>
      obtain rfl | later := List.mem_cons.mp shown
      · exact ⟨_, List.mem_cons_self, _, _, _, asks, rfl⟩
      · obtain ⟨stop, among, made⟩ := ih later
        exact ⟨stop, List.mem_cons_of_mem _ among, made⟩
  | refused _ asks _ =>
      obtain rfl := List.mem_singleton.mp shown
      exact ⟨_, List.mem_cons_self, _, _, _, asks, rfl⟩

/-- The resolver of a field is asked at the path of the field, and only if it is not deferred. -/
theorem not_deferred_of_callAt {stop : Stop} {parent : List (String × Json)}
    {request : FieldRequest} {callback : Run Fault Json}
    (asks : resolution.callAt stop parent = some (.resolveField request, callback)) :
    request.path = stop.path ∧ stop.plan.definition.isDeferred = false := by
  rw [callAt] at asks
  cases answers : stop.plan.definition with
  | operation root =>
      rw [answers] at asks
      cases asks
  | field inner =>
      rw [answers] at asks
      dsimp only at asks
      split at asks
      · cases asks
      · split at asks
        · cases asks
        next notDeferred =>
          cases asks
          exact ⟨rfl, Bool.not_eq_true _ ▸ notDeferred⟩

/-- A deferred field with a resolver comes to null, and one without a resolver to what its object
holds. -/
theorem resolve_of_isDeferred {plan : Plan} (unique : plan.KeysUnique)
    (deferred : plan.definition.isDeferred = true) {value : Json} {parent : List (String × Json)}
    {path : FieldPath} {result : Json}
    (resolved : (resolution.resolve plan value parent path).Returns result) :
    if plan.definition.hasResolver then result = .null
    else resolution.Extends plan path value result := by
  split
  next answered =>
    cases answers : plan.definition with
    | operation root =>
        rw [answers] at deferred
        cases deferred
    | field inner =>
        rw [answers] at answered deferred
        obtain ⟨resolver, declared⟩ := Option.isSome_iff_exists.mp answered
        rw [resolve_of_deferred answers declared deferred, Run.returns_pure] at resolved
        exact resolved.symm
  next kept =>
    have noResolver : plan.definition.hasResolver = false := Bool.not_eq_true _ ▸ kept
    exact extends_of_returns unique resolved (resolution.opens?_of_no_resolver noResolver ..)

end Resolution

namespace Engine

variable (engine : Engine) (root : Operation) (name : String) (query : Json) (context : Context)

/-- The second stage of serving a request resolves its plan. -/
def resolution : Resolution := ⟨context, root.name, engine.options.processEntireTree⟩

/-- A request asks no resolver for a deferred field. Where its `resolution` comes to one, the result
holds null, or what the object of the field has held. -/
structure DefersFields : Prop where
  silent : ∀ site ∈ engine.sites root name query, site.definition.isDeferred = true →
    ∀ request inner, .call (.resolveField request) inner ∈
      (engine.serve root name query context).trace → request.path ≠ site.path
  /-- The fields that are reached are those whose parents are filled in, and are objects. -/
  held : ∀ plan value, (engine.planning root name query context).Returns plan →
    ((engine.resolution root context).resolveRoot plan [name]).Returns value →
    ∀ stop, (engine.resolution root context).Reaches ⟨plan, [name], .null, [], []⟩ stop →
      stop.plan.definition.isDeferred = true →
      ∃ keys result, stop.path = name :: keys ∧ value.at? keys = some result ∧
        if stop.plan.definition.hasResolver then result = .null
        else (engine.resolution root context).Extends stop.plan stop.path stop.value result

variable {engine root name query context}

section Planned

variable {plan : Plan} (planned : (engine.planning root name query context).Returns plan)
include planned

/-- The stops of a request, those of `reachFrom`, stand at the sites of its document. -/
theorem exists_site_of_reachFrom {stop : Stop} (reached : stop ∈
      (engine.resolution root context).reachFrom ⟨plan, [name], .null, [], []⟩) :
    ∃ site ∈ engine.sites root name query, site.path = stop.path ∧
      site.definition = stop.plan.definition := by
  have node : (stop.path, stop.plan) ∈ plan.nodes [name] :=
    (Resolution.reachFrom_sublist _ _).subset (List.mem_map.mpr ⟨stop, reached, rfl⟩)
  obtain ⟨site, here, keys, sitePath, stopPath, plannedFor⟩ :=
    Scope.exists_site_of_mem_nodes planned node
  exact ⟨site, here, sitePath.trans stopPath.symm, plannedFor.definition.symm⟩

/-- Resolving the plan of a document asks the resolvers of fields that are not deferred. -/
theorem site_of_mem_trace_resolveRoot (unique : query.KeysUnique) {request : FieldRequest}
    {inner : List Event} (shown : .call (.resolveField request) inner ∈
      ((engine.resolution root context).resolveRoot plan [name]).trace) :
    ∃ site ∈ engine.sites root name query, site.path = request.path ∧
      site.definition.isDeferred = false := by
  let start : Stop := ⟨plan, [name], .null, [], []⟩
  have uniquePlan : start.plan.KeysUnique := Scope.keysUnique_of_returns unique planned
  have toured : ((engine.resolution root context).resolveRoot plan [name]).Tours
      (engine.resolution root context) ((engine.resolution root context).reachFrom start) :=
    Resolution.tours_resolve uniquePlan .start
  obtain ⟨stop, reached, parent, call, callback, asks, same⟩ := toured.callAt_of_mem shown
  cases same
  obtain ⟨path, notDeferred⟩ := Resolution.not_deferred_of_callAt asks
  obtain ⟨site, here, stands, definition⟩ := exists_site_of_reachFrom planned reached
  exact ⟨site, here, stands.trans path.symm, definition ▸ notDeferred⟩

end Planned

/-- The resolvers of fields that a request asks are those of fields that are not deferred. -/
theorem site_of_mem_trace_serve (unique : query.KeysUnique) {request : FieldRequest}
    {inner : List Event} (shown : .call (.resolveField request) inner ∈
      (engine.serve root name query context).trace) :
    ∃ site ∈ engine.sites root name query, site.path = request.path ∧
      site.definition.isDeferred = false := by
  let undeferred (event : Event) : Prop := ∀ request inner,
    event = .call (.resolveField request) inner →
      ∃ site ∈ engine.sites root name query, site.path = request.path ∧
        site.definition.isDeferred = false
  have served : (engine.serve root name query context).Only undeferred := by
    refine Run.Only.bind ?planning fun plan planned =>
      Run.Only.bind ?resolving fun value _ => ?conforming
    case planning =>
      rintro _ inside request inner rfl
      cases engine.planning_asks_no_resolver root name query context _ inside
    case resolving =>
      rintro _ inside request inner rfl
      exact site_of_mem_trace_resolveRoot planned unique inside
    case conforming =>
      rintro _ inside request inner rfl
      cases Plan.only_conform plan value [name] _ inside
  exact served _ shown _ _ rfl

/-- In serving a request no resolver is asked for a deferred field. Wherever the walk comes to a
deferred field with a resolver, the result holds null, whatever the object of the field has held
there. A deferred field without a resolver is resolved like any other: the result holds what the
object has held, with the selected fields filled in. -/
theorem deferred_fields_are_left_unresolved (engine : Engine) (root : Operation) (name : String)
    {query : Json} (unique : query.KeysUnique) (context : Context) :
    engine.DefersFields root name query context := by
  refine ⟨?silent, ?held⟩
  case silent =>
    intro site here deferred request inner shown same
    obtain ⟨other, there, path, notDeferred⟩ := site_of_mem_trace_serve unique shown
    have once : ((engine.sites root name query).map (·.path)).Nodup :=
      Schema.nodup_paths_sites unique (.operation root) [name]
    obtain rfl := List.inj_on_of_nodup_map once there here (path.trans same)
    rw [deferred] at notDeferred
    cases notDeferred
  case held =>
    intro plan value planned resolved stop reached deferred
    have uniquePlan : plan.KeysUnique := Scope.keysUnique_of_returns unique planned
    obtain ⟨keys, parent, result, path, came, leads⟩ :=
      Resolution.at?_of_reaches reached uniquePlan resolved
    exact ⟨keys, result, path, leads,
      Resolution.resolve_of_isDeferred (reached.keysUnique uniquePlan) deferred came⟩

/-- A patient, whose scan has to be fetched and whose note is kept with the name. Both are
deferred. -/
def patient : Operation where
  name := "patient"
  signature :=
    { type := .object
        { name := "patient"
          fields := [
            ("name", { signature := { type := .scalar { name := "text" } } }),
            ("scan",
              { signature := { type := .scalar { name := "text" }, nullable := true }
                resolver := some fun _ => do
                  Run.note "fetched"
                  return .string "scan"
                deferred := true }),
            ("note",
              { signature := { type := .scalar { name := "text" }, nullable := true }
                deferred := true })] } }
  resolver := fun _ => pure (.object
    [("name", .string "Ann"), ("scan", .string "old"), ("note", .string "private")])

def patientEngine : Engine where
  schema := { operations := [("patient", patient)] }
  options := {}

def patientQuery : Json :=
  .object [("name", .bool true), ("scan", .bool true), ("note", .bool true)]

theorem patientQuery_keysUnique : patientQuery.KeysUnique := by
  have marked : (Json.bool true).KeysUnique := .other rfl
  exact .object (by decide) (by simpa using marked)

/-- The scan is not fetched, and the old one is not shown. -/
theorem deferred_fields_are_left_unresolved_patient :
    let context : Context := ⟨"POST", "/", [], [], [], []⟩
    let request : OperationRequest := ⟨context, ["patient"], none,
      [("name", .bool true), ("scan", .bool true), ("note", .bool true)], "patient"⟩
    patientQuery.KeysUnique ∧
      patientEngine.DefersFields patient "patient" patientQuery context ∧
      (patientEngine.serve patient "patient" patientQuery context).trace
        = [.call (.resolveOperation request) []] ∧
      (patientEngine.serve patient "patient" patientQuery context).outcome = .ok (.object
        [("name", .string "Ann"), ("scan", .null), ("note", .string "private")]) := by
  intro context request
  exact ⟨patientQuery_keysUnique,
    deferred_fields_are_left_unresolved patientEngine patient "patient" patientQuery_keysUnique
      context, rfl, rfl⟩

/-- The note has no resolver, and it is shown although it is deferred. -/
theorem deferred_note_is_shown :
    let context : Context := ⟨"POST", "/", [], [], [], []⟩
    let resolution := patientEngine.resolution patient context
    patientEngine.options.processEntireTree = true ∧ patientQuery.KeysUnique ∧
      ∃ plan value, (patientEngine.planning patient "patient" patientQuery context).Returns plan ∧
        (resolution.resolveRoot plan ["patient"]).Returns value ∧
        ¬ ∀ stop, resolution.Reaches ⟨plan, ["patient"], .null, [], []⟩ stop →
          stop.plan.definition.isDeferred = true →
          ∃ keys, stop.path = "patient" :: keys ∧ value.at? keys = some .null := by
  intro context resolution
  have planned : (patientEngine.planning patient "patient" patientQuery context).Returns _ := rfl
  refine ⟨rfl, patientQuery_keysUnique, _, _, planned, rfl, fun hidden => ?_⟩
  obtain ⟨keys, path, held⟩ := hidden (.ofField _ ["patient"] [_, _] "note" _)
    (.within rfl rfl .self) rfl
  obtain rfl : ["note"] = keys := List.tail_eq_of_cons_eq path
  cases held

end Engine

end TypedQuery
