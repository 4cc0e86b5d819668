import TypedQuery.Proofs.Engine.FullAnswer
import TypedQuery.Proofs.Plan.Stability
import TypedQuery.Proofs.Plan.Walk

/-!
# Operations that answer with a sub-tree

The resolver of an operation may plan the selection that it is shown for itself, starting from a
bare field of its type, resolve that plan over a value and conform what comes out, as `subTree`
does. The fields that it plans are those that the engine has planned. So its answer is what the
engine would respond with if the value were the answer, apart from a null, which a bare field
allows; and where the engine leaves the answer as it is, it makes no difference whether the
operation answers with the sub-tree or with the value: `sub_tree_answers_as_value`.
-/

namespace TypedQuery

namespace Run

variable {α β : Type}

/-- Runs with the same outcome, each continued by runs with the same outcome. -/
theorem outcome_bind_congr {ε : Type} {run other : Run ε α} {next next' : α → Run ε β}
    (first : run.outcome = other.outcome)
    (second : ∀ value, run.Returns value → (next value).outcome = (next' value).outcome) :
    (run >>= next).outcome = (other >>= next').outcome := by
  cases ended : run.outcome with
  | error error => rw [bind_of_error ended, bind_of_error (first.symm.trans ended)]
  | ok value =>
      rw [outcome_bind ended, outcome_bind (first.symm.trans ended)]
      exact second value ended

/-- What has been attributed to a field is not attributed again by `Run.attachPath`. -/
theorem outcome_attachPath_attachPath (path : FieldPath) (run : Run Error α) :
    ((run.attachPath path).attachPath path).outcome = (run.attachPath path).outcome := by
  simp only [outcome_attachPath]
  cases run.outcome with
  | ok value => rfl
  | error error => exact congrArg Except.error (error.attachPath_attachPath path path)

/-- An error of the engine passes through a callback as it is, by `Run.recover`. -/
theorem outcome_recover_engine (call : Call) (run : Run Error α) :
    (invoke call (run.mapError Fault.engine)).recover.outcome = run.outcome := by
  rw [recover, outcome_mapError, outcome_invoke, outcome_mapError]
  cases run.outcome <;> rfl

end Run

namespace Engine

variable (engine : Engine)

/-- Answers with the sub-tree of the type over the value, for the selection and at the path that the
resolver is shown. -/
def subTree (type : OutputRef) (value : Json) : OperationResolver := fun request =>
  let scope : Scope :=
    { schema := engine.schema, marker := engine.options.marker, context := request.context
      operation := request.operation }
  let resolution : Resolution := ⟨request.context, request.operation, true⟩
  let run : Run Error Json := do
    let plan ← scope.select (.object request.selection) (.field (.bare type)) request.path
    let raw ← resolution.resolve plan value [] request.path
    plan.conform raw request.path
  run.mapError .engine

/-- The engine with another resolver for the operation of that name. -/
def answering (name : String) (root : Operation) (resolver : OperationResolver) : Engine :=
  engine.withOperations (Entries.put engine.schema.operations name { root with resolver })

variable {engine} {root : Operation} {name : String} {query : Json} {context : Context}

/-- However the operation is resolved, a request is planned as before, and then the operation
answers it. -/
theorem run_answering (entireTree : Bool) (resolver : OperationResolver) :
    ((engine.answering name root resolver).processing entireTree).run name query context
      = engine.planning root name query context >>= fun plan =>
        (⟨context, root.name, entireTree⟩ : Resolution).resolveRoot
            (plan.answeredBy (.operation { root with resolver })) [name] >>= fun value =>
          (plan.answeredBy (.operation { root with resolver })).conform value [name] := by
  let operations : List (String × Operation) :=
    Entries.put engine.schema.operations name { root with resolver }
  have found : ((engine.answering name root resolver).processing entireTree).schema.operation? name
      = some { root with resolver } := Entries.get?_put_self ..
  have planned : ((engine.answering name root resolver).processing entireTree).planning
      { root with resolver } name query context
        = Plan.answeredBy (.operation { root with resolver })
          <$> engine.planning root name query context :=
    planning_withOperations operations resolver
  rw [run, found]
  exact (congrArg (· >>= _) planned).trans (bind_map_left ..)

/-- The plan of an operation with an object type is a branch, and no arguments are selected in
it. -/
theorem branch_of_planning (object : ∀ scalar, root.signature.type ≠ .scalar scalar) {plan : Plan}
    (planned : (engine.planning root name query context).Returns plan) :
    ∃ type selection args children,
      engine.schema.resolveOutput root.signature.type = .ok (.object type) ∧
      (∀ member ∈ selection, member.1 ≠ argsKey) ∧
      List.Forall₂ ((engine.scope root context).Selected type [name]) selection children ∧
      plan = .branch (.operation root) type selection args children := by
  have full : (engine.scope root context).options = {} := rfl
  let site : Site := ⟨.operation root, query, [name]⟩
  cases query with
  | null | bool | number | string | array =>
      obtain ⟨_, _, scalar, _, resolved, _⟩ :=
        (Scope.returns_select_marked full site rfl).mp planned
      exact absurd (Schema.resolveOutput_eq_scalar_iff.mp resolved) (object scalar)
  | object members =>
      cases resolved : engine.schema.resolveOutput root.signature.type with
      | error error => exact absurd planned (Scope.not_returns_select_of_unresolved resolved)
      | ok type =>
          cases type with
          | scalar scalar =>
              exact absurd (Schema.resolveOutput_eq_scalar_iff.mp resolved) (object scalar)
          | object type =>
              obtain ⟨_, args, _, children, within, rfl⟩ :=
                (Scope.returns_select_branch full site rfl resolved).mp planned
              refine ⟨type, site.selection, args, children, rfl, fun member inside => ?_, within,
                rfl⟩
              simpa using (List.mem_filter.mp inside).2

section Branch

variable {type : ObjectType} {selection : List (String × Json)} {args : Option Json}
  {children : List (String × Plan)}

/-- Filling in the fields below the operation. -/
def filling (root : Operation) (name : String) (context : Context)
    (children : List (String × Plan)) (value : Json) : Run Error Json :=
  ((⟨context, root.name, true⟩ : Resolution).walk children value [name]).attachPath [name]

/-- The plan that a sub-tree makes for the selection in the operation. -/
def subPlan (root : Operation) (type : ObjectType) (selection : List (String × Json))
    (children : List (String × Plan)) : Plan :=
  .branch (.field (.bare root.signature.type)) type selection none children

/-- A sub-tree plans the fields that the engine has planned, and its plan is the `subPlan`. -/
theorem returns_subPlan
    (resolved : engine.schema.resolveOutput root.signature.type = .ok (.object type))
    (noArgs : ∀ member ∈ selection, member.1 ≠ argsKey)
    (within : List.Forall₂ ((engine.scope root context).Selected type [name]) selection children) :
    ((engine.scope root context).select (.object selection)
      (.field (.bare root.signature.type)) [name]).Returns
        (subPlan root type selection children) := by
  have full : (engine.scope root context).options = {} := rfl
  let site : Site := ⟨.field (.bare root.signature.type), .object selection, [name]⟩
  have selected : site.selection = selection :=
    List.filter_eq_self.mpr fun member inside => by simpa using noArgs member inside
  have nothing : site.args? = none := by
    refine Entries.get?_eq_none_iff.mpr fun named => ?_
    obtain ⟨member, inside, same⟩ := List.mem_map.mp named
    exact noArgs member inside same
  refine (Scope.returns_select_branch full site rfl resolved).mpr
    ⟨nofun, none, ?_, children, selected.symm ▸ within, ?_⟩
  · rw [Scope.argsCheck, nothing]
    rfl
  · rw [selected]
    rfl

/-- The operation answers with the value, filled in and conformed as for a bare field. -/
theorem outcome_answer_subTree
    (resolved : engine.schema.resolveOutput root.signature.type = .ok (.object type))
    (noArgs : ∀ member ∈ selection, member.1 ≠ argsKey)
    (within : List.Forall₂ ((engine.scope root context).Selected type [name]) selection children)
    (value : Json) :
    (answer { root with resolver := engine.subTree root.signature.type value } name context
        (.branch (.operation root) type selection args children)).outcome
      = (filling root name context children value >>= fun raw =>
          (subPlan root type selection children).conform raw [name]).outcome := by
  let inner : Plan := subPlan root type selection children
  let resolution : Resolution := ⟨context, root.name, true⟩
  let run : Run Error Json := do
    let plan ← (engine.scope root context).select (.object selection)
      (.field (.bare root.signature.type)) [name]
    let raw ← resolution.resolve plan value [] [name]
    plan.conform raw [name]
  have answered : (answer { root with resolver := engine.subTree root.signature.type value } name
      context (.branch (.operation root) type selection args children)).outcome
        = (run.attachPath [name]).outcome := by
    rw [answer, Run.outcome_attachPath, Run.outcome_attachPath]
    exact congrArg (Except.mapError _) (Run.outcome_recover_engine _ run)
  have filled : resolution.resolve inner value [] [name]
      = filling root name context children value :=
    Resolution.resolve_branch ..
  have planned : run.outcome
      = (filling root name context children value >>= (inner.conform · [name])).outcome := by
    rw [← filled]
    exact Run.outcome_bind (returns_subPlan resolved noArgs within) _
  rw [answered, Run.outcome_attachPath, planned, ← Run.outcome_attachPath, Run.attachPath_bind]
  refine Run.outcome_bind_congr (Run.outcome_attachPath_attachPath ..) fun raw _ => ?_
  exact Run.outcome_attachPath_attachPath ..

theorem outcome_answer_value (value : Json) :
    (answer { root with resolver := fun _ => pure value } name context
        (.branch (.operation root) type selection args children)).outcome
      = (pure value : Run Error Json).outcome := rfl

/-- The operation is asked, and the fields below it are filled in or not. -/
theorem resolveRoot_of_branch (entireTree : Bool) (resolver : OperationResolver) :
    (⟨context, root.name, entireTree⟩ : Resolution).resolveRoot
        (.branch (.operation { root with resolver }) type selection args children) [name]
      = answer { root with resolver } name context
          (.branch (.operation root) type selection args children) >>= fun value =>
            if entireTree then filling root name context children value else pure value := by
  rw [Resolution.resolveRoot, Resolution.resolve_branch, Resolution.ask, bind_assoc,
    Run.attachPath_bind]
  refine bind_congr fun value => ?_
  cases entireTree <;> rfl

/-- A request for which a plan has been made. Only the outcome of the answer matters. -/
theorem outcome_of_answer (entireTree : Bool) (resolver : OperationResolver)
    {answered : Run Error Json} :
    let plan : Plan := .branch (.operation root) type selection args children
    (planned : (engine.planning root name query context).Returns plan) →
    (answer { root with resolver } name context plan).outcome = answered.outcome →
    (((engine.answering name root resolver).processing entireTree).run name query context).outcome
      = (answered >>= fun value =>
          (if entireTree then filling root name context children value else pure value)
            >>= fun value => plan.conform value [name]).outcome := by
  intro plan planned answers
  let answering : Definition := .operation { root with resolver }
  have conformed (value : Json) :
      (plan.answeredBy answering).conform value [name] = plan.conform value [name] := by
    have signature : answering.signature = plan.definition.signature := rfl
    exact Plan.conform_answeredBy signature value [name]
  have resolved : (⟨context, root.name, entireTree⟩ : Resolution).resolveRoot
      (plan.answeredBy answering) [name]
        = answer { root with resolver } name context plan >>= fun value =>
            if entireTree then filling root name context children value else pure value :=
    resolveRoot_of_branch entireTree resolver
  rw [run_answering, Run.outcome_bind planned, resolved, bind_assoc]
  refine Run.outcome_bind_congr answers fun value _ => ?_
  simp only [answering, conformed]

/-- A bare field allows null. -/
theorem subPlan_conform_null (path : FieldPath) :
    (subPlan root type selection children).conform .null path = pure .null := rfl

/-- Apart from null, a bare field has the data of the operation. -/
theorem subPlan_conform_of_ne_null (single : root.signature.array = none) {value : Json}
    (null : value ≠ .null) (path : FieldPath) :
    (subPlan root type selection children).conform value path
      = (Plan.branch (.operation root) type selection args children).conform value path := by
  have notNull : ¬ value.isNull = true := by simpa using null
  have bare : (Definition.field (.bare root.signature.type)).signature.array = none := rfl
  have own : (Definition.operation root).signature.array = none := single
  rw [subPlan, Plan.conform, Plan.conform, Plan.conformBranch, Plan.conformBranch, if_neg notNull,
    if_neg notNull, bare, own]

/-- Data of a bare field whose plan is `Plan.Stable` have the same data for the operation. -/
theorem outcome_conform_conform (single : root.signature.array = none)
    (stable : (Plan.branch (.operation root) type selection args children).Stable) (value : Json)
    (path : FieldPath) :
    let plan : Plan := .branch (.operation root) type selection args children
    ((subPlan root type selection children).conform value path >>= (plan.conform · path)).outcome
      = (plan.conform value path).outcome := by
  intro plan
  by_cases null : value = .null
  · subst null
    rw [subPlan_conform_null, pure_bind]
  · rw [subPlan_conform_of_ne_null single null]
    cases ended : (plan.conform value path).outcome with
    | error error => rw [Run.bind_of_error ended]
    | ok data =>
        have conforms : Plan.Conforms plan value data := Plan.returns_conform.mp ended
        have again : (plan.conform data path).Returns data :=
          Plan.returns_conform.mpr (Plan.conforms_self stable conforms)
        rw [Run.outcome_bind ended]
        exact again

end Branch

/-- A request that has no plan fails alike, however the operation is resolved. -/
theorem outcome_of_not_planned {error : Error}
    (failed : (engine.planning root name query context).outcome = .error error) (entireTree : Bool)
    (resolver : OperationResolver) :
    (((engine.answering name root resolver).processing entireTree).run name query context).outcome
      = .error error := by
  rw [run_answering, Run.bind_of_error failed]

/-- An operation that answers with the sub-tree over a value, its answer left as it is, has the same
outcome as an operation that answers with the value itself, the fields below it filled in: the same
data, or the same error at the same path. -/
theorem sub_tree_answers_as_value (engine : Engine) (root : Operation) (name : String)
    (query : Json) (context : Context) (value : Json)
    (object : ∀ scalar, root.signature.type ≠ .scalar scalar)
    (single : root.signature.array = none) (unique : query.KeysUnique)
    (settles : engine.schema.Settles (engine.sites root name query)) :
    (((engine.answering name root (engine.subTree root.signature.type value)).processing false).run
        name query context).outcome
      = (((engine.answering name root fun _ => pure value).processing true).run
        name query context).outcome := by
  cases ended : (engine.planning root name query context).outcome with
  | error error => rw [outcome_of_not_planned ended, outcome_of_not_planned ended]
  | ok plan =>
      have full : (engine.scope root context).options = {} := rfl
      have stable : plan.Stable := Scope.stable_of_returns full unique settles ended
      obtain ⟨type, selection, args, children, resolved, noArgs, within, rfl⟩ :=
        branch_of_planning object ended
      rw [outcome_of_answer false _ ended (outcome_answer_subTree resolved noArgs within value),
        outcome_of_answer true _ ended (outcome_answer_value value)]
      simp only [Bool.false_eq_true, if_false, if_true, pure_bind, bind_assoc]
      exact Run.outcome_bind_congr rfl fun raw _ => outcome_conform_conform single stable raw [name]

/-- Cards show a name, and display it again by a resolver that reads it from the card. -/
def cardType : ObjectType where
  name := "card"
  fields := [
    ("name", { signature := { type := .scalar Scalar.string } }),
    ("display",
      { signature := { type := .scalar Scalar.string }
        resolver := some fun request =>
          pure ((Entries.get? request.parent "name").getD .null) })]

def cardOperation : Operation where
  name := "card"
  signature := { type := .lookup "card" }
  resolver := fun _ => pure .null

def cardEngine : Engine where
  schema := { objects := [("card", cardType)], operations := [("card", cardOperation)] }
  options := {}

/-- The name is not selected, so that it is gone from the data. -/
def displayQuery : Json := .object [("display", .bool true)]

def annCard : Json := .object [("id", .nat 1), ("name", .string "Ann")]

/-- Below the operation, all that is selected of a card are strings. -/
theorem cardEngine_settles {query : Json} {fields : List Site}
    (sites : cardEngine.sites cardOperation "card" query
      = ⟨.operation cardOperation, query, ["card"]⟩ :: fields)
    (selected : (⟨.operation cardOperation, query, ["card"]⟩ : Site).selection ≠ [])
    (strings : ∀ site ∈ fields, site.definition.signature.type = .scalar Scalar.string) :
    cardEngine.schema.Settles (cardEngine.sites cardOperation "card" query) := by
  rw [sites]
  constructor
  · refine List.forall_mem_cons.mpr ⟨fun _ _ _ => selected, fun site here type resolved => ?_⟩
    rw [strings site here] at resolved
    cases resolved
  · refine List.forall_mem_cons.mpr ⟨nofun, fun site here scalar held => ?_⟩
    cases (strings site here).symm.trans held
    exact Scalar.string_settled

theorem displayQuery_keysUnique : displayQuery.KeysUnique := by
  have marked : (Json.bool true).KeysUnique := .other rfl
  exact .object (by decide) (by simpa using marked)

theorem displayQuery_settles :
    cardEngine.schema.Settles (cardEngine.sites cardOperation "card" displayQuery) :=
  cardEngine_settles rfl (List.cons_ne_nil _ _) (List.forall_mem_singleton.mpr rfl)

/-- The card is displayed under a name that is not in the response. -/
theorem sub_tree_answers_as_value_card :
    let context : Context := ⟨"POST", "/", [], [], [], []⟩
    let subTree : OperationResolver := cardEngine.subTree cardOperation.signature.type annCard
    (∀ scalar, cardOperation.signature.type ≠ .scalar scalar) ∧
      cardOperation.signature.array = none ∧ displayQuery.KeysUnique ∧
      cardEngine.schema.Settles (cardEngine.sites cardOperation "card" displayQuery) ∧
      (((cardEngine.answering "card" cardOperation subTree).processing false).run "card"
          displayQuery context).outcome
        = (((cardEngine.answering "card" cardOperation fun _ => pure annCard).processing true).run
          "card" displayQuery context).outcome ∧
      (((cardEngine.answering "card" cardOperation subTree).processing false).run "card"
          displayQuery context).outcome
        = .ok (.object [("display", .string "Ann")]) := by
  intro context subTree
  have object (scalar : Scalar) : cardOperation.signature.type ≠ .scalar scalar := nofun
  exact ⟨object, rfl, displayQuery_keysUnique, displayQuery_settles,
    sub_tree_answers_as_value cardEngine cardOperation "card" displayQuery context annCard object
      rfl displayQuery_keysUnique displayQuery_settles, rfl⟩

end Engine

end TypedQuery
