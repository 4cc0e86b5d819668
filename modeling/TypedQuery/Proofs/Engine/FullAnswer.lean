import TypedQuery.Proofs.Engine.GuardsFirst
import TypedQuery.Proofs.Plan.Lookups
import TypedQuery.Schema.BaseScalars

/-!
# Operations that answer in full

Where no field below an operation has a resolver of its own, the operation `AnswersInFull`: its
resolver answers everything, and serving a request is planning it, asking that resolver, and
conforming its answer. Two things follow. Whether the fields below the operation are filled in or
not makes no difference, to the response or to what is called: `entire_tree_makes_no_difference`.
And two answers that agree on what is selected give the same response, so nothing that is not
selected can show in it: `unselected_data_do_not_show`.
-/

namespace TypedQuery

namespace Engine

variable (engine : Engine) (root : Operation) (name : String) (query : Json)
  (context : Context)

/-- No field that is selected below the operation has a resolver. -/
def AnswersInFull : Prop :=
  ∀ site ∈ engine.sites root name query,
    site.definition.isOperation = false → site.definition.hasResolver = false

/-- What the resolver of the operation is shown. -/
def request (root : Operation) (name : String) (context : Context) (plan : Plan) :
    OperationRequest :=
  ⟨context, [name], plan.args, plan.selection, root.name⟩

/-- Asking the resolver of the operation with its `request`. -/
def answer (root : Operation) (name : String) (context : Context) (plan : Plan) :
    Run Error Json :=
  let request := request root name context plan
  Run.attachPath [name] (Run.invoke (.resolveOperation request) (root.resolver request)).recover

end Engine

namespace Resolution

variable {resolution : Resolution} {plan : Plan} {root : Operation}

/-- A passive plan is resolved by asking the operation; if its fields are filled in at all, then
by what `Plan.fill` does to the answer. -/
theorem resolveRoot_of_passive (operation : resolution.operation = root.name)
    (answers : plan.definition = .operation root) (passive : plan.Passive) (name : String) :
    resolution.resolveRoot plan [name]
      = (if resolution.fullTree then plan.fill else id)
        <$> Engine.answer root name resolution.context plan := by
  rw [Engine.answer, ← Run.attachPath_map, Engine.request, ← operation, ← bind_pure_comp]
  cases plan with
  | leaf definition scalar args =>
      cases answers
      rw [resolveRoot, resolve, ask, bind_assoc]
      refine congrArg (Run.attachPath [name]) (bind_congr fun answer => ?_)
      cases resolution.fullTree <;> rfl
  | branch definition type selection args children =>
      cases answers
      rw [resolveRoot, resolve, ask, bind_assoc]
      refine congrArg (Run.attachPath [name]) (bind_congr fun answer => ?_)
      rw [pure_bind]
      cases resolution.fullTree with
      | false => rfl
      | true =>
          cases answer with
          | null | bool | number | string | array => rfl
          | object members =>
              have filled := resolution.resolveFields_of_passive passive members [name]
              exact congrArg (Json.object <$> ·) filled

/-- Conforming does not tell whether the fields have been filled in by `Plan.fill`. -/
theorem resolveRoot_bind_conform (operation : resolution.operation = root.name)
    (answers : plan.definition = .operation root) (passive : plan.Passive) (name : String) :
    (resolution.resolveRoot plan [name] >>= fun value => plan.conform value [name])
      = Engine.answer root name resolution.context plan >>= fun value =>
        plan.conform value [name] := by
  rw [resolveRoot_of_passive operation answers passive, bind_map_left]
  refine bind_congr fun value => ?_
  split
  · exact (Plan.conform_eq_of_agrees (Plan.agrees_fill passive value) [name]).symm
  · rfl

end Resolution

namespace Engine

variable {engine : Engine} {root : Operation} {name : String} {query : Json} {context : Context}

/-- Where the operation answers in full, all its plans are `Plan.Passive`. -/
theorem passive_of_answersInFull (unique : query.KeysUnique)
    (inFull : engine.AnswersInFull root name query) {plan : Plan}
    (planned : (engine.planning root name query context).Returns plan) : plan.Passive := by
  have full : (engine.scope root context).options = {} := rfl
  exact Scope.passive_of_returns full unique inFull planned

/-- With passive plans, a request is planned, the operation is asked, and its answer conformed. -/
theorem serve_of_passive
    (passive : ∀ plan, (engine.planning root name query context).Returns plan → plan.Passive) :
    engine.serve root name query context
      = engine.planning root name query context >>= fun plan =>
        answer root name context plan >>= fun value => plan.conform value [name] := by
  have resolved (plan : Plan) (planned : (engine.planning root name query context).Returns plan) :
      ((⟨context, root.name, engine.options.processEntireTree⟩ : Resolution).resolveRoot plan
          [name] >>= fun value => plan.conform value [name])
        = answer root name context plan >>= fun value => plan.conform value [name] := by
    have answers : plan.definition = .operation root := Scope.definition_of_returns rfl planned
    exact Resolution.resolveRoot_bind_conform rfl answers (passive plan planned) name
  exact Run.bind_congr_of_returns resolved

/-- The engine with the fields below an operation filled in, or left as the operation answers. -/
def processing (engine : Engine) (entireTree : Bool) : Engine :=
  { engine with options := { engine.options with processEntireTree := entireTree } }

/-- Where the operation answers in full, filling in the fields below it changes nothing: neither
the calls that are made, nor the data and their order, nor an error in any of its parts. The
answer may have any shape at all. -/
theorem entire_tree_makes_no_difference (engine : Engine) (name : String) (query : Json)
    (context : Context) (unique : query.KeysUnique)
    (inFull : ∀ root, engine.schema.operation? name = some root →
      engine.AnswersInFull root name query) :
    (engine.processing true).run name query context
      = (engine.processing false).run name query context := by
  have served (entireTree : Bool) (root : Operation)
      (found : engine.schema.operation? name = some root) :
      (engine.processing entireTree).serve root name query context
        = engine.planning root name query context >>= fun plan =>
          answer root name context plan >>= fun value => plan.conform value [name] :=
    serve_of_passive fun plan => passive_of_answersInFull unique (inFull root found)
  unfold run
  have same (entireTree : Bool) :
      (engine.processing entireTree).schema.operation? name = engine.schema.operation? name := rfl
  rw [same true, same false]
  cases found : engine.schema.operation? name with
  | none => rfl
  | some root => exact (served true root found).trans (served false root found).symm

/-- Answers with a person whose boss has no name and a number for friends among friends. -/
def personOperation : Operation where
  name := "person"
  signature := { type := .lookup "person" }
  resolver := fun _ => pure (.object [("password", .string "k7"), ("name", .string "Ann"),
    ("boss", .object [("age", .nat 50)]),
    ("friends", .array [.object [("name", .string "Bo"), ("age", .nat 3)], .null])])

/-- Persons have names, bosses and friends, and a password that nobody may select. -/
def personEngine : Engine where
  schema :=
    { objects := [("person",
        { name := "person"
          fields := [
            ("name", { signature := { type := .scalar Scalar.string, nullable := true } }),
            ("boss", { signature := { type := .lookup "person" } }),
            ("friends", { signature := { type := .lookup "person", array := some ⟨true⟩ } }),
            ("password", { signature := { type := .scalar Scalar.string }, hidden := true })] })]
      operations := [("person", personOperation)] }
  options := {}

/-- The names of a person, of the boss and of the friends. -/
def namesQuery : Json :=
  .object [("name", .bool true), ("boss", .object [("name", .bool true)]),
    ("friends", .object [("name", .bool true)])]

theorem namesQuery_keysUnique : namesQuery.KeysUnique := by
  have marked : (Json.bool true).KeysUnique := .other rfl
  have named : (Json.object [("name", .bool true)]).KeysUnique :=
    .object (by decide) (by simpa using marked)
  exact .object (by decide) (by simp [marked, named])

theorem personEngine_answersInFull :
    personEngine.AnswersInFull personOperation "person" namesQuery := by
  unfold AnswersInFull
  decide

/-- A name that is missing in the answer is null in the response, whether it was filled in or
not. -/
theorem entire_tree_makes_no_difference_person :
    let context : Context := ⟨"POST", "/", [], [], [], []⟩
    namesQuery.KeysUnique ∧
      (∀ root, personEngine.schema.operation? "person" = some root →
        personEngine.AnswersInFull root "person" namesQuery) ∧
      (personEngine.processing true).run "person" namesQuery context
        = (personEngine.processing false).run "person" namesQuery context ∧
      ((personEngine.processing true).run "person" namesQuery context).outcome
        = .ok (.object [("name", .string "Ann"), ("boss", .object [("name", .null)]),
          ("friends", .array [.object [("name", .string "Bo")], .null])]) := by
  intro context
  have inFull (root : Operation)
      (found : personEngine.schema.operation? "person" = some root) :
      personEngine.AnswersInFull root "person" namesQuery := by
    cases found
    exact personEngine_answersInFull
  exact ⟨namesQuery_keysUnique, inFull,
    entire_tree_makes_no_difference personEngine "person" namesQuery context
      namesQuery_keysUnique inFull, rfl⟩

/-- The engine with other operations over the same types. -/
def withOperations (engine : Engine) (operations : List (String × Operation)) : Engine :=
  { engine with schema := { engine.schema with operations } }

/-- What resolves an operation has no say in how it is planned. -/
theorem planning_withOperations (operations : List (String × Operation))
    (resolver : OperationResolver) :
    (engine.withOperations operations).planning { root with resolver } name query context
      = Plan.answeredBy (.operation { root with resolver })
        <$> engine.planning root name query context := by
  have outputs : (engine.withOperations operations).schema.resolveOutput
      = engine.schema.resolveOutput := by
    funext type
    cases type <;> rfl
  have inputs : (engine.withOperations operations).schema.resolveInput
      = engine.schema.resolveInput := by
    funext type
    cases type <;> rfl
  have looked : ((engine.scope root context).withSchema
      (engine.withOperations operations).schema).select query (.operation root) [name]
        = engine.planning root name query context :=
    Scope.select_withSchema outputs inputs query (.operation root) [name]
  have signature : (Definition.operation { root with resolver }).signature
      = (Definition.operation root).signature := rfl
  have resolved : (Definition.operation { root with resolver }).hasResolver
      = (Definition.operation root).hasResolver := rfl
  rw [← looked]
  exact Scope.select_answeredBy signature resolved query [name]

/-- Two answers of the operation that agree on whatever is planned give the same outcome. What is
not selected may differ in any way, hidden fields included. -/
theorem unselected_data_do_not_show (engine : Engine) (operations : List (String × Operation))
    (root : Operation) (resolver : OperationResolver) (name : String) (query : Json)
    (context : Context) (unique : query.KeysUnique)
    (found : engine.schema.operation? name = some root)
    (foundOther : Entries.get? operations name = some { root with resolver })
    (inFull : engine.AnswersInFull root name query)
    (agree : ∀ plan, (engine.planning root name query context).Returns plan →
      ∃ value other, (root.resolver (request root name context plan)).Returns value ∧
        (resolver (request root name context plan)).Returns other ∧ plan.Agrees value other) :
    (engine.run name query context).outcome
      = ((engine.withOperations operations).run name query context).outcome := by
  let other : Operation := { root with resolver }
  have passive (plan : Plan) (planned : (engine.planning root name query context).Returns plan) :
      plan.Passive := passive_of_answersInFull unique inFull planned
  have plannings : (engine.withOperations operations).planning other name query context
      = Plan.answeredBy (.operation other) <$> engine.planning root name query context :=
    planning_withOperations operations resolver
  have passiveOther (plan : Plan)
      (planned : ((engine.withOperations operations).planning other name query context).Returns
        plan) : plan.Passive := by
    rw [plannings] at planned
    obtain ⟨original, returned, rfl⟩ := Run.returns_map.mp planned
    exact Plan.passive_answeredBy (passive original returned)
  have foundOther : (engine.withOperations operations).schema.operation? name = some other :=
    foundOther
  rw [run, run, found, foundOther]
  dsimp only
  rw [serve_of_passive passive, serve_of_passive passiveOther, plannings, bind_map_left]
  cases planned : (engine.planning root name query context).outcome with
  | error error => rw [Run.bind_of_error planned, Run.bind_of_error planned]
  | ok plan =>
      obtain ⟨value, otherValue, returned, otherReturned, agreed⟩ := agree plan planned
      rw [Run.outcome_bind planned, Run.outcome_bind planned]
      have answered : (answer root name context plan).Returns value := by
        rw [answer, Run.returns_attachPath, Run.returns_recover, Run.returns_invoke]
        exact returned
      have otherAnswered : (answer other name context
          (plan.answeredBy (.operation other))).Returns otherValue := by
        rw [answer, Run.returns_attachPath, Run.returns_recover, Run.returns_invoke, request,
          Plan.args_answeredBy, Plan.selection_answeredBy]
        exact otherReturned
      have answers : plan.definition = .operation root := Scope.definition_of_returns rfl planned
      have signature : (Definition.operation other).signature = plan.definition.signature := by
        rw [answers]
        rfl
      rw [Run.outcome_bind answered, Run.outcome_bind otherAnswered,
        Plan.conform_answeredBy signature, Plan.conform_eq_of_agrees agreed]

/-- A different password, no age at all and a hobby: nobody can tell. -/
theorem unselected_data_do_not_show_person :
    let context : Context := ⟨"POST", "/", [], [], [], []⟩
    let resolver : OperationResolver := fun _ => pure (.object [("hobby", .string "chess"),
      ("friends", .array [.object [("name", .string "Bo"), ("password", .string "x")], .null]),
      ("boss", .object []), ("name", .string "Ann")])
    let operations := [("person", { personOperation with resolver })]
    (personEngine.run "person" namesQuery context).outcome
        = ((personEngine.withOperations operations).run "person" namesQuery context).outcome ∧
      (personEngine.run "person" namesQuery context).outcome
        = .ok (.object [("name", .string "Ann"), ("boss", .object [("name", .null)]),
          ("friends", .array [.object [("name", .string "Bo")], .null])]) := by
  intro context resolver operations
  refine ⟨unselected_data_do_not_show personEngine operations personOperation resolver "person"
    namesQuery context namesQuery_keysUnique rfl rfl personEngine_answersInFull ?_, rfl⟩
  intro plan planned
  cases planned
  refine ⟨_, _, rfl, rfl, .object ?_⟩
  refine List.forall_mem_cons.2 ⟨.same, List.forall_mem_cons.2 ⟨?boss, ?friends⟩⟩
  case boss => exact .object (List.forall_mem_singleton.2 .same)
  case friends =>
    refine List.forall_mem_singleton.2 (.array rfl (List.forall_mem_cons.2 ⟨?friend, ?missing⟩))
    case friend => exact .object (List.forall_mem_singleton.2 .same)
    case missing => exact List.forall_mem_singleton.2 .same

end Engine

end TypedQuery
