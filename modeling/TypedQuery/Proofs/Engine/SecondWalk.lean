import TypedQuery.Proofs.Engine.SubTree
import TypedQuery.Proofs.Plan.Repetition
import TypedQuery.Proofs.Plan.Visibility

/-!
# Sub-trees that are walked a second time

An engine that fills in the fields below an operation does so whatever the operation answers. If it
answers with a sub-tree, that of `Engine.subTree`, these fields have been filled in already, and the
engine walks its data once more. By then the members that are not selected are gone, so that a
resolver that reads one of them from its parent finds nothing there: that is
`second_walk_misses_name`. The response is as if the operation had answered with the data, and each
resolver within the operation is asked at most once by each of the two walks. Where every resolver
comes to the same data again, which is `Plan.Repeats`, nothing shows of the second walk in the
response.
-/

namespace TypedQuery

/-- Conforming a value asks no resolver. -/
theorem Plan.visits_conform (plan : Plan) (value : Json) (path : FieldPath) :
    (plan.conform value path).Visits [] := by
  refine Run.visits_of_only ((only_conform plan value path).mono fun event serializes => ?_)
  cases event with
  | note => rfl
  | call made inner =>
      cases made with
      | serialize => rfl
      | guard | checkInput | parse | resolveOperation | resolveField | deriveArgs =>
          cases serializes

namespace Engine

variable {engine : Engine} {root : Operation} {name : String} {query : Json} {context : Context}

section Branch

variable {type : ObjectType} {selection : List (String × Json)} {args : Option Json}
  {children : List (String × Plan)}

/-- The response when the operation has answered with the value, after `filling` and conforming. -/
def completing (root : Operation) (name : String) (context : Context) (type : ObjectType)
    (selection : List (String × Json)) (args : Option Json) (children : List (String × Plan))
    (value : Json) : Run Error Json :=
  filling root name context children value >>= fun raw =>
    (Plan.branch (.operation root) type selection args children).conform raw [name]

theorem returns_completing {value data : Json} :
    (completing root name context type selection args children value).Returns data ↔
      ∃ raw, ((⟨context, root.name, true⟩ : Resolution).walk children value [name]).Returns raw ∧
        Plan.Conforms (.branch (.operation root) type selection args children) raw data := by
  simp only [completing, filling, Run.returns_bind, Run.returns_attachPath, Plan.returns_conform]

/-- A null has no data but null. -/
theorem outcome_completing_null_again :
    (completing root name context type selection args children .null
        >>= completing root name context type selection args children).outcome
      = (completing root name context type selection args children .null).outcome := by
  cases ended : (completing root name context type selection args children .null).outcome with
  | error error => rw [Run.bind_of_error ended]
  | ok data =>
      obtain ⟨raw, walked, conforms⟩ := returns_completing.mp ended
      obtain rfl := Run.returns_pure.mp walked
      rw [Run.outcome_bind ended]
      cases conforms with
      | null => exact ended
      | object _ notNull => exact absurd rfl notNull

/-- What may be completed again, as `Plan.Repeats` says, has the same response. -/
theorem outcome_completing_again
    (stable : (Plan.branch (.operation root) type selection args children).Stable)
    (repeats : (Plan.branch (.operation root) type selection args children).Repeats)
    (value : Json) :
    (completing root name context type selection args children value
        >>= completing root name context type selection args children).outcome
      = (completing root name context type selection args children value).outcome := by
  cases ended : (completing root name context type selection args children value).outcome with
  | error error => rw [Run.bind_of_error ended]
  | ok data =>
      obtain ⟨raw, walked, conforms⟩ := returns_completing.mp ended
      obtain ⟨again, walkedAgain, conformsAgain⟩ :=
        Resolution.walk_again_of_repeats stable repeats walked conforms
      rw [Run.outcome_bind ended]
      exact returns_completing.mpr ⟨again, walkedAgain, conformsAgain⟩

section Outcome

variable (planned : (engine.planning root name query context).Returns
  (.branch (.operation root) type selection args children))
include planned

theorem outcome_value (value : Json) :
    (((engine.answering name root fun _ => pure value).processing true).run
        name query context).outcome
      = (completing root name context type selection args children value).outcome := by
  rw [outcome_of_answer true _ planned (outcome_answer_value value), pure_bind]
  rfl

/-- The engine completes what the sub-tree has completed. -/
theorem outcome_subTree (single : root.signature.array = none)
    (resolved : engine.schema.resolveOutput root.signature.type = .ok (.object type))
    (noArgs : ∀ member ∈ selection, member.1 ≠ argsKey)
    (within : List.Forall₂ ((engine.scope root context).Selected type [name]) selection children)
    (value : Json) :
    (((engine.answering name root (engine.subTree root.signature.type value)).processing true).run
        name query context).outcome
      = (completing root name context type selection args children value
          >>= completing root name context type selection args children).outcome := by
  rw [outcome_of_answer true _ planned (outcome_answer_subTree resolved noArgs within value),
    completing, bind_assoc, bind_assoc]
  refine Run.outcome_bind_congr rfl fun raw _ => ?_
  by_cases null : raw = .null
  · -- Where a null is refused, the sub-tree lets it pass, and the engine refuses it afterwards.
    subst null
    rw [subPlan_conform_null, pure_bind]
    exact outcome_completing_null_again.symm
  · rw [subPlan_conform_of_ne_null single null]
    rfl

end Outcome

section Visits

variable (resolved : engine.schema.resolveOutput root.signature.type = .ok (.object type))
  (noArgs : ∀ member ∈ selection, member.1 ≠ argsKey)
  (within : List.Forall₂ ((engine.scope root context).Selected type [name]) selection children)
include resolved noArgs within

theorem visits_filling (value : Json) :
    (filling root name context children value).Visits
      ((Plan.nodesWithin children [name]).map Prod.fst) := by
  have planned : ((engine.scope root context).select (.object selection)
      (.field (.bare root.signature.type)) [name]).Returns (subPlan root type selection children) :=
    returns_subPlan resolved noArgs within
  have fields := Scope.fields_of_returns rfl rfl planned
  refine Run.Visits.attachPath (Resolution.visits_walk_of_fields (fun node inside => ?_) value) _
  exact fields node (List.mem_cons_of_mem _ inside)

theorem visits_answer_subTree (value : Json) :
    (answer { root with resolver := engine.subTree root.signature.type value } name context
        (.branch (.operation root) type selection args children)).Visits
      ((Plan.nodesWithin children [name]).map Prod.fst) := by
  let scope : Scope := engine.scope root context
  let resolution : Resolution := ⟨context, root.name, true⟩
  have planned : (scope.select (.object selection) (.field (.bare root.signature.type))
      [name]).Returns (subPlan root type selection children) :=
    returns_subPlan resolved noArgs within
  have planning : (scope.select (.object selection) (.field (.bare root.signature.type))
      [name]).Visits [] :=
    Run.visits_of_only (scope.only_select _ _ _)
  have filled : resolution.resolve (subPlan root type selection children) value [] [name]
      = filling root name context children value :=
    Resolution.resolve_branch ..
  refine Run.Visits.attachPath (Run.Visits.mapError (Run.Visits.ofOperation ?_ _) _) _
  refine Run.Visits.mapError (planning.bind fun plan returned => ?_) _
  obtain rfl : subPlan root type selection children = plan :=
    Except.ok.inj (planned.symm.trans returned)
  have walked := (visits_filling resolved noArgs within value).bind fun raw _ =>
    (subPlan root type selection children).visits_conform raw [name]
  rw [List.append_nil, ← filled] at walked
  exact walked

end Visits

end Branch

/-- Within a sub-tree that is walked twice, each walk asks resolvers at sites of the document, and
`Run.Visits` has both. -/
theorem visits_subTree (object : ∀ scalar, root.signature.type ≠ .scalar scalar) (value : Json) :
    (((engine.answering name root (engine.subTree root.signature.type value)).processing true).run
        name query context).Visits
      ((((engine.sites root name query).map (·.path)).tail)
        ++ (((engine.sites root name query).map (·.path)).tail)) := by
  have planning : (engine.planning root name query context).Visits [] :=
    Run.visits_of_only (engine.planning_asks_no_resolver root name query context)
  rw [run_answering]
  refine planning.bind fun plan planned => ?_
  obtain ⟨type, selection, args, children, resolved, noArgs, within, rfl⟩ :=
    branch_of_planning object planned
  have paths : (engine.sites root name query).map (·.path)
      = [name] :: (Plan.nodesWithin children [name]).map Prod.fst :=
    (Scope.paths_nodes_of_returns rfl planned).symm
  let resolver : OperationResolver := engine.subTree root.signature.type value
  let answering : Plan := .branch (.operation { root with resolver }) type selection args children
  have resolves : ((⟨context, root.name, true⟩ : Resolution).resolveRoot answering [name]).Visits
      ((Plan.nodesWithin children [name]).map Prod.fst
        ++ (Plan.nodesWithin children [name]).map Prod.fst) := by
    rw [resolveRoot_of_branch]
    exact (visits_answer_subTree resolved noArgs within value).bind fun answer _ =>
      visits_filling resolved noArgs within answer
  have responds := resolves.bind fun raw _ => answering.visits_conform raw [name]
  rw [List.append_nil] at responds
  rw [paths, List.tail_cons]
  exact responds

/-- An engine that fills in the fields below an operation walks a sub-tree twice. It responds with
what the value comes to, taken as the answer once more, which is the response to the value itself
if all resolvers that are asked answer again. No resolver is asked twice in the same walk. -/
theorem sub_tree_is_walked_twice (engine : Engine) (root : Operation) (name : String) (query : Json)
    (context : Context) (value : Json) (object : ∀ scalar, root.signature.type ≠ .scalar scalar)
    (single : root.signature.array = none) (unique : query.KeysUnique)
    (settles : engine.schema.Settles (engine.sites root name query)) :
    let given (answer : Json) : Run Error Json :=
      ((engine.answering name root fun _ => pure answer).processing true).run name query context
    let subTree : Run Error Json :=
      ((engine.answering name root (engine.subTree root.signature.type value)).processing true).run
        name query context
    let paths : List FieldPath := (engine.sites root name query).map (·.path)
    subTree.outcome = (given value >>= given).outcome ∧
      ((∀ plan, (engine.planning root name query context).Returns plan → plan.Repeats) →
        subTree.outcome = (given value).outcome) ∧
      ∃ first second, Event.allFieldPaths subTree.trace = first ++ second ∧
        (first.Nodup ∧ first.Sublist paths) ∧ second.Nodup ∧ second.Sublist paths := by
  intro given subTree paths
  have walks : ∃ first second, Event.allFieldPaths subTree.trace = first ++ second ∧
      (first.Nodup ∧ first.Sublist paths) ∧ second.Nodup ∧ second.Sublist paths := by
    obtain ⟨first, second, asked, walked, walkedAgain⟩ :=
      List.sublist_append_iff.mp (visits_subTree object value)
    have once : paths.Nodup := Schema.nodup_paths_sites unique (.operation root) [name]
    have below : paths.tail.Sublist paths := List.tail_sublist paths
    exact ⟨first, second, asked, ⟨once.sublist (walked.trans below), walked.trans below⟩,
      once.sublist (walkedAgain.trans below), walkedAgain.trans below⟩
  cases ended : (engine.planning root name query context).outcome with
  | error error =>
      have refused (resolver : OperationResolver) :
          (((engine.answering name root resolver).processing true).run name query context).outcome
            = .error error := outcome_of_not_planned ended true resolver
      refine ⟨?_, fun _ => (refused _).trans (refused _).symm, walks⟩
      rw [Run.bind_of_error (refused _)]
      exact refused _
  | ok plan =>
      have full : (engine.scope root context).options = {} := rfl
      have stable : plan.Stable := Scope.stable_of_returns full unique settles ended
      obtain ⟨type, selection, args, children, resolved, noArgs, within, rfl⟩ :=
        branch_of_planning object ended
      have twice := outcome_subTree ended single resolved noArgs within value
      refine ⟨twice.trans ?_, fun repeats => ?_, walks⟩
      · exact Run.outcome_bind_congr (outcome_value ended value).symm
          fun data _ => (outcome_value ended data).symm
      · rw [twice, outcome_completing_again stable (repeats _ ended)]
        exact (outcome_value ended value).symm

/-- The card is displayed under its name. In the first walk the name is read from the card, in the
second it is gone. -/
theorem second_walk_misses_name :
    let context : Context := ⟨"POST", "/", [], [], [], []⟩
    let given (answer : Json) : Run Error Json :=
      ((cardEngine.answering "card" cardOperation fun _ => pure answer).processing true).run "card"
        displayQuery context
    let subTree : Run Error Json :=
      ((cardEngine.answering "card" cardOperation
          (cardEngine.subTree cardOperation.signature.type annCard)).processing true).run "card"
        displayQuery context
    (∀ scalar, cardOperation.signature.type ≠ .scalar scalar) ∧
      cardOperation.signature.array = none ∧ displayQuery.KeysUnique ∧
      cardEngine.schema.Settles (cardEngine.sites cardOperation "card" displayQuery) ∧
      (given annCard).outcome = .ok (.object [("display", .string "Ann")]) ∧
      subTree.outcome = .error ((Error.result .nullScalar).attachPath ["card", "display"]) ∧
      Event.allFieldPaths subTree.trace = [["card", "display"], ["card", "display"]] :=
  ⟨nofun, rfl, displayQuery_keysUnique, displayQuery_settles, rfl, rfl, rfl⟩

/-- The name is selected ahead of what reads it. -/
def wholeQuery : Json := .object [("name", .bool true), ("display", .bool true)]

theorem wholeQuery_keysUnique : wholeQuery.KeysUnique := by
  have marked : (Json.bool true).KeysUnique := .other rfl
  exact .object (by decide) (by simpa using marked)

theorem wholeQuery_settles :
    cardEngine.schema.Settles (cardEngine.sites cardOperation "card" wholeQuery) :=
  cardEngine_settles rfl (List.cons_ne_nil _ _)
    (List.forall_mem_cons.mpr ⟨rfl, List.forall_mem_singleton.mpr rfl⟩)

/-- A card whose name is recalled is displayed as before. -/
theorem wholeQuery_repeats {context : Context} {plan : Plan}
    (planned : (cardEngine.planning cardOperation "card" wholeQuery context).Returns plan) :
    plan.Repeats := by
  let shown (field : Field) : Plan := .leaf (.field field) Scalar.string none
  let nameField : Field := { signature := { type := .scalar Scalar.string } }
  let displayField : Field :=
    { nameField with
      resolver := some fun request => pure ((Entries.get? request.parent "name").getD .null) }
  have made : (cardEngine.planning cardOperation "card" wholeQuery context).outcome
      = .ok (.branch (.operation cardOperation) cardType
          [("name", .bool true), ("display", .bool true)] none
          [("name", shown nameField), ("display", shown displayField)]) := rfl
  obtain rfl := Except.ok.inj (made.symm.trans planned)
  refine .branch (fun before key child after split => ?_) fun child inside _ => ?_
  · obtain _ | ⟨first, _ | ⟨second, rest⟩⟩ := before
    · cases split
      exact Plan.answersAgain_of_no_resolver rfl
    · cases split
      refine Plan.answersAgain_of_shows List.mem_cons_self (fun _ _ => rfl) ?_
      rintro _ _ ⟨⟩ ⟨⟩ request
      rfl
    · cases rest <;> cases split
  · obtain rfl | rfl : child = _ ∨ child = _ := by simpa using inside
    · exact .leaf
    · exact .leaf

theorem sub_tree_is_walked_twice_card :
    let context : Context := ⟨"POST", "/", [], [], [], []⟩
    let given (answer : Json) : Run Error Json :=
      ((cardEngine.answering "card" cardOperation fun _ => pure answer).processing true).run "card"
        wholeQuery context
    let subTree : Run Error Json :=
      ((cardEngine.answering "card" cardOperation
          (cardEngine.subTree cardOperation.signature.type annCard)).processing true).run "card"
        wholeQuery context
    (∀ scalar, cardOperation.signature.type ≠ .scalar scalar) ∧
      cardOperation.signature.array = none ∧ wholeQuery.KeysUnique ∧
      cardEngine.schema.Settles (cardEngine.sites cardOperation "card" wholeQuery) ∧
      subTree.outcome = (given annCard).outcome ∧
      subTree.outcome = .ok (.object [("name", .string "Ann"), ("display", .string "Ann")]) := by
  intro context given subTree
  have object (scalar : Scalar) : cardOperation.signature.type ≠ .scalar scalar := nofun
  obtain ⟨-, repeated, -⟩ := sub_tree_is_walked_twice cardEngine cardOperation "card" wholeQuery
    context annCard object rfl wholeQuery_keysUnique wholeQuery_settles
  exact ⟨object, rfl, wholeQuery_keysUnique, wholeQuery_settles,
    repeated fun _ => wholeQuery_repeats, rfl⟩

end Engine

end TypedQuery
