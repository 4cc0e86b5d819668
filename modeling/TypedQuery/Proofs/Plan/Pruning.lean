import TypedQuery.Proofs.Plan.Frame

/-!
# Plans without what no one walks

Where a field has a resolver of its own, its value is final, and the fields that are selected in it
are never walked. A plan may leave them out: it is then `Plan.prune` of the full plan, without the
children of the nodes that have a resolver. Planning for it asks for less, so it succeeds wherever
planning in full does, and resolving it makes the same calls and comes to the same value. Only an
operation whose fields are to be filled in is told apart, since it has a resolver and is walked all
the same.
-/

namespace TypedQuery

namespace Plan

mutual

/-- The plan without the fields within fields that have a resolver. -/
def prune : Plan → Plan
  | .leaf definition scalar args => .leaf definition scalar args
  | .branch definition type selection args children =>
    .branch definition type selection args
      (if definition.hasResolver then [] else pruneWithin children)
termination_by structural plan => plan

def pruneWithin : (children : List (String × Plan)) → List (String × Plan)
  | [] => []
  | (key, child) :: rest => (key, child.prune) :: pruneWithin rest
termination_by structural children => children

end

@[simp] theorem definition_prune (plan : Plan) : plan.prune.definition = plan.definition := by
  cases plan <;> rfl

@[simp] theorem args_prune (plan : Plan) : plan.prune.args = plan.args := by
  cases plan <;> rfl

@[simp] theorem selection_prune (plan : Plan) : plan.prune.selection = plan.selection := by
  cases plan <;> rfl

theorem children_prune_of_no_resolver {plan : Plan} (h : plan.definition.hasResolver = false) :
    plan.prune.children = pruneWithin plan.children := by
  cases plan with
  | leaf => rfl
  | branch => exact if_neg (Bool.eq_false_iff.mp h)

end Plan

namespace Scope

variable {scope : Scope}

/-- The same request, for a plan with or without the fields within fields that have a resolver. -/
def withTree (scope : Scope) (fullTree : Bool) : Scope :=
  { scope with options := { scope.options with fullTree } }

/-- Fields that are `Selected` for the one plan are selected for the other. -/
theorem selected_prune {type : ObjectType} {path : FieldPath} {members : List (String × Json)}
    {children : List (String × Plan)}
    (h : List.Forall₂ ((scope.withTree true).Selected type path) members children)
    (ih : ∀ member ∈ members, ∀ definition path plan,
      ((scope.withTree true).select member.2 definition path).Returns plan →
        ((scope.withTree false).select member.2 definition path).Returns plan.prune) :
    List.Forall₂ ((scope.withTree false).Selected type path) members
      (Plan.pruneWithin children) := by
  induction h with
  | nil => exact .nil
  | @cons member child members children first _ ihRest =>
      obtain ⟨ihFirst, ihMembers⟩ := List.forall_mem_cons.1 ih
      obtain ⟨field, selected, key, planned⟩ := first
      exact .cons ⟨field, selected, key, ihFirst _ _ _ planned⟩ (ihRest ihMembers)

theorem returns_selectFields_prune {definition : Definition} {type : ObjectType}
    {path : FieldPath} {members : List (String × Json)} {children : List (String × Plan)}
    (h : ((scope.withTree true).selectFields members type true path).Returns children)
    (ih : ∀ member ∈ members, ∀ definition path plan,
      ((scope.withTree true).select member.2 definition path).Returns plan →
        ((scope.withTree false).select member.2 definition path).Returns plan.prune) :
    ((scope.withTree false).selectFields members type (!definition.hasResolver) path).Returns
      (if definition.hasResolver then [] else Plan.pruneWithin children) := by
  have selected := returns_selectFields.mp h
  cases definition.hasResolver with
  | true => exact returns_selectFields_unplanned.mpr ⟨rfl, selectable_of_selected selected⟩
  | false =>
      exact returns_selectFields.mpr (selected_prune selected fun member inside =>
        ih member (List.mem_of_mem_filter inside))

/-- Whatever has a full plan has the plan without what no one walks, which is its `Plan.prune`. -/
theorem returns_select_prune {query : Json} {definition : Definition} {path : FieldPath}
    {plan : Plan} (h : ((scope.withTree true).select query definition path).Returns plan) :
    ((scope.withTree false).select query definition path).Returns plan.prune := by
  induction query using Json.object_induction generalizing definition path plan with
  | other query noMembers =>
      rw [select_of_members?_eq_none noMembers, Run.returns_attachPath] at h ⊢
      obtain ⟨done, passed, h⟩ := Run.returns_bind.mp h
      obtain ⟨type, resolved, h⟩ := Run.returns_bind.mp h
      refine Run.returns_bind.mpr ⟨done, passed, Run.returns_bind.mpr ⟨type, resolved, ?_⟩⟩
      split at h
      next marked =>
        rw [if_pos (show query.same (scope.withTree false).marker = true from marked)]
        obtain ⟨scalar, args, rfl, _⟩ := leaf_of_selectMarked h
        exact h
      next => exact absurd h Run.not_returns_fail
  | object members ih =>
      cases resolved : (scope.withTree true).schema.resolveOutput definition.signature.type with
      | error error => exact absurd h (not_returns_select_of_unresolved resolved)
      | ok type =>
          have resolvedAlike :
              (scope.withTree false).schema.resolveOutput definition.signature.type = .ok type :=
            resolved
          cases type with
          | scalar scalar =>
              rw [select_of_scalar resolved, Run.returns_attachPath] at h
              rw [select_of_scalar resolvedAlike, Run.returns_attachPath]
              obtain ⟨done, passed, h⟩ := Run.returns_bind.mp h
              obtain ⟨args, rfl, _⟩ := leaf_of_selectLeaf h
              exact Run.returns_bind.mpr ⟨done, passed, h⟩
          | object type =>
              rw [select_of_object resolved, Run.returns_attachPath] at h
              rw [select_of_object resolvedAlike, Run.returns_attachPath]
              obtain ⟨done, passed, h⟩ := Run.returns_bind.mp h
              obtain ⟨args, taken, h⟩ := Run.returns_bind.mp h
              obtain ⟨children, within, h⟩ := Run.returns_bind.mp h
              obtain rfl := Run.returns_pure.mp h
              exact Run.returns_bind.mpr ⟨done, passed, Run.returns_bind.mpr ⟨args, taken,
                Run.returns_bind.mpr ⟨_, returns_selectFields_prune within ih, rfl⟩⟩⟩

end Scope

namespace Resolution

variable {resolution : Resolution}

/-- Fields are filled in only where there is no resolver, unless it is that of an operation. -/
theorem hasResolver_eq_false_of_opens {plan : Plan}
    (final : plan.definition.isOperation = false ∨ resolution.fullTree = false) {value : Json}
    {path : FieldPath} {opened : Json} (opens : resolution.opens? plan value path = some opened) :
    plan.definition.hasResolver = false := by
  rw [opens?] at opens
  cases answers : plan.definition with
  | operation root =>
      rw [answers] at opens final
      obtain field | asIs := final
      · cases field
      · simp [asIs] at opens
  | field inner =>
      cases declared : inner.resolver with
      | none => simp [Definition.hasResolver, declared]
      | some resolver => simp [answers, declared] at opens

theorem resolveFields_prune {children : List (String × Plan)} {path : FieldPath}
    (ih : ∀ child ∈ children, ∀ value parent path,
      resolution.resolve child.2.prune value parent path
        = resolution.resolve child.2 value parent path)
    (members : List (String × Json)) :
    resolution.resolveFields (Plan.pruneWithin children) members path
      = resolution.resolveFields children members path := by
  induction children generalizing members with
  | nil => rfl
  | cons child children ihChildren =>
      obtain ⟨key, plan⟩ := child
      obtain ⟨first, rest⟩ := List.forall_mem_cons.1 ih
      rw [Plan.pruneWithin, resolveFields, resolveFields, first]
      exact bind_congr fun value => ihChildren rest _

theorem resolve_prune_of_children {plan : Plan}
    (final : plan.definition.isOperation = false ∨ resolution.fullTree = false)
    (ih : ∀ child ∈ plan.children, ∀ value parent path,
      resolution.resolve child.2.prune value parent path
        = resolution.resolve child.2 value parent path)
    (value : Json) (parent : List (String × Json)) (path : FieldPath) :
    resolution.resolve plan.prune value parent path
      = resolution.resolve plan value parent path := by
  rw [resolve_eq, resolve_eq, Plan.definition_prune, Plan.args_prune, Plan.selection_prune]
  refine congrArg (Run.attachPath path) (Run.bind_congr_of_returns fun stage asked => ?_)
  cases stage with
  | final => rfl
  | «open» opened =>
      have walked : plan.definition.hasResolver = false :=
        hasResolver_eq_false_of_opens final (opens?_of_returns_ask asked)
      rw [Plan.children_prune_of_no_resolver walked]
      cases opened with
      | null | bool | number | string | array => rfl
      | object members => exact congrArg (Json.object <$> ·) (resolveFields_prune ih members)

/-- What no one walks is not missed. -/
theorem resolve_prune {scope : Scope} {query : Json} {definition : Definition} {place : FieldPath}
    {plan : Plan} (planned : (scope.select query definition place).Returns plan)
    (final : definition.isOperation = false ∨ resolution.fullTree = false) (value : Json)
    (parent : List (String × Json)) (path : FieldPath) :
    resolution.resolve plan.prune value parent path
      = resolution.resolve plan value parent path := by
  refine Scope.induction_of_returns (motive := fun _ definition _ plan =>
    definition.isOperation = false ∨ resolution.fullTree = false → ∀ value parent path,
      resolution.resolve plan.prune value parent path
        = resolution.resolve plan value parent path)
    (fun _ _ _ _ _ _ _ _ _ => rfl) ?_ planned final value parent path
  intro members definition _ type args children _ _ _ within final
  refine resolve_prune_of_children final fun child inside => ?_
  obtain ⟨_, _, _, _, _, alike⟩ := within child inside
  -- Below the plan of an operation there are plans of fields only.
  exact alike (.inl rfl)

/-- Where there is a full plan, there is the plan without the fields within fields that have a
resolver, and it makes no difference which of them is resolved. For an operation it makes none as
long as its fields are not filled in. -/
theorem partial_plan_resolves_as_full_plan {scope : Scope} {query : Json}
    {definition : Definition} {place : FieldPath} {plan : Plan}
    (planned : ((scope.withTree true).select query definition place).Returns plan) :
    ((scope.withTree false).select query definition place).Returns plan.prune ∧
    ∀ (resolution : Resolution) (value : Json) (parent : List (String × Json))
      (path : FieldPath), definition.isOperation = false ∨ resolution.fullTree = false →
        resolution.resolve plan.prune value parent path
          = resolution.resolve plan value parent path :=
  ⟨Scope.returns_select_prune planned, fun _ value parent path final =>
    resolve_prune planned final value parent path⟩

end Resolution

/-- An operation whose fields are filled in tells the one plan from the other. -/
example :
    let resolution : Resolution := ⟨letterScope.context, "letter", true⟩
    let root : Operation := { name := "letter", signature := { type := .object letterType },
                              resolver := fun _ => pure (.object []) }
    let read : Plan := .leaf (.field (.bare (.scalar { name := "boolean" }))) { name := "boolean" }
      none
    let plan : Plan := .branch (.operation root) letterType [("read", .bool true)] none
      [("read", read)]
    (resolution.resolve plan .null [] ["letter"]).Returns (.object [("read", .null)]) ∧
      (resolution.resolve plan.prune .null [] ["letter"]).Returns (.object []) :=
  ⟨rfl, rfl⟩

/-- A desk whose last letter is looked up. -/
def deskType : ObjectType where
  name := "desk"
  fields := [
    ("last", { signature := { type := .object letterType }
               resolver := some fun _ => pure (.object [("text", .string "Hi")]) })]

/-- The letter is looked up, and nothing of it is planned that would not be looked at. -/
theorem Resolution.partial_plan_resolves_as_full_plan_desk :
    let resolution : Resolution := ⟨letterScope.context, "desk", true⟩
    let query : Json := .object [("last", letterQuery)]
    let desk : Definition := .field (.bare (.object deskType))
    ∃ plan, ((letterScope.withTree true).select query desk ["desk"]).Returns plan ∧
      (plan.nodes ["desk"]).map Prod.fst = [["desk"], ["desk", "last"], ["desk", "last", "from"],
        ["desk", "last", "from", "name"], ["desk", "last", "copy"], ["desk", "last", "read"]] ∧
      ((letterScope.withTree false).select query desk ["desk"]).Returns plan.prune ∧
      (plan.prune.nodes ["desk"]).map Prod.fst = [["desk"], ["desk", "last"]] ∧
      resolution.resolve plan.prune (.object []) [] ["desk"]
        = resolution.resolve plan (.object []) [] ["desk"] := by
  intro resolution query desk
  have planned : ((letterScope.withTree true).select query desk ["desk"]).Returns _ := rfl
  obtain ⟨partially, alike⟩ := partial_plan_resolves_as_full_plan planned
  exact ⟨_, planned, rfl, partially, rfl, alike resolution (.object []) [] ["desk"] (.inl rfl)⟩

end TypedQuery
