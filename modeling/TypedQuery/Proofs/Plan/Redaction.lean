import TypedQuery.Plan.Conform
import TypedQuery.Proofs.Plan.Lookups
import TypedQuery.Proofs.Schema.Redaction

/-!
# Plans of redacted schemas

A plan that is made with a redacted schema is the plan that the schema itself makes, redacted by
`Plan.redact`: hidden names are refused before anything else is known of them. Resolving and
conforming do not tell the two plans apart, since neither goes back to the fields of a type.
-/

namespace TypedQuery

/-- What is selected is not hidden, so the types in its signature are all there is to redact. -/
def Definition.redact : Definition → Definition
  | .operation root => .operation root.redact
  | .field inner => .field { inner with signature := inner.signature.redact }

namespace Definition

@[simp] theorem signature_redact (definition : Definition) :
    definition.redact.signature = definition.signature.redact := by
  cases definition <;> rfl

@[simp] theorem hasResolver_redact (definition : Definition) :
    definition.redact.hasResolver = definition.hasResolver := by
  cases definition <;> rfl

/-- A field that is not hidden is redacted as what it is selected for. -/
theorem redact_field {field : Field} (h : field.hidden = false) :
    (Definition.field field).redact = .field field.redact := by
  rw [redact, Field.redact_of_visible h]

end Definition

namespace Plan

mutual

def redact : Plan → Plan
  | .leaf definition scalar args => .leaf definition.redact scalar args
  | .branch definition type selection args children =>
    .branch definition.redact type.redact selection args (redactChildren children)
termination_by structural plan => plan

def redactChildren : (children : List (String × Plan)) → List (String × Plan)
  | [] => []
  | (key, child) :: rest => (key, redact child) :: redactChildren rest
termination_by structural children => children

end

theorem conformFields_redact {children : List (String × Plan)}
    (h : ∀ child ∈ children, child.2.redact.conform = child.2.conform) :
    conformFields (redactChildren children) = conformFields children := by
  induction children with
  | nil => rfl
  | cons child children ih =>
      obtain ⟨key, child⟩ := child
      obtain ⟨first, rest⟩ := List.forall_mem_cons.1 h
      funext members path
      rw [redactChildren, conformFields, conformFields, first, ih rest]

theorem conformLeaf_redact (signature : Signature) :
    conformLeaf signature.redact = conformLeaf signature := by
  cases signature; rfl

theorem conformBranch_redact (signature : Signature) :
    conformBranch signature.redact = conformBranch signature := by
  cases signature; rfl

/-- Conforming looks at nothing that redacting strikes out. -/
theorem conform_redact (plan : Plan) : plan.redact.conform = plan.conform := by
  induction plan with
  | leaf definition scalar args =>
      funext value path
      rw [redact, conform, conform, Definition.signature_redact, conformLeaf_redact]
  | branch definition type selection args children ih =>
      have selected : (redactChildren children).isEmpty = children.isEmpty := by
        cases children <;> rfl
      funext value path
      rw [redact, conform, conform, Definition.signature_redact, conformBranch_redact,
        conformFields_redact ih, selected]

end Plan

namespace Resolution

variable (resolution : Resolution)

theorem ask_redact (definition : Definition) :
    resolution.ask definition.redact = resolution.ask definition := by
  cases definition <;> rfl

theorem resolveFields_redact {children : List (String × Plan)}
    (h : ∀ child ∈ children, resolution.resolve child.2.redact = resolution.resolve child.2) :
    resolution.resolveFields (Plan.redactChildren children)
      = resolution.resolveFields children := by
  induction children with
  | nil => rfl
  | cons child children ih =>
      obtain ⟨key, child⟩ := child
      obtain ⟨first, rest⟩ := List.forall_mem_cons.1 h
      funext members path
      rw [Plan.redactChildren, resolveFields, resolveFields, first, ih rest]

/-- Nor does resolving. -/
theorem resolve_redact (plan : Plan) :
    resolution.resolve plan.redact = resolution.resolve plan := by
  induction plan with
  | leaf definition scalar args =>
      funext value parent path
      rw [Plan.redact, resolve, resolve, ask_redact]
  | branch definition type selection args children ih =>
      funext value parent path
      rw [Plan.redact, resolve, resolve, ask_redact, resolution.resolveFields_redact ih]

end Resolution

namespace Scope

variable (scope : Scope)

/-- The same request, planned with `Schema.redact` of its schema. -/
def redact : Scope := scope.withSchema scope.schema.redact

theorem askGuard_redact (signature : Signature) (query : Json) (path : FieldPath) :
    scope.redact.askGuard signature.redact query path = scope.askGuard signature query path := by
  rw [askGuard, askGuard, Signature.guard_redact, Signature.args_redact]
  rfl

theorem takeArgs_redact (signature : Signature) (args : Option Json) (path : FieldPath) :
    scope.redact.takeArgs signature.redact args path = scope.takeArgs signature args path := by
  rw [redact, takeArgs_withSchema (Schema.resolveInput_redact scope.schema), takeArgs,
    Signature.args_redact, takeArgs]

theorem selectMarked_redact (definition : Definition) (type : ResolvedOutput)
    (path : FieldPath) :
    scope.redact.selectMarked definition.redact type.redact path
      = Plan.redact <$> scope.selectMarked definition type path := by
  cases type with
  | object type => rfl
  | scalar scalar =>
      rw [ResolvedOutput.redact, selectMarked, selectMarked, Definition.signature_redact,
        takeArgs_redact, Signature.args_redact]
      dsimp only
      split
      · rfl
      · rw [map_bind]
        rfl

theorem selectLeaf_redact (definition : Definition) (scalar : Scalar)
    (members : List (String × Json)) (path : FieldPath) :
    scope.redact.selectLeaf definition.redact scalar members path
      = Plan.redact <$> scope.selectLeaf definition scalar members path := by
  rw [selectLeaf, selectLeaf, Definition.signature_redact, takeArgs_redact]
  dsimp only
  split
  · rfl
  · rw [map_bind]
    rfl

variable {scope}

/-- Hidden names are refused alike, and what is not hidden is planned alike. -/
theorem selectFields_redact {members : List (String × Json)}
    (h : ∀ member ∈ members, ∀ definition path,
      scope.redact.select member.2 (Definition.redact definition) path
        = Plan.redact <$> scope.select member.2 definition path)
    (type : ObjectType) (plan : Bool) (path : FieldPath) :
    scope.redact.selectFields members type.redact plan path
      = Plan.redactChildren <$> scope.selectFields members type plan path := by
  induction members with
  | nil => rfl
  | cons member members ih =>
      obtain ⟨key, query⟩ := member
      obtain ⟨first, rest⟩ := List.forall_mem_cons.1 h
      rw [selectFields, selectFields, ih rest]
      split
      · rfl
      · rw [type.get?_fields_redact]
        cases Entries.get? type.fields key with
        | none => rfl
        | some field =>
            rw [Option.map_some]
            dsimp only
            rw [Field.hidden_redact]
            cases hidden : field.hidden with
            | true => rfl
            | false =>
                rw [← Definition.redact_field hidden, first]
                cases plan with
                | false => rfl
                | true =>
                    simp only [if_true, Bool.false_eq_true, if_false, map_bind, bind_map_left]
                    rfl

variable (scope)

/-- Planning with the redacted schema is `Plan.redact` after planning. -/
theorem select_redact (query : Json) (definition : Definition) (path : FieldPath) :
    scope.redact.select query definition.redact path
      = Plan.redact <$> scope.select query definition path := by
  have looked (signature : Signature) : scope.redact.schema.resolveOutput signature.redact.type
      = (scope.schema.resolveOutput signature.type).map ResolvedOutput.redact := by
    rw [Signature.type_redact]
    exact scope.schema.resolveOutput_redact signature.type
  have marker : scope.redact.marker = scope.marker := rfl
  induction query using Json.object_induction generalizing definition path with
  | other query noMembers =>
      rw [select_of_members?_eq_none noMembers, select_of_members?_eq_none noMembers,
        Definition.signature_redact, askGuard_redact, looked, marker, ← Run.attachPath_map,
        map_bind]
      refine congrArg (Run.attachPath path) (bind_congr fun _ => ?_)
      cases scope.schema.resolveOutput definition.signature.type with
      | error error => rfl
      | ok type =>
          dsimp only [Except.map]
          rw [Run.ofExcept_ok, Run.ofExcept_ok, pure_bind, pure_bind, selectMarked_redact]
          split <;> rfl
  | object members ih =>
      rw [select, select]
      beta_reduce
      rw [Definition.signature_redact, askGuard_redact, looked, ← Run.attachPath_map, map_bind]
      refine congrArg (Run.attachPath path) (bind_congr fun _ => ?_)
      cases scope.schema.resolveOutput definition.signature.type with
      | error error => rfl
      | ok type =>
          dsimp only [Except.map]
          rw [Run.ofExcept_ok, Run.ofExcept_ok, pure_bind, pure_bind]
          cases type with
          | scalar scalar => exact selectLeaf_redact scope definition scalar members path
          | object type =>
              have planned : scope.redact.plansChildren definition.redact
                  = scope.plansChildren definition := by
                rw [plansChildren, plansChildren, Definition.hasResolver_redact]
                rfl
              dsimp only [ResolvedOutput.redact]
              rw [takeArgs_redact, planned, selectFields_redact ih]
              simp only [map_bind, bind_map_left]
              rfl

end Scope

end TypedQuery
